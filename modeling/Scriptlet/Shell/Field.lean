import Scriptlet.Shell.Pattern
import Scriptlet.Shell.Place

/-!
# Fields

An expanded word is a list of chunks. Some of them are split into fields at separators; some come
from several arguments, between which there are gaps. A field that is a pattern stands for the
paths that it matches.
-/

namespace Scriptlet.Shell

/-- A grain of an expanded word: a character, which may be taken as it is, the trace of a quote, or
a gap between two arguments. -/
inductive Grain where
  | glyph (glyph : Glyph)
  | mark
  | gap
  deriving DecidableEq

/-- How a chunk is split: not at all, at separators and gaps, or at gaps only. -/
inductive Cut where
  | never
  | atSeparators
  | atGaps
  deriving DecidableEq

/-- A part of an expanded word. -/
structure Chunk where
  cut : Cut
  grains : List Grain

namespace Chunk

/-- The chunk of a text. -/
def ofText (quoted : Bool) (text : String) : Chunk where
  cut := if quoted then .never else .atSeparators
  grains := text.toList.map fun c => .glyph ⟨c, quoted⟩

/-- The glyphs of some chunks. -/
def glyphs (chunks : List Chunk) : List Glyph :=
  chunks.flatMap fun chunk => chunk.grains.filterMap fun
    | .glyph glyph => some glyph
    | .mark => none
    | .gap => some ⟨' ', false⟩

/-- The text of some chunks. -/
def text (chunks : List Chunk) : String :=
  String.ofList ((glyphs chunks).map (·.char))

/-- The characters of some grains up to the first gap. -/
def charsBeforeGap (grains : List Grain) : List Char :=
  (grains.takeWhile (· ≠ .gap)).filterMap fun
    | .glyph glyph => some glyph.char
    | _ => none

/-- A chunk without the shortest or the longest end, or beginning, that a pattern stands for. A gap
ends what is compared with the pattern, and the longest end begins in front of all gaps. -/
def strip (pattern : NamePattern) (atEnd longest : Bool) (chunk : Chunk) : Chunk :=
  let grains := chunk.grains
  let found (count : Nat) : Bool :=
    pattern.covers (charsBeforeGap (if atEnd then grains.drop count else grains.take count))
  let front := if atEnd && longest then (grains.takeWhile (· ≠ .gap)).length else grains.length
  let counts := List.range (front + 1)
  match (if atEnd = longest then counts else counts.reverse).find? found with
  | none => chunk
  | some count => { chunk with grains := if atEnd then grains.take count else grains.drop count }

end Chunk

/-- The fields that are complete, the last one first, and the one that is begun, from its end.
Behind a separator that is a blank, more of them belong to the same separation. -/
structure Splitting where
  complete : List (List Grain)
  begun : List Grain
  behindBlank : Bool

namespace Splitting

/-- Takes a grain in. `onlyGaps` tells whether just gaps separate here, and `behindGaps` whether it
was so in the chunk before. -/
def take (separators : List Char) (onlyGaps behindGaps : Bool) (state : Splitting)
    (grain : Grain) : Splitting :=
  let (separates, isBlank) := match grain with
    | .gap => (true, true)
    | .mark => (false, false)
    | .glyph glyph =>
      let separates := !onlyGaps && separators.contains glyph.char
      (separates, separates && (glyph.char == ' ' || glyph.char == '\t' || glyph.char == '\n'))
  if state.behindBlank then
    if separates then { state with begun := [], behindBlank := isBlank }
    else { state with begun := [grain], behindBlank := false }
  else if separates then
    let behindBlank := isBlank && !(behindGaps || onlyGaps)
    if state.begun.isEmpty && behindBlank then { state with begun := [], behindBlank := false }
    else { complete := state.begun.reverse :: state.complete, begun := [], behindBlank }
  else { state with begun := grain :: state.begun, behindBlank := false }

end Splitting

/-- The fields of some chunks. -/
def fieldsOf (separators : List Char) (chunks : List Chunk) : List (List Grain) :=
  let start : Splitting × Bool := (⟨[], [], false⟩, false)
  let (state, behindGaps) := chunks.foldl (fun (state, behindGaps) chunk =>
    match chunk.cut with
    | .never => ({ state with begun := chunk.grains.reverse ++ state.begun }, behindGaps)
    | cut =>
      let onlyGaps := cut = .atGaps
      (chunk.grains.foldl (Splitting.take separators onlyGaps behindGaps)
        { state with behindBlank := false }, onlyGaps)) start
  let fields := if behindGaps || !state.begun.isEmpty then state.begun.reverse :: state.complete
    else state.complete
  fields.reverse

/-- The glyphs of a field. -/
def fieldGlyphs (field : List Grain) : List Glyph :=
  field.filterMap fun
    | .glyph glyph => some glyph
    | _ => none

/-- The text of some glyphs. -/
def textOf (glyphs : List Glyph) : String :=
  String.ofList (glyphs.map (·.char))

/-- Whether a class between brackets is complete. -/
def closesBracket : List Glyph → Bool
  | [] => false
  | glyph :: rest => rest.any (· = ⟨']', false⟩) && glyph.char != '/'

/-- Whether a step of a path is a pattern. -/
def isPattern : List Glyph → Bool
  | [] => false
  | ⟨'*', false⟩ :: _ | ⟨'?', false⟩ :: _ => true
  | ⟨'[', false⟩ :: rest =>
    closesBracket (if rest.head? = some ⟨'!', false⟩ then rest.drop 1 else rest) || isPattern rest
  | _ :: rest => isPattern rest

/-- The paths that match some steps behind what is settled of the path. -/
def matchingPaths (place : Place) (settledPath : String) : List (List Glyph) → List String
  | [] => []
  | step :: rest =>
    if isPattern step then
      let folder := if settledPath = "" then "." else spelled settledPath
      match place.get? folder with
      | some (.folder entries) =>
        let names := [".", ".."] ++ entries.map fun entry => wordOf entry.1
        let hidden := step.head?.any (·.char == '.')
        let pattern := NamePattern.ofGlyphs step
        let found := names.filter fun name =>
          (hidden || !name.startsWith ".") && pattern.covers name.toList
        if rest.isEmpty then found.map (settledPath ++ ·)
        else found.flatMap fun name => matchingPaths place (settledPath ++ name ++ "/") rest
      | _ => []
    else
      let path := settledPath ++ textOf step
      if rest.isEmpty then
        if (place.get? (spelled path)).isSome then [path] else []
      else matchingPaths place (path ++ "/") rest

/-- The words that a field stands for: the paths that it matches, or itself. -/
def wordsOf (place : Place) (matchNames : Bool) (field : List Grain) : List String :=
  let glyphs := fieldGlyphs field
  if matchNames && isPattern (settled glyphs) then
    let paths := matchingPaths place "" ((settled glyphs).splitOnP fun glyph => glyph.char == '/')
    if paths.isEmpty then [textOf glyphs] else paths.mergeSort
  else [textOf glyphs]

end Scriptlet.Shell
