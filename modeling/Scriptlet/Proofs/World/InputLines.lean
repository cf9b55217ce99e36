import Mathlib.Data.List.TakeWhile
import Mathlib.Tactic.SplitIfs
import Scriptlet.World.Stream

/-!
# Lines of the input

An input that is made of lines of text is read line by line, without the ends of these lines. Behind
the last one there is nothing to be read, however often that is tried.
-/

namespace Scriptlet

variable {text line ending : String} {lines : List String}

/-! ## Bytes of text -/

namespace Text

/-- A text is encoded character by character. -/
theorem encode_eq (text : String) : encode text = text.toList.flatMap String.utf8EncodeChar := by
  rw [encode, String.toUTF8, ← String.ofList_toList (s := text), String.toByteArray_ofList,
    List.utf8Encode]
  simp

/-- Texts one behind the other are encoded one behind the other. -/
theorem encode_append (first second : String) :
    encode (first ++ second) = encode first ++ encode second := by
  simp only [encode_eq, String.toList_append, List.flatMap_append]

/-- What a text is encoded as is decoded to that text. -/
theorem decode?_encode (text : String) : decode? (encode text) = some text := by
  have same : ByteArray.mk (encode text).toArray = text.toByteArray := rfl
  rw [decode?, same, String.fromUTF8?, dif_pos text.isValidUTF8]
  rfl

/-- Only the empty text has no bytes. -/
theorem encode_eq_nil_iff : encode text = [] ↔ text = "" := by
  constructor
  · intro nothing
    have same := decode?_encode text
    rw [nothing] at same
    exact (Option.some.inj same).symm
  · rintro rfl
    rfl

/-- The byte that ends a line is in no other character. -/
theorem newline_mem_utf8EncodeChar {c : Char} : newline ∈ String.utf8EncodeChar c ↔ c = '\n' := by
  have isNewline : c = '\n' ↔ c.val.toNat = 10 := by
    rw [← Char.val_inj, ← UInt32.toNat_inj]
    rfl
  have same (code : Nat) : newline = UInt8.ofNat code ↔ code % 256 = 10 := by
    rw [← UInt8.toNat_inj, UInt8.toNat_ofNat']
    exact eq_comm
  rw [isNewline]
  unfold String.utf8EncodeChar
  dsimp only
  split_ifs <;> simp only [List.mem_cons, List.not_mem_nil, or_false, same] <;> omega

/-- A line feed among the bytes of a text is one among its characters, as no other character has
such a byte. -/
theorem newline_mem_encode : newline ∈ encode text ↔ '\n' ∈ text.toList := by
  simp only [encode_eq, List.mem_flatMap, newline_mem_utf8EncodeChar, exists_eq_right]

end Text

namespace Input

/-! ## Lines and what they spell -/

/-- A text that can stand on a line: it has no line feed in it, and no carriage return at its end,
which would belong to the end of the line. -/
structure IsLine (line : String) : Prop where
  noFeed : '\n' ∉ line.toList
  noReturn : line.toList.getLast? ≠ some '\r'

/-- An input is made of lines, each with an end of one of the two kinds. The last one may have none,
unless it is empty. -/
inductive Spells : List String → Input → Prop
  | nothing : Spells [] []
  | line {line ending : String} {lines : List String} {input : Input} :
      IsLine line → ending = "\n" ∨ ending = "\r\n" → Spells lines input →
      Spells (line :: lines) (Text.encode (line ++ ending) ++ input)
  | last {line : String} : IsLine line → line ≠ "" → Spells [line] (Text.encode line)

/-- Bytes without a line feed are none of them one. -/
theorem bne_newline_of_no_feed {bytes : List UInt8} (noFeed : newline ∉ bytes) :
    ∀ byte ∈ bytes, (byte != newline) = true :=
  fun _ member => bne_iff_ne.mpr fun same => noFeed (same ▸ member)

/-- What is split off goes up to the first line feed. -/
theorem splitLine_of_feed {bytes : List UInt8} (noFeed : newline ∉ bytes) (rest : Input) :
    splitLine (bytes ++ newline :: rest) = (bytes ++ [newline], rest) := by
  have passes := bne_newline_of_no_feed noFeed
  rw [splitLine, List.takeWhile_append_of_pos passes, List.dropWhile_append_of_pos passes]
  simp

/-- Without a line feed all of the input is split off. -/
theorem splitLine_of_no_feed {bytes : List UInt8} (noFeed : newline ∉ bytes) :
    splitLine bytes = (bytes, []) := by
  have passes := bne_newline_of_no_feed noFeed
  rw [splitLine, List.takeWhile_eq_self_iff.mpr passes, List.dropWhile_eq_nil_iff.mpr passes]

/-- At its own end, a line has nothing that ends one. -/
theorem IsLine.dropWhile_reverse (isLine : IsLine line) :
    line.toList.reverse.dropWhile (fun c => c == '\n' || c == '\r') = line.toList.reverse := by
  cases reversed : line.toList.reverse with
  | nil => rfl
  | cons c rest =>
      have feed : c ≠ '\n' := by
        rintro rfl
        exact isLine.noFeed (List.mem_reverse.mp (reversed ▸ List.mem_cons_self))
      have carriage : c ≠ '\r' := by
        rintro rfl
        exact isLine.noReturn (by rw [← List.head?_reverse, reversed]; rfl)
      exact List.dropWhile_cons_of_neg (by simp [feed, carriage])

/-- What ends a line is taken off its end, and nothing else. -/
theorem trimEnd_append (isLine : IsLine line)
    (ends : ∀ c ∈ ending.toList, c = '\n' ∨ c = '\r') : trimEnd (line ++ ending) = line := by
  have dropped : ∀ c ∈ ending.toList.reverse, (c == '\n' || c == '\r') = true := by
    intro c member
    simpa using ends c (List.mem_reverse.mp member)
  rw [trimEnd, String.toList_append, List.reverse_append, List.dropWhile_append_of_pos dropped,
    isLine.dropWhile_reverse, List.reverse_reverse, String.ofList_toList]

/-- Where no line is left, nothing is read and nothing is left. -/
theorem Spells.readLine_nothing {input : Input} (spells : Spells [] input) :
    input.readLine = (none, []) := by
  cases spells
  rfl

/-- The bytes of a line hold no line feed. -/
theorem IsLine.newline_not_mem (isLine : IsLine line) : newline ∉ Text.encode line :=
  mt Text.newline_mem_encode.mp isLine.noFeed

/-- The line feed is the last byte of its line, whichever of the two ends it has. -/
theorem IsLine.encode_append (isLine : IsLine line) (isEnding : ending = "\n" ∨ ending = "\r\n") :
    ∃ bytes, newline ∉ bytes ∧ Text.encode (line ++ ending) = bytes ++ [newline] := by
  rw [Text.encode_append]
  rcases isEnding with rfl | rfl
  · exact ⟨Text.encode line, isLine.newline_not_mem, rfl⟩
  · have carriage : newline ∉ Text.encode "\r" := by decide
    have both : Text.encode "\r\n" = Text.encode "\r" ++ [newline] := rfl
    refine ⟨Text.encode line ++ Text.encode "\r", ?_, by rw [both, List.append_assoc]⟩
    exact fun member => (List.mem_append.mp member).elim isLine.newline_not_mem carriage

/-- The next line that an input spells is read, and those behind it are left. -/
theorem Spells.readLine_line {input : Input} (spells : Spells (line :: lines) input) :
    ∃ rest, input.readLine = (some line, rest) ∧ Spells lines rest := by
  cases spells with
  | @line _ ending _ behind isLine isEnding later =>
      refine ⟨behind, ?_, later⟩
      have ends : ∀ c ∈ ending.toList, c = '\n' ∨ c = '\r' := by
        rcases isEnding with rfl | rfl <;> simp
      obtain ⟨bytes, noFeed, whole⟩ := isLine.encode_append isEnding
      have split : splitLine (Text.encode (line ++ ending) ++ behind) =
          (Text.encode (line ++ ending), behind) := by
        rw [whole, List.append_assoc, List.singleton_append, splitLine_of_feed noFeed]
      have present : (Text.encode (line ++ ending)).isEmpty = false := by
        rw [whole]
        simp
      simp [readLine, split, present, Text.decode?_encode, trimEnd_append isLine ends]
  | last isLine filled =>
      refine ⟨[], ?_, .nothing⟩
      have split := splitLine_of_no_feed isLine.newline_not_mem
      have present : (Text.encode line).isEmpty = false := by
        rw [List.isEmpty_eq_false_iff]
        exact mt Text.encode_eq_nil_iff.mp filled
      have whole : trimEnd line = line := by
        have trimmed := @trimEnd_append line "" isLine (by simp)
        rwa [String.append_empty] at trimmed
      simp [readLine, split, present, Text.decode?_encode, whole]

/-! ## What is read one line after the other -/

/-- Read line by line, an input gives some answers, and what is left of it is `rest`. -/
inductive Gives : Input → List (Option String) → Input → Prop
  | nothing {input : Input} : Gives input [] input
  | answer {input rest : Input} {answers : List (Option String)} :
      Gives input.readLine.2 answers rest → Gives input (input.readLine.1 :: answers) rest

/-- What is read and then read on is read in order. -/
theorem Gives.append {input middle rest : Input} {answers others : List (Option String)}
    (first : Gives input answers middle) (second : Gives middle others rest) :
    Gives input (answers ++ others) rest := by
  induction first with
  | nothing => exact second
  | answer _ ih => exact .answer (ih second)

/-- One line is read. -/
theorem Gives.one {input : Input} : Gives input [input.readLine.1] input.readLine.2 :=
  .answer .nothing

/-- **The answers are the lines**, each of them once and in order, and behind the last one there is
no answer any more. -/
theorem Spells.answers {input rest : Input} {answers : List (Option String)}
    (spells : Spells lines input) (gives : input.Gives answers rest) :
    ∀ k (inside : k < answers.length), answers[k] = lines[k]? := by
  induction gives generalizing lines with
  | nothing => exact fun k inside => absurd inside (Nat.not_lt_zero k)
  | @answer input rest answers _ ih =>
      intro k inside
      cases lines with
      | nil =>
          have read := spells.readLine_nothing
          have later := @ih [] (read ▸ .nothing)
          cases k with
          | zero => simp [read]
          | succ k => simpa using later k (Nat.lt_of_succ_lt_succ inside)
      | cons line lines =>
          obtain ⟨behind, read, others⟩ := spells.readLine_line
          have later := @ih lines (by rwa [read])
          cases k with
          | zero => simp [read]
          | succ k => simpa using later k (Nat.lt_of_succ_lt_succ inside)

end Input

end Scriptlet
