import Scriptlet.Shell.Tool.Text

/-!
# Octets as text

Tools that show octets as numbers, and that write them with letters and digits alone.
-/

namespace Scriptlet.Shell

open Working

/-- How octets are shown: how many of them make a number, its base or its letter, and its width. -/
structure DumpStyle where
  size : Nat
  letter : Char

/-- The style that a text spells. -/
def DumpStyle.ofText? (text : String) : Option DumpStyle :=
  match text.toList with
  | ['c'] => some ⟨1, 'c'⟩
  | ['a'] => some ⟨1, 'a'⟩
  | letter :: rest =>
    let size := digitsValue 10 (rest.takeWhile Char.isDigit)
    let known := ['d', 'o', 'u', 'x'].contains letter
    if known then some ⟨if rest.isEmpty then 4 else size, letter⟩ else none
  | [] => none

/-- The width of a number in a style, with the blank in front. -/
def DumpStyle.width (style : DumpStyle) : Nat :=
  let bits := 8 * style.size
  match style.letter with
  | 'c' | 'a' => 4
  | 'o' => (bits + 2) / 3 + 1
  | 'x' => 2 * style.size + 1
  | 'd' => (toString (Nat.pow 2 (bits - 1))).length + 2
  | _ => (toString (Nat.pow 2 bits - 1)).length + 1

/-- The name of a control character in short. -/
def controlNames : List String :=
  ["nul", "soh", "stx", "etx", "eot", "enq", "ack", "bel", "bs", "ht", "nl", "vt", "ff", "cr", "so",
    "si", "dle", "dc1", "dc2", "dc3", "dc4", "nak", "syn", "etb", "can", "em", "sub", "esc", "fs",
    "gs", "rs", "us", "sp"]

/-- A number in a base with zeros in front. -/
def zeroFilled (base width value : Nat) : String :=
  let digits := Nat.toDigits base value
  String.ofList (List.replicate (width - digits.length) '0' ++ digits)

/-- Some octets, of which the first ones count least, in a style. -/
def DumpStyle.show (style : DumpStyle) (octets : Octets) : String :=
  let value := octets.foldr (fun c total => total * 256 + c.toNat) 0
  match style.letter with
  | 'c' =>
    match octets.head?.getD '\x00' with
    | '\x00' => "\\0"
    | '\x07' => "\\a"
    | '\x08' => "\\b"
    | '\x0c' => "\\f"
    | '\n' => "\\n"
    | '\x0d' => "\\r"
    | '\t' => "\\t"
    | '\x0b' => "\\v"
    | c => if ' ' ≤ c && c ≤ '~' then String.singleton c else zeroFilled 8 3 c.toNat
  | 'a' =>
    let code := value % 128
    if code = 127 then "del" else (controlNames[code]?).getD (String.singleton (Char.ofNat code))
  | 'o' => zeroFilled 8 ((8 * style.size + 2) / 3) value
  | 'x' => zeroFilled 16 (2 * style.size) value
  | 'd' =>
    let half := Nat.pow 2 (8 * style.size - 1)
    if half ≤ value then "-" ++ toString (2 * half - value) else toString value
  | _ => toString value

/-- A list cut into parts of a length. -/
def chunksOf {α : Type} (bound size : Nat) (items : List α) : List (List α) :=
  match bound with
  | 0 => []
  | bound + 1 =>
    if items.isEmpty then [] else items.take size :: chunksOf bound size (items.drop size)

/-- Shows octets as numbers. -/
def dumpFiles (arguments : List String) : Working Unit :=
  withGiven ⟨"od", "abcdovx", "ANtjw", [("format", 't'), ("address-radix", 'A'),
    ("read-bytes", 'N'), ("skip-bytes", 'j')], false⟩ 1 arguments fun given => do
    let octets ← readJoined "od" 1 given.operands
    let octets := octets.drop (((given.value? 'j').bind count?).getD 0)
    let octets := match (given.value? 'N').bind count? with
      | some count => octets.take count
      | none => octets
    let named : List (Char × DumpStyle) := [('a', ⟨1, 'a'⟩), ('b', ⟨1, 'o'⟩), ('c', ⟨1, 'c'⟩),
      ('d', ⟨2, 'u'⟩), ('o', ⟨2, 'o'⟩), ('x', ⟨2, 'x'⟩)]
    let found := given.options.filterMap fun (letter, value) =>
      if letter == 't' then DumpStyle.ofText? value else named.lookup letter
    let styles := if found.isEmpty then [⟨2, 'o'⟩] else found
    let radix := ((given.value? 'A').bind fun text => text.toList.head?).getD 'o'
    let address (value : Nat) : String := match radix with
      | 'n' => ""
      | 'd' => zeroFilled 10 7 value
      | 'x' => zeroFilled 16 6 value
      | _ => zeroFilled 8 7 value
    let rows := chunksOf (octets.length + 1) 16 octets
    let unit := styles.foldl (fun widest style => max widest ((style.width * 16) / style.size)) 1
    for (row, index) in rows.zipIdx do
      if 0 < index && rows[index - 1]? == some row && index + 1 < rows.length && !given.has 'v' then
        if !(1 < index && rows[index - 2]? == some row) then writeText "*\n"
      else
        for (style, order) in styles.zipIdx do
          let front := address (16 * index)
          let front := if order = 0 then front else "".pushn ' ' front.length
          let cells := (chunksOf 17 style.size row).map fun octets =>
            padLeft (max style.width (unit * style.size / 16)) (style.show octets)
          writeText (front ++ String.join cells ++ "\n")
    if radix != 'n' then writeText (address octets.length ++ "\n")

/-- The characters that stand for six bits each. -/
def sixBitChars : List Char :=
  charsFrom 'A' 26 ++ charsFrom 'a' 26 ++ charsFrom '0' 10 ++ ['+', '/']
where
  /-- So many characters from one on. -/
  charsFrom (first : Char) (count : Nat) : List Char :=
    (List.range count).map fun n => Char.ofNat (first.toNat + n)

/-- Up to three octets in letters. -/
def sixBits (octets : Octets) : Octets :=
  let value := octets.foldl (fun total c => total * 256 + c.toNat) 0 * Nat.pow 256 (3 - octets.length)
  let digits := [262144, 4096, 64, 1].map fun unit => (sixBitChars[value / unit % 64]?).getD '='
  digits.take (octets.length + 1) ++ List.replicate (3 - octets.length) '='

/-- The octets that up to four letters stand for. -/
def ofSixBits (letters : Octets) : Octets :=
  let kept := letters.filter (· != '=')
  let value := kept.foldl (fun total c =>
    total * 64 + (sixBitChars.findIdx? (· == c)).getD 0) 0 * Nat.pow 64 (4 - kept.length)
  ([65536, 256, 1].map fun unit => Char.ofNat (value / unit % 256)).take (kept.length - 1)

/-- Writes octets in letters and digits, or reads them back. -/
def encodeFiles (arguments : List String) : Working Unit :=
  let long := [("decode", 'd'), ("wrap", 'w'), ("ignore-garbage", 'i')]
  withGiven ⟨"base64", "di", "w", long, false⟩ 1 arguments fun given => do
    let octets ← readJoined "base64" 1 given.operands
    if given.has 'd' then
      let letters := octets.filter fun c => c != '\n'
      let valid := letters.takeWhile fun c => sixBitChars.contains c || c == '='
      write ((chunksOf (valid.length + 1) 4 valid).flatMap ofSixBits)
      if valid.length < letters.length || letters.length % 4 ≠ 0 then
        complain 1 "base64: invalid input"
    else
      let letters := (chunksOf (octets.length + 1) 3 octets).flatMap sixBits
      let width := ((given.value? 'w').bind count?).getD 76
      if width = 0 then write letters
      else
        for line in chunksOf (letters.length + 1) width letters do writeLine line

end Scriptlet.Shell
