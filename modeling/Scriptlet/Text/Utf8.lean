/-!
# Text from bytes

Strict decoding refuses bytes that are not UTF-8. Lossy decoding always answers: each longest run
of bytes that begins a character but does not complete one becomes a single replacement character,
and so does each byte that can begin none.
-/

namespace Scriptlet.Text

/-- The bytes of a text. -/
def encode (text : String) : List UInt8 :=
  text.toUTF8.data.toList

/-- The text that the bytes spell, if they are UTF-8. -/
def decode? (bytes : List UInt8) : Option String :=
  String.fromUTF8? (ByteArray.mk bytes.toArray)

/-- The character put in the place of bytes that spell none. -/
def replacement : Char := '\ufffd'

/-- What the bytes read so far leave open: between two characters, or inside one that still needs
`more` bytes, the next of them from `low` to `high`, where `code` holds the bits read. -/
inductive Pending where
  | between
  | inside (more : Nat) (low high : UInt8) (code : Nat)

/-- The first byte of a character: the character itself, or what it leaves open. -/
def beginCharacter (byte : UInt8) : List Char × Pending :=
  let code := byte.toNat
  if byte ≤ 0x7F then ([Char.ofNat code], .between)
  else if byte < 0xC2 then ([replacement], .between)
  else if byte ≤ 0xDF then ([], .inside 1 0x80 0xBF (code - 0xC0))
  else if byte = 0xE0 then ([], .inside 2 0xA0 0xBF 0)
  else if byte = 0xED then ([], .inside 2 0x80 0x9F 0xD)
  else if byte ≤ 0xEF then ([], .inside 2 0x80 0xBF (code - 0xE0))
  else if byte = 0xF0 then ([], .inside 3 0x90 0xBF 0)
  else if byte ≤ 0xF3 then ([], .inside 3 0x80 0xBF (code - 0xF0))
  else if byte = 0xF4 then ([], .inside 3 0x80 0x8F 4)
  else ([replacement], .between)

/-- One byte: the characters that it settles, and what it leaves open. -/
def Pending.next (pending : Pending) (byte : UInt8) : List Char × Pending :=
  match pending with
  | .between => beginCharacter byte
  | .inside more low high code =>
    if low ≤ byte && byte ≤ high then
      let code := code * 64 + (byte.toNat - 0x80)
      if more ≤ 1 then ([Char.ofNat code], .between)
      else ([], .inside (more - 1) 0x80 0xBF code)
    else
      let (settled, rest) := beginCharacter byte
      (replacement :: settled, rest)

/-- The characters of some bytes, with a replacement for every part that spells none. -/
def decodeLossy (bytes : List UInt8) : String :=
  let (reversed, pending) := bytes.foldl
    (fun (reversed, pending) byte =>
      let (settled, pending) := pending.next byte
      (settled.reverse ++ reversed, pending))
    (([] : List Char), Pending.between)
  match pending with
  | .between => String.ofList reversed.reverse
  | .inside .. => String.ofList (replacement :: reversed).reverse

end Scriptlet.Text
