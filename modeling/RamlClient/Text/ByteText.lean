import RamlClient.Text.Segment
/-!
# Texts of bytes

Shells and tools work on bytes. A text of bytes has a character for each byte, namely the one of the
same number.
-/

namespace RamlClient.Text

/-- A text whose characters stand for bytes. -/
abbrev ByteText := String

/-- The text of the bytes that encode a text. -/
def bytesOf (s : String) : ByteText :=
  if s.toList.all fun c => c.toNat < 0x80 then s
  else String.ofList (s.toUTF8.toList.map fun b => Char.ofNat b.toNat)

/-- The bytes of a text of bytes. -/
def rawBytes (s : ByteText) : ByteArray := ⟨(s.toList.map fun c => c.toNat.toUInt8).toArray⟩

/-- The text of bytes. -/
def ofRawBytes (bytes : ByteArray) : ByteText :=
  String.ofList (bytes.toList.map fun b => Char.ofNat b.toNat)

/-- The text that bytes encode, if they are UTF-8. -/
def textOfBytes? (s : ByteText) : Option String :=
  if s.toList.all fun c => c.toNat < 0x80 then some s else String.fromUTF8? (rawBytes s)

/-- The text that bytes encode; bytes that are not UTF-8 stand for themselves. -/
def textOfBytes (s : ByteText) : String := (textOfBytes? s).getD s

/-! ### Characters of bytes -/

/-- The character that stands for a byte which is not part of the encoding of a character. -/
def strayChar (byte : Char) : Char := Char.ofNat (0x10ff00 + byte.toNat)

/-- Whether a character stands for a byte that is not part of the encoding of a character. -/
def isStray (c : Char) : Bool := 0x10ff80 ≤ c.toNat

/-- The character that a byte and some more bytes encode. -/
def encoded? (first : Char) (more : List Char) : Option Char :=
  let isMore (c : Char) : Bool := 0x80 ≤ c.toNat && c.toNat < 0xc0
  let start := match more.length with
    | 0 => if first.toNat < 0x80 then some first.toNat else none
    | 1 => if 0xc0 ≤ first.toNat && first.toNat < 0xe0 then some (first.toNat - 0xc0) else none
    | 2 => if 0xe0 ≤ first.toNat && first.toNat < 0xf0 then some (first.toNat - 0xe0) else none
    | 3 => if 0xf0 ≤ first.toNat && first.toNat < 0xf8 then some (first.toNat - 0xf0) else none
    | _ => none
  match start with
  | none => none
  | some n =>
    if !more.all isMore then none
    else
      let code := more.foldl (fun n c => n * 64 + (c.toNat - 0x80)) n
      let least := ([0, 0x80, 0x800, 0x10000][more.length]?).getD 0
      if code < least || 0x10ffff < code || (0xd800 ≤ code && code < 0xe000) then none
      else some (Char.ofNat code)

/-- The characters that bytes encode. `skip` is the number of bytes at the start that have been
read. -/
def decodeFrom : Nat → List Char → List Char
  | _, [] => []
  | skip + 1, _ :: r => decodeFrom skip r
  | 0, b :: r =>
    if b.toNat < 0x80 then b :: decodeFrom 0 r
    else
      let found := [1, 2, 3].findSome? fun n =>
        if r.length < n then none else (encoded? b (r.take n)).map fun c => (n, c)
      match found with
      | some (n, c) => c :: decodeFrom n r
      | none => strayChar b :: decodeFrom 0 r

/-- The characters that bytes encode. A byte that is not part of the encoding of a character has a
character of its own. -/
def charsOfBytes (s : ByteText) : List Char := decodeFrom 0 s.toList

/-- The bytes that encode characters. -/
def bytesOfChars (cs : List Char) : ByteText :=
  String.ofList (cs.flatMap fun c =>
    if c.toNat < 0x80 then [c]
    else if isStray c then [Char.ofNat (c.toNat - 0x10ff00)]
    else (bytesOf (String.ofList [c])).toList)

end RamlClient.Text
