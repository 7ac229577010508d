import RamlClient.Text.Numeral
import RamlClient.Yaml.Cursor
import RamlClient.Yaml.Tag
/-!
# The values of scalars

The text of a scalar is read as its tag says. Underscores in numerals do not count; whole numbers
may be binary, octal, hexadecimal or sexagesimal.
-/

namespace RamlClient.Yaml

/-- A value, or why there is none. -/
abbrev Constructed := Except YamlError Value

/-- A value that is there unless the text is a defect. -/
def orDefect {α : Type} (d : Defect) : Option α → Except YamlError α
  | some a => .ok a
  | none => .error (.defect d)

/-- A text without its underscores. -/
def dropUnderscores (cs : List Char) : List Char := cs.filter (· != '_')

/-- Whether a number is negative, and its text without one sign. An empty text is a defect. -/
def splitSign : List Char → Except YamlError (Bool × List Char)
  | [] => .error (.defect .emptyNumeral)
  | '-' :: r => .ok (true, r)
  | '+' :: r => .ok (false, r)
  | cs => .ok (false, cs)

/-- A whole number without sign. -/
def wholeNumber? (cs : List Char) : Except YamlError Int :=
  match cs with
  | [] => .error (.defect .emptyNumeral)
  | ['0'] => .ok 0
  | '0' :: 'b' :: r => orDefect .malformedNumeral (Text.intOfBaseNumeral? 2 'b' r)
  | '0' :: 'x' :: r => orDefect .malformedNumeral (Text.intOfBaseNumeral? 16 'x' r)
  | '0' :: _ => orDefect .malformedNumeral (Text.intOfBaseNumeral? 8 'o' cs)
  | _ =>
    if cs.contains ':' then do
      let parts ← (Text.splitAtChar ':' cs).mapM fun part =>
        orDefect .malformedNumeral (Text.intOfNumeral? part)
      pure (parts.foldl (fun n d => n * 60 + d) 0)
    else orDefect .malformedNumeral (Text.intOfNumeral? cs)

/-- A whole number. -/
def intValue (cs : List Char) : Constructed := do
  let (negative, cs) ← splitSign (dropUnderscores cs)
  let n ← wholeNumber? cs
  pure (.int (if negative then -n else n))

/-- A decimal digit of any script as the digit of that value. -/
def plainDigit (c : Char) : Char :=
  match Text.decimalValue? c with
  | some d => Char.ofNat (48 + d)
  | none => c

/-- A floating-point number in lower case. -/
def floatPart (cs : List Char) : Except YamlError Float :=
  orDefect .malformedNumeral (Decimal.readFloat? ((Text.trimNumeral cs).map plainDigit))

/-- The word for infinity. -/
def infinityWord : List Char := ['.', 'i', 'n', 'f']

/-- The word for what is no number. -/
def undefinedWord : List Char := ['.', 'n', 'a', 'n']

/-- The floating-point number nearest to a whole number, unless that is too large. -/
def floatOfWhole (n : Nat) : Except YamlError Float :=
  let x := Decimal.floatOfDecimal n 0
  if x.isInf then .error (.defect .numberTooLarge) else .ok x

/-- The sum of sexagesimal digits, the least significant first. -/
def sexagesimal (base : Nat) (sum : Float) : List Float → Except YamlError Float
  | [] => .ok sum
  | d :: r => do sexagesimal (base * 60) (sum + d * (← floatOfWhole base)) r

/-- A floating-point number. -/
def floatValue (cs : List Char) : Constructed := do
  let (negative, cs) ← splitSign ((dropUnderscores cs).map Char.toLower)
  if cs = undefinedWord then pure .undefined
  else
    let x ←
      if cs = infinityWord then pure (1.0 / 0.0)
      else if cs.contains ':' then do
        let parts ← (Text.splitAtChar ':' cs).mapM floatPart
        sexagesimal 1 0.0 parts.reverse
      else floatPart cs
    pure (.float (if negative then -x else x))

/-- The truth values of the words in lower case. -/
def truthWords : List (String × Bool) :=
  [("yes", true), ("no", false), ("true", true), ("false", false), ("on", true), ("off", false)]

/-- A truth value. -/
def boolValue (cs : List Char) : Constructed :=
  let word := Text.lower (String.ofList cs)
  orDefect .unknownTruthValue ((truthWords.find? (·.1 == word)).map fun w => .bool w.2)

/-- A date or a time. One line end after it does not count. -/
def timestampValue (cs : List Char) : Constructed := do
  let cs := if cs.getLast? = some '\n' then cs.dropLast else cs
  let t ← orDefect .malformedDate (Timestamp.ofChars? cs)
  t.value.mapError .defect

/-! ### Bytes -/

/-- The value of a character that stands for six bits. -/
def sixBits? (c : Char) : Option Nat :=
  if 'A' ≤ c && c ≤ 'Z' then some (c.toNat - 65)
  else if 'a' ≤ c && c ≤ 'z' then some (c.toNat - 71)
  else if c.isDigit then some (c.toNat + 4)
  else if c = '+' then some 62
  else if c = '/' then some 63
  else none

/-- The bytes that characters write, six bits each. `group` holds the bits of the last characters
that make no byte yet, and `count` the number of characters since the last group of four; `pads` is
the number of equals signs since the last of them. Other characters do not count. -/
def bytesFrom (group count pads : Nat) : List Char → Option (List UInt8)
  | [] => if count = 0 then some [] else none
  | c :: r =>
    if c = '=' then
      if 2 ≤ count then
        if 4 ≤ count + pads + 1 then some [] else bytesFrom group count (pads + 1) r
      else bytesFrom group count pads r
    else match sixBits? c with
      | none => bytesFrom group count pads r
      | some n =>
        match count with
        | 0 => bytesFrom n 1 0 r
        | 1 => (bytesFrom (n % 16) 2 0 r).map ((group * 4 + n / 16).toUInt8 :: ·)
        | 2 => (bytesFrom (n % 4) 3 0 r).map ((group * 16 + n / 4).toUInt8 :: ·)
        | _ => (bytesFrom 0 0 0 r).map ((group * 64 + n).toUInt8 :: ·)

/-- A sequence of bytes. -/
def binaryValue (cs : List Char) : Constructed :=
  match if cs.all (·.toNat < 128) then bytesFrom 0 0 0 cs else none with
  | some bs => .ok (.bytes bs)
  | none => .error .malformed

/-- The value of a scalar with a tag for scalars. -/
def scalarValue (tag : Tag) (cs : List Char) : Constructed :=
  match tag with
  | .null => .ok .null
  | .bool => boolValue cs
  | .int => intValue cs
  | .float => floatValue cs
  | .timestamp => timestampValue cs
  | .text => .ok (.text (String.ofList cs))
  | .binary => binaryValue cs
  | _ => .error .malformed

end RamlClient.Yaml
