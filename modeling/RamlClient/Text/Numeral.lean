import RamlClient.Text.Blank
import RamlClient.Text.Digit
/-!
# Whole numbers in text

A numeral has an optional sign and decimal digits of any script, with single underscores allowed
between digits and white space allowed around it. The number of its digits is limited.
-/

namespace RamlClient.Text

/-- The largest number of digits of a numeral. -/
def maxNumeralDigits : Nat := 4300

/-- Whether a character may stand around a numeral: white space other than the information
separators. -/
def isNumeralBlank (c : Char) : Bool := isBlank c && !CodeRanges.contains [(28, 31)] c

/-- The values of the digits of a numeral without sign. A digit starts it, and after an underscore
another digit follows. -/
def numeralDigits? : List Char → Option (List Nat)
  | [] => none
  | [c] => (decimalValue? c).map ([·])
  | c :: '_' :: r => do
    let d ← decimalValue? c
    let ds ← numeralDigits? r
    pure (d :: ds)
  | c :: r => do
    let d ← decimalValue? c
    let ds ← numeralDigits? r
    pure (d :: ds)

/-- The number with the given digits in a base, the most significant digit first. -/
def ofDigits (base : Nat) (ds : List Nat) : Nat := ds.foldl (fun n d => n * base + d) 0

/-- The number that a numeral without sign stands for. -/
def natOfNumeral? (cs : List Char) : Option Nat := do
  let ds ← numeralDigits? cs
  if ds.length ≤ maxNumeralDigits then some (ofDigits 10 ds) else none

/-- A text without the white space that may stand around a numeral. -/
def trimNumeral (cs : List Char) : List Char :=
  dropRightWhile isNumeralBlank (cs.dropWhile isNumeralBlank)

/-- The number that a text with an optional sign stands for, given how the rest is read. -/
def signedBy (unsigned : List Char → Option Nat) : List Char → Option Int
  | '-' :: r => (unsigned r).map fun n => -(n : Int)
  | '+' :: r => (unsigned r).map fun n => (n : Int)
  | r => (unsigned r).map fun n => (n : Int)

/-- The number that a numeral stands for. -/
def intOfNumeral? (cs : List Char) : Option Int := signedBy natOfNumeral? (trimNumeral cs)

/-- The value of a digit in bases up to 36. -/
def digitValue? (c : Char) : Option Nat :=
  let l := c.toLower
  if 'a' ≤ l && l ≤ 'z' then some (l.toNat - 87) else decimalValue? c

/-- The number that digits of a base stand for. -/
def natOfBaseDigits? (base : Nat) (cs : List Char) : Option Nat := do
  let ds ← cs.mapM digitValue?
  if !ds.isEmpty && ds.all (· < base) then some (ofDigits base ds) else none

/-- The number that a numeral of a base stands for; the base may be marked by a zero and a
letter. -/
def intOfBaseNumeral? (base : Nat) (mark : Char) (cs : List Char) : Option Int :=
  let unsigned : List Char → Option Nat
    | '0' :: m :: r => natOfBaseDigits? base (if m.toLower = mark then r else '0' :: m :: r)
    | r => natOfBaseDigits? base r
  signedBy unsigned (trimNumeral cs)

end RamlClient.Text
