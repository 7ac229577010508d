import RamlClient.Decimal.Shortest
/-!
# The text of floating-point numbers

A number is written positionally when its leading digit stands between the fourth place after the
point and the sixteenth place before it, and with an exponent of at least two digits otherwise. A
positional number always has a digit after its point.
-/

namespace RamlClient.Decimal

/-- The least exponent of the leading digit of a number that is written positionally. -/
def positionalFrom : Int := -4

/-- The bound for the exponents of the leading digit of numbers that are written positionally. -/
def positionalBelow : Int := 16

/-- The least number of digits of an exponent. -/
def exponentDigits : Nat := 2

/-- Digits in positional notation, with a digit on both sides of the point. -/
def positional (digits : List Char) (exponent : Int) : List Char :=
  let lead := exponent + digits.length
  if lead ≤ 0 then '0' :: '.' :: (List.replicate (-lead).toNat '0' ++ digits)
  else
    let whole := lead.toNat
    let padded := digits ++ List.replicate (whole - digits.length) '0'
    let fraction := padded.drop whole
    padded.take whole ++ '.' :: (if fraction.isEmpty then ['0'] else fraction)

/-- Digits with an exponent. -/
def scientific (digits : List Char) (exponent : Int) : List Char :=
  let lead := exponent + digits.length - 1
  let power := Nat.toDigits 10 lead.natAbs
  let mantissa := match digits with
    | d :: e :: r => d :: '.' :: e :: r
    | ds => ds
  mantissa ++ 'e' :: (if lead < 0 then '-' else '+') ::
    (List.replicate (exponentDigits - power.length) '0' ++ power)

/-- The text of a positive decimal. -/
def Scaled.text (d : Scaled) : List Char :=
  let digits := Nat.toDigits 10 d.digits
  let lead := d.exponent + digits.length - 1
  if positionalFrom ≤ lead && lead < positionalBelow then positional digits d.exponent
  else scientific digits d.exponent

/-- The text of a floating-point number. -/
def floatText (x : Float) : String :=
  match Binary.ofFloat x with
  | .undefined => "nan"
  | .infinite negative => if negative then "-inf" else "inf"
  | .finite negative m e =>
    let body := if m = 0 then ['0', '.', '0'] else (shortest m e).text
    String.ofList (if negative then '-' :: body else body)

/-- The number of the digits at the start of a text, how many they are, and the text after them. -/
def readDigits (cs : List Char) : Nat × Nat × List Char :=
  let ds := cs.takeWhile Char.isDigit
  (ds.foldl (fun n d => n * 10 + (d.toNat - 48)) 0, ds.length, cs.dropWhile Char.isDigit)

/-- The exponent at the end of a number: zero if there is none. -/
def readExponent? : List Char → Option Int
  | [] => some 0
  | 'e' :: r =>
    let (negative, body) := match r with
      | '-' :: t => (true, t)
      | '+' :: t => (false, t)
      | t => (false, t)
    match readDigits body with
    | (n, _ + 1, []) => some (if negative then -(n : Int) else n)
    | _ => none
  | _ => none

/-- The floating-point number nearest to `digits · 10 ^ exponent`. Exponents far outside the range
of floating-point numbers all mean infinity or zero. -/
def floatOfDecimal (digits : Nat) (exponent : Int) : Float :=
  if digits = 0 then 0.0
  else
    let bound : Int := 100000
    let e := max (-bound) (min bound exponent)
    if e < 0 then Float.ofScientific digits true e.natAbs
    else if 400 < e then Float.ofScientific 1 false 400
    else Float.ofScientific digits false e.natAbs

/-- The words for infinity. -/
def infinityWords : List (List Char) := ["inf".toList, "infinity".toList]

/-- Reads a positive number in lower case: digits with an optional point and an optional exponent,
or a word. -/
def readUnsigned? (cs : List Char) : Option Float :=
  if infinityWords.contains cs then some (1.0 / 0.0)
  else if cs = ['n', 'a', 'n'] then some (0.0 / 0.0)
  else
    let (whole, wholeCount, r) := readDigits cs
    let (fraction, fractionCount, r') := match r with
      | '.' :: t => readDigits t
      | _ => (0, 0, r)
    if wholeCount + fractionCount = 0 then none
    else (readExponent? r').map fun e =>
      floatOfDecimal (whole * tenTo fractionCount + fraction) (e - fractionCount)

/-- Reads a number in lower case with an optional sign. -/
def readFloat? : List Char → Option Float
  | '-' :: r => (readUnsigned? r).map (- ·)
  | '+' :: r => readUnsigned? r
  | r => readUnsigned? r

end RamlClient.Decimal
