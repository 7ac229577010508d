import RamlClient.Decimal.Binary
/-!
# Numbers with a given number of digits

A fraction is rounded to the nearest number with some digits after the point, or with some digits in
all; of two nearest numbers the even one is taken.
-/

namespace RamlClient.Decimal

/-- A fraction that is not negative. -/
structure Fraction where
  /-- The numerator. -/
  num : Nat
  /-- The denominator, which is not zero. -/
  den : Nat

/-- The quotient of two numbers, rounded to the nearest whole number; of two nearest ones the even
one is taken. -/
def roundedQuotient (num den : Nat) : Nat :=
  let q := num / den
  let r := num % den
  if den < 2 * r || (2 * r == den && q % 2 == 1) then q + 1 else q

/-- The fraction of some digits times a power of ten. -/
def Fraction.ofScaled (digits : Nat) (exponent : Int) : Fraction :=
  if 0 ≤ exponent then ⟨digits * tenTo exponent.toNat, 1⟩ else ⟨digits, tenTo (-exponent).toNat⟩

/-- The fraction with a mantissa of some bits that is nearest to a fraction. -/
def Fraction.toBits (bits : Nat) (x : Fraction) : Fraction :=
  if x.num = 0 then x
  else
    let size : Int := (x.num.log2 : Int) - x.den.log2
    let shift : Int := (bits : Int) - size
    let scaled : Fraction :=
      if 0 ≤ shift then ⟨x.num * twoTo shift.toNat, x.den⟩ else
        ⟨x.num, x.den * twoTo (-shift).toNat⟩
    let extra := (scaled.num / scaled.den).log2 + 1 - bits
    let m := roundedQuotient scaled.num (scaled.den * twoTo extra) * twoTo extra
    if 0 ≤ shift then ⟨m, twoTo shift.toNat⟩ else ⟨m * twoTo (-shift).toNat, 1⟩

/-- A text of digits with zeros before it. -/
def padded (width : Nat) (n : Nat) : List Char :=
  let ds := Nat.toDigits 10 n
  List.replicate (width - ds.length) '0' ++ ds

/-- A fraction with some digits after the point. The point is left out if there are none, unless it
is asked for. -/
def Fraction.fixed (x : Fraction) (places : Nat) (point : Bool) : List Char :=
  let n := roundedQuotient (x.num * tenTo places) x.den
  let ds := padded (places + 1) n
  let whole := ds.take (ds.length - places)
  whole ++ if places = 0 then (if point then ['.'] else []) else '.' :: ds.drop (ds.length - places)

/-- The exponent of the leading digit of a fraction that is not zero, starting from a guess. -/
def Fraction.leading (x : Fraction) : Nat → Int → Int
  | 0, e => e
  | fuel + 1, e =>
    let power (k : Int) : Fraction := .ofScaled 1 k
    if x.num * (power e).den < (power e).num * x.den then leading x fuel (e - 1)
    else if (power (e + 1)).num * x.den ≤ x.num * (power (e + 1)).den then leading x fuel (e + 1)
    else e

/-- The digits of a fraction, one and then some more, and the exponent of the first one. -/
def Fraction.digits (x : Fraction) (more : Nat) : List Char × Int :=
  if x.num = 0 then (List.replicate (more + 1) '0', 0)
  else
    let guess : Int := ((x.num.log2 : Int) - x.den.log2) * 3 / 10
    let e := x.leading 2000 guess
    let unit : Fraction := .ofScaled 1 (e - more)
    let n := roundedQuotient (x.num * unit.den) (x.den * unit.num)
    let ds := Nat.toDigits 10 n
    if ds.length = more + 2 then (ds.dropLast, e + 1) else (ds, e)

/-- An exponent of two digits at least, with its sign. -/
def exponentText (e : Int) : List Char := (if e < 0 then '-' else '+') :: padded 2 e.natAbs

/-- Digits with a point after the first one. -/
def pointed (ds : List Char) (point : Bool) : List Char :=
  match ds with
  | d :: [] => if point then [d, '.'] else [d]
  | d :: r => d :: '.' :: r
  | [] => []

/-- A fraction with an exponent and some digits after the point. -/
def Fraction.withExponent (x : Fraction) (places : Nat) (point : Bool) : List Char :=
  let (ds, e) := x.digits places
  pointed ds point ++ 'e' :: exponentText e

/-- The text without the zeros at its end, and without a point that is left there. -/
def dropZeros (cs : List Char) : List Char :=
  if cs.contains '.' then
    match cs.reverse.dropWhile (· == '0') with
    | '.' :: r => r.reverse
    | r => r.reverse
  else cs

/-- A fraction with some digits in all; it has an exponent if that is less than -4 or not less than
the number of digits. Zeros at the end are kept only if asked for. -/
def Fraction.general (x : Fraction) (count : Nat) (keepZeros : Bool) : List Char :=
  let count := max count 1
  let (ds, e) := x.digits (count - 1)
  if e < -4 || (count : Int) ≤ e then
    let mantissa := pointed ds keepZeros
    (if keepZeros then mantissa else dropZeros mantissa) ++ 'e' :: exponentText e
  else
    let text := x.fixed ((count : Int) - 1 - e).toNat keepZeros
    if keepZeros then text else dropZeros text

end RamlClient.Decimal
