/-!
# Floating-point numbers as exact values

A finite floating-point number of 64 bits is a whole number times a power of two. The other ones
are the infinities and the numbers that are none.
-/

namespace RamlClient.Decimal

/-- A power of two. -/
def twoTo (n : Nat) : Nat := Nat.pow 2 n

/-- A power of ten. -/
def tenTo (n : Nat) : Nat := Nat.pow 10 n

/-- The parts of a floating-point number. -/
inductive Binary where
  /-- The number `mantissa · 2 ^ exponent`, negated if `negative`. -/
  | finite (negative : Bool) (mantissa : Nat) (exponent : Int)
  /-- Infinity, negated if `negative`. -/
  | infinite (negative : Bool)
  /-- Not a number. -/
  | undefined
deriving DecidableEq, Repr

/-- The least exponent of a floating-point number. -/
def minExponent : Int := -1074

/-- The least mantissa of a number whose exponent is not the least one. -/
def minMantissa : Nat := twoTo 52

/-- The parts of a floating-point number, read off its bits. -/
def Binary.ofFloat (x : Float) : Binary :=
  let bits := x.toBits.toNat
  let negative := bits / twoTo 63 % 2 == 1
  let field := bits / twoTo 52 % twoTo 11
  let fraction := bits % twoTo 52
  if field == 2047 then
    if fraction == 0 then .infinite negative else .undefined
  else if field == 0 then .finite negative fraction minExponent
  else .finite negative (minMantissa + fraction) (minExponent + ((field - 1 : Nat) : Int))

/-- The whole number that a floating-point number is, if it is one. -/
def Binary.toInt? : Binary → Option Int
  | .finite negative m e =>
    let sign (n : Nat) : Int := if negative then -(n : Int) else n
    if 0 ≤ e then some (sign (m * twoTo e.toNat))
    else if m % twoTo (-e).toNat == 0 then some (sign (m / twoTo (-e).toNat))
    else none
  | _ => none

end RamlClient.Decimal
