import RamlClient.Decimal.Binary
/-!
# The shortest decimal that reads back

Among the decimals that are closer to a floating-point number than to every other one, the shortest
is taken, and of several shortest ones the nearest.
-/

namespace RamlClient.Decimal

/-- A decimal `digits · 10 ^ exponent`. -/
structure Scaled where
  /-- The digits, as a whole number. -/
  digits : Nat
  /-- The exponent of ten. -/
  exponent : Int
deriving DecidableEq, Repr

/-- The decimal without the zeros at the end of its digits; at most `fuel` of them are removed. -/
def Scaled.strip : Nat → Scaled → Scaled
  | 0, d => d
  | fuel + 1, d =>
    if d.digits ≠ 0 && d.digits % 10 == 0 then
      Scaled.strip fuel ⟨d.digits / 10, d.exponent + 1⟩
    else d

/-- The exponent of the leading digit of the positive fraction `num / den`. -/
def leadingExponent (num den : Nat) : Int :=
  if den ≤ num then (Nat.toDigits 10 (num / den)).length - 1
  else -(((Nat.toDigits 10 (den / num)).length : Nat) : Int) +
    (if num * tenTo ((Nat.toDigits 10 (den / num)).length - 1) == den then 1 else 0)

/-- The numbers around the positive number `mantissa · 2 ^ exponent` that read back as it: all in
quarters of the unit of the last place. -/
structure Neighbourhood where
  /-- The number itself. -/
  value : Nat
  /-- The lower end. -/
  low : Nat
  /-- The upper end. -/
  high : Nat
  /-- Whether the ends belong to it. -/
  closed : Bool

/-- The neighbourhood of the number `m · 2 ^ e`. Below a power of two the numbers lie twice as
dense. -/
def Neighbourhood.around (m : Nat) (e : Int) : Neighbourhood where
  value := 4 * m
  low := if m = minMantissa ∧ minExponent < e then 4 * m - 1 else 4 * m - 2
  high := 4 * m + 2
  closed := m % 2 == 0

/-- The multiple of `10 ^ grid` in the neighbourhood that is nearest to its value, if there is one;
the neighbourhood's unit is `2 ^ unit`. -/
def nearestOnGrid (n : Neighbourhood) (unit grid : Int) : Option Nat :=
  let scale := twoTo unit.toNat * tenTo (-grid).toNat
  let step := twoTo (-unit).toNat * tenTo grid.toNat
  let value := n.value * scale
  let inside (c : Nat) : Bool :=
    if n.closed then n.low * scale ≤ c * step && c * step ≤ n.high * scale
    else n.low * scale < c * step && c * step < n.high * scale
  let below := value / step
  let above := below + 1
  match inside below, inside above with
  | true, true =>
    let down := value - below * step
    let up := above * step - value
    some (if down < up ∨ (down = up ∧ below % 2 = 0) then below else above)
  | true, false => some below
  | false, true => some above
  | false, false => none

/-- The shortest decimal that reads back as the positive number `m · 2 ^ e`. -/
def shortest (m : Nat) (e : Int) : Scaled :=
  let n := Neighbourhood.around m e
  let unit := e - 2
  let leading := leadingExponent (n.value * twoTo unit.toNat) (twoTo (-unit).toNat)
  let grids := (List.range 17).map fun (count : Nat) => leading - (count : Int)
  let found := grids.findSome? fun grid =>
    (nearestOnGrid n unit grid).map (⟨·, grid⟩ : Nat → Scaled)
  (found.getD ⟨m * twoTo e.toNat, 0⟩).strip 400

end RamlClient.Decimal
