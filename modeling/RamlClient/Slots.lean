import RamlClient.Decimal.Binary
/-!
# Numbers in slots

The members of a set of numbers are put one after another into a table of slots. A member begins at
the slot that its code names and goes on until it finds one that is free; the order of the slots is
the order of the set. Numbers that are equal have one code.
-/

namespace RamlClient.Slots

/-- The modulus of codes, a prime. -/
def modulus : Nat := Decimal.twoTo 61 - 1

/-- The code of a residue with a sign; no code is -1. -/
def signedCode (negative : Bool) (residue : Nat) : Int :=
  let code : Int := if negative then -(residue : Int) else residue
  if code = -1 then -2 else code

/-- The code of a whole number. -/
def codeOfInt (n : Int) : Int := signedCode (decide (n < 0)) (n.natAbs % modulus)

/-- The code of infinity. -/
def infinityCode : Nat := 314159

/-- The code of a floating-point number that is one. Modulo the modulus, two to the power of 61 is
one. -/
def codeOfBinary? : Decimal.Binary → Option Int
  | .finite negative m e =>
    some (signedCode negative (m * Decimal.twoTo (e % 61).toNat % modulus))
  | .infinite negative => some (signedCode negative infinityCode)
  | .undefined => none

/-- The number of slots for a number of members: at least eight, and for more than four members the
least power of two that is greater than twice their number. -/
def slotCount (members : Nat) : Nat :=
  if members < 5 then 8 else Decimal.twoTo (Nat.log2 (2 * members) + 1)

/-- How many neighbours of a slot are tried. -/
def maxNeighbours : Nat := 9

/-- A table: the member in each slot, if there is one. -/
abbrev Table (α : Type) := Array (Option α)

/-- The first free slot among one and some of its neighbours. -/
def freeSlot? {α : Type} (table : Table α) (slot : Nat) : Nat → Option Nat
  | 0 => if (table[slot]?).join.isNone then some slot else none
  | neighbours + 1 =>
    if (table[slot]?).join.isNone then some slot else freeSlot? table (slot + 1) neighbours

/-- The slot for a member that begins at a slot. When it and its neighbours are taken, what is left
of the code shows where to go on. `tries` bounds the number of new beginnings. -/
def slotFrom {α : Type} (table : Table α) (slot rest : Nat) : Nat → Nat
  | 0 => slot
  | tries + 1 =>
    let neighbours := if slot + maxNeighbours < table.size then maxNeighbours else 0
    match freeSlot? table slot neighbours with
    | some free => free
    | none =>
      let rest := rest / 32
      slotFrom table ((slot * 5 + 1 + rest) % table.size) rest tries

/-- The table with one more member. -/
def put {α : Type} (table : Table α) (code : Int) (a : α) : Table α :=
  let word := (code % (Decimal.twoTo 64 : Int)).toNat
  let slot := slotFrom table (word % table.size) word (table.size + 64)
  table.setIfInBounds slot (some a)

/-- Members with their codes in the order of their slots. -/
def order {α : Type} (members : List (Int × α)) : List α :=
  let start : Table α := Array.replicate (slotCount members.length) none
  (members.foldl (fun table m => put table m.1 m.2) start).toList.filterMap id

end RamlClient.Slots
