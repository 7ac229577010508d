import RamlClient.Text.Segment
/-!
# Halves of characters

The codes from D800 to DFFF are no characters: each is a half of a pair that stands for a character
behind FFFF. An escape may write such a half. A text keeps it as the private character whose code is
100000 (hexadecimal) greater; a text with halves can be shown, where two halves that make a pair are
the character of the pair, but it cannot be encoded. These private characters stand for nothing
else: a text that has them from elsewhere is taken for one with halves.
-/

namespace RamlClient.Text

/-- The first code of a half. -/
def firstHalf : Nat := 0xd800

/-- The first code of a second half. -/
def secondHalf : Nat := 0xdc00

/-- The first code after those of halves. -/
def endOfHalves : Nat := 0xe000

/-- How much greater the code of the character is that stands for a half. -/
def halfDistance : Nat := 0x100000

/-- The character of a code, or the one that stands for the half of that code. -/
def charOfCode (code : Nat) : Char :=
  if firstHalf ≤ code && code < endOfHalves then Char.ofNat (code + halfDistance)
  else Char.ofNat code

/-- The code of the half that a character stands for, if it stands for one. -/
def halfCode? (c : Char) : Option Nat :=
  let code := c.toNat - halfDistance
  if firstHalf ≤ code && code < endOfHalves then some code else none

/-- Whether a character stands for a half. -/
def isHalf (c : Char) : Bool := (halfCode? c).isSome

/-- Whether all characters of a text can be encoded. -/
def isEncodable (s : String) : Bool := !s.toList.any isHalf

/-- The character of a pair of halves, if two characters stand for one. -/
def charOfPair? (c d : Char) : Option Char :=
  match halfCode? c, halfCode? d with
  | some first, some second =>
    if first < secondHalf && secondHalf ≤ second then
      some (Char.ofNat (0x10000 + (first - firstHalf) * 0x400 + (second - secondHalf)))
    else none
  | _, _ => none

/-- The text in which two halves that make a pair are the character of the pair. -/
def joinHalves : List Char → List Char
  | c :: d :: r =>
    match charOfPair? c d with
    | some e => e :: joinHalves r
    | none => c :: joinHalves (d :: r)
  | cs => cs

end RamlClient.Text
