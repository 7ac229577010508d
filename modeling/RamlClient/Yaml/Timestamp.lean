import RamlClient.Defect
import RamlClient.Value
/-!
# Timestamps

A timestamp is a date, or a date and a time of day. The time follows a `T` or white space, and may
have a fraction of a second and a distance from universal time.
-/

namespace RamlClient.Yaml

/-- A time of day as it is written. -/
structure ClockTime where
  /-- The hour. -/
  hour : Nat
  /-- The minute. -/
  minute : Nat
  /-- The second. -/
  second : Nat
  /-- The microsecond. -/
  microsecond : Nat
  /-- The distance from universal time in minutes, if it is written. -/
  offset : Option Int

/-- A date as it is written, with or without a time of day. -/
structure Timestamp where
  /-- The year. -/
  year : Nat
  /-- The month. -/
  month : Nat
  /-- The day. -/
  day : Nat
  /-- Whether month and day have two digits. -/
  padded : Bool
  /-- The time of day. -/
  time : Option ClockTime

namespace Timestamp

/-- A number of at least `least` and at most `most` digits, their count, and the text after them. -/
def digits? (least most : Nat) (cs : List Char) : Option (Nat × Nat × List Char) :=
  let ds := (cs.take most).takeWhile Char.isDigit
  if least ≤ ds.length then
    some (ds.foldl (fun n d => n * 10 + (d.toNat - 48)) 0, ds.length, cs.drop ds.length)
  else none

/-- The text after a character that has to be there. -/
def expect? (c : Char) : List Char → Option (List Char)
  | [] => none
  | d :: r => if d = c then some r else none

/-- Whether a character is a space or a tab. -/
def isGap (c : Char) : Bool := c == ' ' || c == '\t'

/-- The microseconds that the digits of a fraction write; only six count. -/
def microseconds (ds : List Char) : Nat :=
  let counted := (ds ++ List.replicate 6 '0').take 6
  counted.foldl (fun n d => n * 10 + (d.toNat - 48)) 0

/-- The distance from universal time at the end of a timestamp, none if nothing is left. -/
def offset? (cs : List Char) : Option (Option Int) :=
  match cs.dropWhile isGap with
  | [] => if cs.isEmpty then some none else none
  | ['Z'] => some (some 0)
  | sign :: r =>
    if sign = '+' || sign = '-' then do
      let (hours, _, r) ← digits? 1 2 r
      let minutes ← match r with
        | [] => some 0
        | ':' :: r => do
          let (minutes, _, r) ← digits? 2 2 r
          if r.isEmpty then some minutes else none
        | _ => none
      let distance : Int := hours * 60 + minutes
      some (some (if sign = '-' then -distance else distance))
    else none

/-- The time of day after the date. -/
def time? (cs : List Char) : Option ClockTime := do
  let cs ← match cs with
    | 'T' :: r => some r
    | 't' :: r => some r
    | c :: r => if isGap c then some (r.dropWhile isGap) else none
    | [] => none
  let (hour, _, cs) ← digits? 1 2 cs
  let (minute, _, cs) ← digits? 2 2 (← expect? ':' cs)
  let (second, _, cs) ← digits? 2 2 (← expect? ':' cs)
  let (fraction, cs) := match cs with
    | '.' :: r => (r.takeWhile Char.isDigit, r.dropWhile Char.isDigit)
    | cs => ([], cs)
  some ⟨hour, minute, second, microseconds fraction, ← offset? cs⟩

/-- The timestamp that a text writes. -/
def ofChars? (cs : List Char) : Option Timestamp := do
  let (year, _, cs) ← digits? 4 4 cs
  let (month, monthDigits, cs) ← digits? 1 2 (← expect? '-' cs)
  let (day, dayDigits, cs) ← digits? 1 2 (← expect? '-' cs)
  let time ← if cs.isEmpty then some none else (time? cs).map some
  some ⟨year, month, day, monthDigits == 2 && dayDigits == 2, time⟩

/-- The value of a timestamp, if the calendar has it. -/
def value (t : Timestamp) : Except Defect Value :=
  match Date.ofParts? t.year t.month t.day with
  | none => .error .impossibleDate
  | some date =>
    match t.time with
    | none => .ok (.date date)
    | some c =>
      match DateTime.ofParts? date c.hour c.minute c.second c.microsecond c.offset with
      | none => .error .impossibleDate
      | some time => .ok (.dateTime time)

end Timestamp

end RamlClient.Yaml
