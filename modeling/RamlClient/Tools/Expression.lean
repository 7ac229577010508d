import RamlClient.Text.Regex
import RamlClient.Tools.Options
/-!
# Expressions

A tool that calculates. Each argument is a word of an expression. A value is a text; it counts as a
number if it has the form of one, and as false if it is empty or zero.
-/

namespace RamlClient.Tools

open Text (ByteText Regex)
open Shell
open Shell.Running

namespace Expression

/-- The words of an expression that have not been read. -/
structure Words where
  /-- The word before them. -/
  before : ByteText
  /-- The words. -/
  rest : List ByteText

/-- Calculating may fail with a report. -/
abbrev Calculating := StateT Words (Except ByteText)

/-- Reads a word if it is one of some. -/
def takeOneOf (wanted : List ByteText) : Calculating (Option ByteText) := do
  match (← get).rest with
  | w :: r =>
    if wanted.contains w then do
      set (⟨w, r⟩ : Words)
      pure (some w)
    else pure none
  | [] => pure none

/-- There has to be another word. -/
def needsWord : Calculating Unit := do
  let s ← get
  if s.rest.isEmpty then
    throw ("syntax error: missing argument after " ++ inCurlyQuotes s.before)

/-- Reads a word as it is. -/
def anyWord : Calculating ByteText := do
  needsWord
  match (← get).rest with
  | w :: r => do
    set (⟨w, r⟩ : Words)
    pure w
  | [] => pure ""

/-- The digits of a number after its sign, if a text is a number. -/
def digitsOf? (s : ByteText) : Option (Bool × List Char) :=
  let (negative, cs) := match s.toList with
    | '-' :: cs => (true, cs)
    | cs => (false, cs)
  if !cs.isEmpty && cs.all Char.isDigit then some (negative, cs) else none

/-- The number that a text is. -/
def integer? (s : ByteText) : Option Int :=
  (digitsOf? s).map fun (negative, cs) =>
    let n : Int := Reading.numberOf 10 cs
    if negative then -n else n

/-- Whether a value counts as false. -/
def isFalse (s : ByteText) : Bool :=
  s == "" || (digitsOf? s).any fun d => d.2.all (· == '0')

/-- The value of a truth value. -/
def ofBool (b : Bool) : ByteText := if b then "1" else "0"

/-- What a text has that an expression matches at its start: the text of the first group, or the
number of characters if there is no group. -/
def matched (text pattern : ByteText) : Except ByteText ByteText :=
  let text := Text.charsOfBytes text
  match Regex.ofText ⟨false, false, true⟩ (Text.charsOfBytes pattern) with
  | .error e => .error e
  | .ok (regex, groups) =>
    match regex.longestAt ⟨false, false⟩ ⟨0, text, none, []⟩ with
    | some f =>
      .ok (if groups = 0 then toString f.text.length
        else Text.bytesOfChars (f.group 1))
    | none => .ok (if groups = 0 then "0" else "")

/-- The operators from the ones that bind the least to those that bind the most. -/
def operators : List (List ByteText) :=
  [["|"], ["&"], ["<", "<=", "=", "==", "!=", ">=", ">"], ["+", "-"], ["*", "/", "%"], [":"]]

/-- Whether a comparison holds. -/
def compares (op : ByteText) (l r : ByteText) : Bool :=
  let (less, same) := match integer? l, integer? r with
    | some m, some n => (decide (m < n), decide (m = n))
    | _, _ => (decide (l < r), l == r)
  match op with
  | "<" => less
  | "<=" => less || same
  | "=" => same
  | "==" => same
  | "!=" => !same
  | ">=" => !less
  | _ => !less && !same

/-- The value of an operator between two values. -/
def operate (op : ByteText) (l r : ByteText) : Except ByteText ByteText :=
  let calculate (f : Int → Int → Int) (divides : Bool) : Except ByteText ByteText :=
    match integer? l, integer? r with
    | some m, some n =>
      if divides && n = 0 then .error "division by zero" else .ok (toString (f m n))
    | _, _ => .error "non-integer argument"
  match op with
  | "+" => calculate (· + ·) false
  | "-" => calculate (· - ·) false
  | "*" => calculate (· * ·) false
  | "/" => calculate Int.tdiv true
  | "%" => calculate Int.tmod true
  | ":" => matched l r
  | _ => .ok (ofBool (compares op l r))

/-- A part of a text that starts at a number and has a length. -/
def part (s start length : ByteText) : ByteText :=
  let cs := Text.charsOfBytes s
  match integer? start, integer? length with
  | some m, some n =>
    if m ≤ 0 || n ≤ 0 then ""
    else Text.bytesOfChars ((cs.drop (m.toNat - 1)).take n.toNat)
  | _, _ => ""

/-- The number of the first character of a text that is one of some. -/
def firstOf (s some_ : ByteText) : ByteText :=
  let wanted := Text.charsOfBytes some_
  match (Text.charsOfBytes s).findIdx? wanted.contains with
  | some n => toString (n + 1)
  | none => "0"

mutual

/-- The value of an expression whose operators are on a level. `active` says whether the value
matters. -/
def value : Nat → List (List ByteText) → Bool → Calculating ByteText
  | 0, _, _ => pure ""
  | fuel + 1, [], active => do
    match ← takeOneOf ["+", "length", "match", "index", "substr"] with
    | some "+" => anyWord
    | some "length" => do
      let s ← value fuel [] active
      pure (toString (Text.charsOfBytes s).length)
    | some "match" => do
      let l ← value fuel [] active
      let r ← value fuel [] active
      if active then liftM (matched l r) else pure l
    | some "index" => do
      let l ← value fuel [] active
      let r ← value fuel [] active
      pure (firstOf l r)
    | some _ => do
      let s ← value fuel [] active
      let start ← value fuel [] active
      let length ← value fuel [] active
      pure (part s start length)
    | none => do
      needsWord
      match ← takeOneOf ["(", ")"] with
      | some "(" => do
        let v ← value fuel operators active
        match ← takeOneOf [")"] with
        | some _ => pure v
        | none => do
          let s ← get
          match s.rest with
          | [] => throw ("syntax error: expecting ')' after " ++ inCurlyQuotes s.before)
          | w :: _ => throw ("syntax error: expecting ')' instead of " ++ inCurlyQuotes w)
      | some _ => throw "syntax error: unexpected ')'"
      | none => anyWord
  | fuel + 1, level :: levels, active => do
    let l ← value fuel levels active
    valueFrom fuel level levels active l

/-- The value of an expression whose first value is known. -/
def valueFrom : Nat → List ByteText → List (List ByteText) → Bool → ByteText →
    Calculating ByteText
  | 0, _, _, _, l => pure l
  | fuel + 1, level, levels, active, l => do
    match ← takeOneOf level with
    | none => pure l
    | some "|" => do
      let r ← value fuel levels (active && isFalse l)
      let v := if !isFalse l then l else if isFalse r then "0" else r
      valueFrom fuel level levels active v
    | some "&" => do
      let r ← value fuel levels (active && !isFalse l)
      valueFrom fuel level levels active (if isFalse l || isFalse r then "0" else l)
    | some op => do
      let r ← value fuel levels active
      let v ← if active then liftM (operate op l r) else pure l
      valueFrom fuel level levels active v

end

/-- The value of an expression. -/
def calculate (words : List ByteText) : Except ByteText ByteText := do
  let (v, s) ← (value (20 * words.length + 20) operators true).run ⟨"", words⟩
  match s.rest with
  | [] => pure v
  | w :: _ => throw ("syntax error: unexpected argument " ++ inCurlyQuotes w)

end Expression

/-- Calculates the value of an expression. -/
def expr : Tool := fun _ name args => do
  if args = ["--help"] || args = ["--version"] then pure 0
  else
    match if args.head? = some "--" then args.tail else args with
    | [] => misuse name "missing operand" 2
    | words =>
      match Expression.calculate words with
      | .ok v => do
        print (v ++ "\n")
        pure (statusOf (!Expression.isFalse v))
      | .error text => do
        report name text
        pure 2

end RamlClient.Tools
