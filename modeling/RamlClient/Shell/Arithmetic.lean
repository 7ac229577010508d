import RamlClient.Shell.Reader
import RamlClient.Shell.State
/-!
# Numbers of expressions

Expressions are worked out as they are read, with numbers of 64 bits. A part that does not count,
such as the second operand of a conjunction that has failed, is read without any effect.
-/

namespace RamlClient.Shell.Arithmetic

open Running

/-! ### Numbers -/

/-- The number of numbers. -/
def wordSize : Nat := 18446744073709551616

/-- The least number that is too large. -/
def halfSize : Nat := 9223372036854775808

/-- A number in 64 bits. -/
def wrap (n : Int) : Int := Int.bmod n wordSize

/-- A number, or the nearest one that there is. -/
def clamp (n : Int) : Int :=
  if (halfSize : Int) ≤ n then halfSize - 1
  else if n < -(halfSize : Int) then -halfSize
  else n

/-- The digits of a number in a base at the start of a text, and what follows them. -/
def takeDigits (base : Nat) (cs : List Char) : List Char × List Char :=
  let p (c : Char) : Bool := Reading.isHexDigit c && Reading.digitValue c < base
  (cs.takeWhile p, cs.dropWhile p)

/-- The number at the start of a text, in the base that its start says, and what follows it. -/
def takeNumber (cs : List Char) : Nat × List Char :=
  match cs with
  | '0' :: x :: r =>
    let (digits, rest) := takeDigits 16 r
    if (x = 'x' || x = 'X') && !digits.isEmpty then (Reading.numberOf 16 digits, rest)
    else
      let (digits, rest) := takeDigits 8 cs
      (Reading.numberOf 8 digits, rest)
  | _ =>
    let (digits, rest) := takeDigits 10 cs
    (Reading.numberOf 10 digits, rest)

/-- Whether a character is white space. -/
def isSpace (c : Char) : Bool := c == ' ' || (9 ≤ c.toNat && c.toNat ≤ 13)

/-- The number that a text is, with white space around it; nothing counts as zero. -/
def numberOfText? (s : String) : Option Int :=
  let cs := s.toList.dropWhile isSpace
  if cs.isEmpty then some 0
  else
    let (negative, digits) := match cs with
      | '-' :: r => (true, r)
      | '+' :: r => (false, r)
      | _ => (false, cs)
    if (digits.head?).any Char.isDigit then
      let (n, rest) := takeNumber digits
      let n : Int := if negative then -n else n
      if rest.all isSpace && clamp n = n then some n else none
    else none

/-! ### Tokens -/

/-- The tokens of an expression. -/
inductive ExprToken where
  /-- A number. -/
  | number (n : Int)
  /-- A variable. -/
  | name (s : String)
  /-- A sign. -/
  | sign (s : String)
  /-- A character without a meaning. -/
  | stray
deriving DecidableEq, Repr

/-- The signs, longer ones first. -/
def signs : List String :=
  ["<<=", ">>=", "<<", ">>", "<=", ">=", "==", "!=", "&&", "||", "*=", "/=", "%=", "+=", "-=",
   "&=", "^=", "|=", "=", "<", ">", "&", "|", "^", "~", "!", "?", ":", "(", ")", "+", "-", "*", "/",
   "%"]

/-- The signs that only the extended shell has. -/
def extendedSigns : List String := ["**", "++", "--", ","]

/-- The tokens of a text. `fuel` is more than its length. -/
def tokens (dialect : Dialect) : Nat → List Char → List ExprToken
  | 0, _ => []
  | _, [] => []
  | fuel + 1, c :: r =>
    if isSpace c then tokens dialect fuel r
    else if c.isDigit then
      let (n, rest) := takeNumber (c :: r)
      .number (clamp n) :: tokens dialect fuel rest
    else if Reading.isNameStart c then
      let name := (c :: r).takeWhile Reading.isNameChar
      .name (String.ofList name) :: tokens dialect fuel ((c :: r).drop name.length)
    else
      let known := if dialect = .extended then extendedSigns ++ signs else signs
      match known.find? fun s => s.toList.isPrefixOf (c :: r) with
      | some s => .sign s :: tokens dialect fuel ((c :: r).drop s.length)
      | none => .stray :: tokens dialect fuel r

/-! ### Operations -/

/-- How tightly a sign between two operands binds; lower numbers bind more tightly. -/
def level? : String → Option Nat
  | "**" => some 0
  | "*" => some 1
  | "/" => some 1
  | "%" => some 1
  | "+" => some 2
  | "-" => some 2
  | "<<" => some 3
  | ">>" => some 3
  | "<" => some 4
  | "<=" => some 4
  | ">" => some 4
  | ">=" => some 4
  | "==" => some 5
  | "!=" => some 5
  | "&" => some 6
  | "^" => some 7
  | "|" => some 8
  | _ => none

/-- The level below which no operation is. -/
def lastLevel : Nat := 9

/-- The signs of assignments with an operation. -/
def assignmentSigns : List String := ["*=", "/=", "%=", "+=", "-=", "<<=", ">>=", "&=", "^=", "|="]

/-- The number of a truth value. -/
def truth (b : Bool) : Int := if b then 1 else 0

/-- The bits of a number. -/
def bits (n : Int) : BitVec 64 := BitVec.ofInt 64 n

/-- A power of a number. -/
def power (base : Int) : Nat → Int
  | 0 => 1
  | n + 1 => wrap (power base n * base)

/-- The result of an operation on two numbers, if there is one. -/
def apply (sign : String) (a b : Int) : Option Int :=
  match sign with
  | "*" => some (wrap (a * b))
  | "/" => if b = 0 then none else some (wrap (a.tdiv b))
  | "%" => if b = 0 then none else some (a.tmod b)
  | "+" => some (wrap (a + b))
  | "-" => some (wrap (a - b))
  | "<<" => some (bits a <<< (b % 64).toNat).toInt
  | ">>" => some ((bits a).sshiftRight (b % 64).toNat).toInt
  | "<" => some (truth (a < b))
  | "<=" => some (truth (a ≤ b))
  | ">" => some (truth (b < a))
  | ">=" => some (truth (b ≤ a))
  | "==" => some (truth (a == b))
  | "!=" => some (truth (a != b))
  | "&" => some (bits a &&& bits b).toInt
  | "^" => some (bits a ^^^ bits b).toInt
  | "|" => some (bits a ||| bits b).toInt
  | "**" => some (power a (b % 64).toNat)
  | _ => none

/-! ### Evaluation -/

/-- The tokens that are left. -/
abbrev Evaluating := StateT (List ExprToken) Running

/-- The text of an expression and the shell that it is written for. -/
structure Source where
  /-- The text. -/
  text : String
  /-- The shell. -/
  dialect : Dialect

/-- The expression has a fault. -/
def faulty {α : Type} (source : Source) (report : String) : Evaluating α :=
  match source.dialect with
  | .plain =>
    Running.fail ("arithmetic expression: " ++ report ++ ": \x22" ++ source.text ++ "\x22")
  | .extended =>
    Running.fail (source.text ++ ": " ++
      (if report = "division by zero" then "division by 0" else "syntax error: operand expected"))

/-- The next token. -/
def next? : Evaluating (Option ExprToken) := do pure (← get).head?

/-- Skips a token. -/
def advance : Evaluating Unit := modify List.tail

/-- Whether the next token is a sign. -/
def nextIs (sign : String) : Evaluating Bool := do pure ((← next?) == some (.sign sign))

/-- The number that a variable has. -/
def numberOfVariable (name : String) : Evaluating Int := do
  let value := (← (valueOf? name : Running (Option String))).getD ""
  match numberOfText? value with
  | some n => pure n
  | none => Running.fail ("Illegal number: " ++ value)

/-- Sets a variable to a number. -/
def assign (name : String) (n : Int) : Evaluating Unit := do
  (setVariable name (toString n) : Running Unit)

/-- The result of an operation, or no matter what if it does not count. -/
def operate (source : Source) (idle : Bool) (sign : String) (a b : Int) : Evaluating Int :=
  if idle then pure b
  else match apply sign a b with
    | some n => pure n
    | none => faulty source "division by zero"

mutual

/-- An operand. -/
def operand (source : Source) (fuel : Nat) (idle : Bool) : Evaluating Int :=
  match fuel with
  | 0 => faulty source "expecting primary"
  | fuel + 1 => do
    match ← next? with
    | some (.sign "(") => do
      advance
      let n ← assignment source fuel idle
      if ← nextIs ")" then
        advance
        pure n
      else faulty source "expecting ')'"
    | some (.number n) => do
      advance
      pure n
    | some (.name s) => do
      advance
      let stepped (change : Int) : Evaluating Int := do
        advance
        let n ← numberOfVariable s
        assign s (wrap (n + change))
        pure n
      if ← nextIs "++" then stepped 1
      else if ← nextIs "--" then stepped (-1)
      else if idle then pure 0
      else numberOfVariable s
    | some (.sign "+") => do
      advance
      operand source fuel idle
    | some (.sign "-") => do
      advance
      pure (wrap (-(← operand source fuel idle)))
    | some (.sign "!") => do
      advance
      pure (truth ((← operand source fuel idle) == 0))
    | some (.sign "~") => do
      advance
      pure (wrap (-(← operand source fuel idle) - 1))
    | some (.sign "++") => do
      advance
      preceded source fuel idle 1
    | some (.sign "--") => do
      advance
      preceded source fuel idle (-1)
    | _ => faulty source "expecting primary"
termination_by structural fuel

/-- A variable after a sign that changes it. -/
def preceded (source : Source) (fuel : Nat) (idle : Bool) (change : Int) : Evaluating Int :=
  match fuel with
  | 0 => faulty source "expecting primary"
  | fuel + 1 => do
    match ← next? with
    | some (.name s) => do
      advance
      let n := wrap ((← numberOfVariable s) + change)
      if !idle then assign s n
      pure n
    | _ => operand source fuel idle
termination_by structural fuel

/-- The rest of operations after a first operand, down to a level. -/
def operations (source : Source) (fuel : Nat) (idle : Bool) (a : Int) (sign : String)
    (level : Nat) : Evaluating Int :=
  match fuel with
  | 0 => faulty source "expecting primary"
  | fuel + 1 => do
    let own := (level? sign).getD lastLevel
    advance
    let b ← operand source fuel idle
    let b ← match ← next? with
      | some (.sign s) =>
        match level? s with
        | some l =>
          if l < own || (l = own && s == "**") then operations source fuel idle b s own
          else pure b
        | none => pure b
      | _ => pure b
    let a ← operate source idle sign a b
    match ← next? with
    | some (.sign s) =>
      match level? s with
      | some l => if l < level then operations source fuel idle a s level else pure a
      | none => pure a
    | _ => pure a
termination_by structural fuel

/-- Operations. -/
def operation (source : Source) (fuel : Nat) (idle : Bool) : Evaluating Int :=
  match fuel with
  | 0 => faulty source "expecting primary"
  | fuel + 1 => do
    let a ← operand source fuel idle
    match ← next? with
    | some (.sign s) =>
      if (level? s).isSome then operations source fuel idle a s lastLevel else pure a
    | _ => pure a
termination_by structural fuel

/-- A conjunction. -/
def conjunction (source : Source) (fuel : Nat) (idle : Bool) : Evaluating Int :=
  match fuel with
  | 0 => faulty source "expecting primary"
  | fuel + 1 => do
    let a ← operation source fuel idle
    if ← nextIs "&&" then
      advance
      let b ← conjunction source fuel (idle || a == 0)
      pure (truth (a != 0 && b != 0))
    else pure a
termination_by structural fuel

/-- A disjunction. -/
def disjunction (source : Source) (fuel : Nat) (idle : Bool) : Evaluating Int :=
  match fuel with
  | 0 => faulty source "expecting primary"
  | fuel + 1 => do
    let a ← conjunction source fuel idle
    if ← nextIs "||" then
      advance
      let b ← disjunction source fuel (idle || a != 0)
      pure (truth (a != 0 || b != 0))
    else pure a
termination_by structural fuel

/-- A choice between two numbers. -/
def choice (source : Source) (fuel : Nat) (idle : Bool) : Evaluating Int :=
  match fuel with
  | 0 => faulty source "expecting primary"
  | fuel + 1 => do
    let a ← disjunction source fuel idle
    if ← nextIs "?" then
      advance
      let b ← assignment source fuel (idle || a == 0)
      if ← nextIs ":" then
        advance
        let c ← choice source fuel (idle || a != 0)
        pure (if a != 0 then b else c)
      else faulty source "expecting ':'"
    else pure a
termination_by structural fuel

/-- An assignment. -/
def assignment (source : Source) (fuel : Nat) (idle : Bool) : Evaluating Int :=
  match fuel with
  | 0 => faulty source "expecting primary"
  | fuel + 1 => do
    match ← get with
    | .name s :: .sign "=" :: r => do
      set r
      let n ← assignment source fuel idle
      if !idle then assign s n
      pure n
    | .name s :: .sign sign :: r =>
      if assignmentSigns.contains sign then do
        set r
        let n ← assignment source fuel idle
        if idle then pure n
        else do
          let old ← numberOfVariable s
          let n ← operate source false (String.ofList sign.toList.dropLast) old n
          assign s n
          pure n
      else choice source fuel idle
    | _ => choice source fuel idle
termination_by structural fuel

end

/-- The numbers of expressions between commas; the last one counts. -/
def lastOf (source : Source) : Nat → Evaluating Int
  | 0 => faulty source "expecting primary"
  | fuel + 1 => do
    let n ← assignment source (fuel + 1) false
    if ← nextIs "," then
      advance
      lastOf source fuel
    else if (← get).isEmpty then pure n
    else faulty source "expecting EOF"

/-- The number of an expression. -/
def evaluate (text : String) : Running Int := do
  let dialect := (← own).dialect
  let cs := text.toList
  let ts := tokens dialect (cs.length + 1) cs
  if ts.isEmpty && dialect = .extended then pure 0
  else
    let source : Source := ⟨text, dialect⟩
    let (n, _) ← (lastOf source (8 * (ts.length + 8))).run ts
    pure n

end RamlClient.Shell.Arithmetic
