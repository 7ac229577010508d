import RamlClient.Files.Tree
import RamlClient.Shell.Arithmetic
import RamlClient.Tools.Quotation
/-!
# Conditions

Conditions on texts, numbers and files are written as words. The shell and the program that test
them read the words in different ways and have different reports.
-/

namespace RamlClient.Tools

open Text (ByteText)

namespace Condition

/-! ### Operators -/

/-- The operators on two words. -/
def binaryOperators : List String :=
  ["=", "!=", "<", ">", "-eq", "-ne", "-ge", "-gt", "-le", "-lt", "-nt", "-ot", "-ef"]

/-- The operators on one word. -/
def unaryOperators : List String :=
  ["-r", "-w", "-x", "-e", "-f", "-d", "-c", "-b", "-p", "-u", "-g", "-k", "-s", "-t", "-z", "-n",
   "-h", "-L", "-O", "-G", "-S"]

/-- Whether a condition on what a path leads to holds. -/
def fileHolds (files : FileTree) (operator : String) (path : ByteText) : Bool :=
  let path := Text.textOfBytes path
  let follow := !(operator = "-h" || operator = "-L")
  let isDevice := ["/dev/null", "/dev/tty", "/dev/zero", "/dev/full"].contains path
  match files.find follow path with
  | .error _ =>
    isDevice && ["-e", "-c", "-r", "-w", "-O", "-G"].contains operator
  | .ok (_, node) =>
    match operator with
    | "-e" => true
    | "-r" => true
    | "-w" => true
    | "-O" => true
    | "-G" => true
    | "-d" => node.isDir
    | "-f" =>
      match node with
      | .file _ _ => true
      | _ => false
    | "-s" =>
      match node with
      | .file content _ => 0 < content.size
      | .dir => true
      | .link _ => false
    | "-x" =>
      match node with
      | .file _ isProgram => isProgram
      | _ => true
    | "-h" =>
      match node with
      | .link _ => true
      | _ => false
    | "-L" =>
      match node with
      | .link _ => true
      | _ => false
    | _ => false

/-- Whether a condition on one word holds. -/
def unaryHolds (files : FileTree) (operator : String) (s : ByteText) : Bool :=
  match operator with
  | "-n" => s != ""
  | "-z" => s == ""
  | "-t" => false
  | operator => fileHolds files operator s

/-- Whether a condition on two numbers holds. -/
def numbersHold (operator : String) (m n : Int) : Bool :=
  match operator with
  | "-eq" => m == n
  | "-ne" => m != n
  | "-ge" => n ≤ m
  | "-gt" => n < m
  | "-le" => m ≤ n
  | _ => m < n

/-- Whether two paths lead to the same place. -/
def samePlace (files : FileTree) (s t : ByteText) : Bool :=
  match files.find true (Text.textOfBytes s), files.find true (Text.textOfBytes t) with
  | .ok (p, _), .ok (q, _) => p == q
  | _, _ => false

/-- Whether a condition on two words that are no numbers holds. -/
def textsHold (files : FileTree) (operator : String) (s t : ByteText) : Bool :=
  match operator with
  | "=" => s == t
  | "==" => s == t
  | "!=" => s != t
  | "<" => s < t
  | ">" => t < s
  | "-ef" => samePlace files s t
  | "-nt" =>
    (files.find true (Text.textOfBytes s)).toOption.isSome &&
      (files.find true (Text.textOfBytes t)).toOption.isNone
  | "-ot" =>
    (files.find true (Text.textOfBytes s)).toOption.isNone &&
      (files.find true (Text.textOfBytes t)).toOption.isSome
  | _ => false

/-- Whether an operator is one on numbers. -/
def isOnNumbers (operator : String) : Bool :=
  ["-eq", "-ne", "-ge", "-gt", "-le", "-lt"].contains operator

/-- The whole number that a word is, in decimal digits and with white space around it. -/
def numberOf? (s : ByteText) : Option Int :=
  let cs := s.toList.dropWhile Shell.Arithmetic.isSpace
  let (negative, cs) := match cs with
    | '-' :: r => (true, r)
    | '+' :: r => (false, r)
    | cs => (false, cs)
  let digits := cs.takeWhile Char.isDigit
  let rest := cs.dropWhile Char.isDigit
  if digits.isEmpty || !rest.all Shell.Arithmetic.isSpace then none
  else
    let n : Int := Shell.Reading.numberOf 10 digits
    some (if negative then -n else n)

/-- Words that cannot be read as a condition, with the report. -/
abbrev Reading := Except ByteText

/-! ### The condition of a shell -/

/-- The kinds of words. -/
inductive WordKind where
  /-- There is no word. -/
  | missing
  /-- An operand. -/
  | operand
  /-- An operator on one word. -/
  | unary
  /-- An operator on two words. -/
  | binary
  /-- A negation. -/
  | negation
  /-- A conjunction. -/
  | conjunction
  /-- A disjunction. -/
  | disjunction
  /-- An opening parenthesis. -/
  | opening
  /-- A closing parenthesis. -/
  | closing
deriving DecidableEq, Repr

/-- What a word is as an operator. -/
def operatorKind (s : ByteText) : WordKind :=
  if unaryOperators.contains s then .unary
  else if binaryOperators.contains s then .binary
  else if s = "!" then .negation
  else if s = "-a" then .conjunction
  else if s = "-o" then .disjunction
  else if s = "(" then .opening
  else if s = ")" then .closing
  else .operand

/-- What the first of some words is. An operator on one word is an operand if nothing can be its
operand. -/
def kindAt (words : List ByteText) : WordKind :=
  match words with
  | [] => .missing
  | s :: r =>
    let kind := operatorKind s
    let standsAlone := match r with
      | [] => true
      | [_] => false
      | t :: _ => operatorKind t == .binary
    if kind = .unary && standsAlone then .operand
    else if kind = .opening && r.isEmpty then .operand
    else kind

/-- A condition on numbers or texts. Of two files neither is newer unless both are there, and files
that are there are equally old. -/
def shellBinary (files : FileTree) (s operator t : ByteText) : Reading Bool :=
  if isOnNumbers operator then
    match numberOf? s, numberOf? t with
    | some m, some n => .ok (numbersHold operator m n)
    | none, _ => .error ("Illegal number: " ++ s)
    | _, none => .error ("Illegal number: " ++ t)
  else if operator = "-nt" || operator = "-ot" then .ok false
  else .ok (textsHold files operator s t)

mutual

/-- A condition without conjunctions, given the kind of the first word; the words from its last one
on are left. -/
def shellPrimary (files : FileTree) (fuel : Nat) (kind : WordKind) (words : List ByteText) :
    Reading (Bool × List ByteText) :=
  match fuel with
  | 0 => .error "condition too long"
  | fuel + 1 =>
    match kind, words with
    | .missing, words => .ok (false, words)
    | .opening, _ :: r =>
      if kindAt r = .closing then .ok (false, r)
      else do
        let (b, rest) ← shellAny files fuel (kindAt r) r
        if kindAt rest.tail = .closing then pure (b, rest.tail)
        else throw "closing paren expected"
    | .unary, operator :: r =>
      match r with
      | [] => .error (operator ++ ": argument expected")
      | s :: _ => .ok (unaryHolds files operator s, r)
    | _, s :: r =>
      if kindAt r = .binary then
        match r with
        | operator :: t :: rest => do
          let b ← shellBinary files s operator t
          pure (b, t :: rest)
        | operator :: [] => .error (operator ++ ": argument expected")
        | [] => .ok (s != "", words)
      else .ok (s != "", words)
    | _, [] => .ok (false, [])
termination_by structural fuel

/-- A condition that may be negated. -/
def shellNegated (files : FileTree) (fuel : Nat) (kind : WordKind) (words : List ByteText) :
    Reading (Bool × List ByteText) :=
  match fuel with
  | 0 => .error "condition too long"
  | fuel + 1 =>
    if kind = .negation then
      let next := kindAt words.tail
      do
        let (b, rest) ← shellNegated files fuel next (if next = .missing then words else words.tail)
        pure (!b, rest)
    else shellPrimary files fuel kind words
termination_by structural fuel

/-- Conditions all of which have to hold. -/
def shellAll (files : FileTree) (fuel : Nat) (kind : WordKind) (words : List ByteText) :
    Reading (Bool × List ByteText) :=
  match fuel with
  | 0 => .error "condition too long"
  | fuel + 1 => do
    let (b, rest) ← shellNegated files fuel kind words
    if kindAt rest.tail = .conjunction then
      let next := rest.tail.tail
      let (c, rest) ← shellAll files fuel (kindAt next) next
      pure (b && c, rest)
    else pure (b, rest)
termination_by structural fuel

/-- Conditions one of which has to hold. -/
def shellAny (files : FileTree) (fuel : Nat) (kind : WordKind) (words : List ByteText) :
    Reading (Bool × List ByteText) :=
  match fuel with
  | 0 => .error "condition too long"
  | fuel + 1 => do
    let (b, rest) ← shellAll files fuel kind words
    if kindAt rest.tail = .disjunction then
      let next := rest.tail.tail
      let (c, rest) ← shellAny files fuel (kindAt next) next
      pure (b || c, rest)
    else pure (b, rest)
termination_by structural fuel

end

/-- Whether a condition holds, as a shell reads its words. -/
def shellHolds (files : FileTree) : Bool → List ByteText → Reading Bool
  | _, [] => .ok false
  | negated, words =>
    let evaluate (kind : WordKind) (words : List ByteText) : Reading Bool := do
      let (b, rest) ← shellAny files (4 * words.length + 8) kind words
      match rest with
      | s :: _ :: _ => throw (s ++ ": unexpected operator")
      | _ => pure (b != negated)
    match words with
    | [s, operator, t] =>
      if operatorKind operator = .binary then evaluate .operand words
      else if s = "(" && t = ")" then evaluate (kindAt [operator]) [operator]
      else if s = "!" then shellHolds files (!negated) [operator, t]
      else evaluate (kindAt words) words
    | [s, t, u, v] =>
      if s = "(" && v = ")" then evaluate (kindAt [t, u]) [t, u]
      else if s = "!" then shellHolds files (!negated) [t, u, v]
      else evaluate (kindAt words) words
    | words => evaluate (kindAt words) words

/-! ### The condition of a program -/

/-- Whether a word is an operator on two words. -/
def isBinary (s : ByteText) : Bool := s == "==" || (binaryOperators.filter
  fun o => o != "<" && o != ">").contains s

/-- Whether a word looks like an operator on one word. -/
def looksUnary (s : ByteText) : Bool :=
  match s.toList with
  | ['-', _] => true
  | _ => false

/-- A condition on numbers or texts. -/
def programBinary (files : FileTree) (s operator t : ByteText) : Reading Bool :=
  if isOnNumbers operator then
    match numberOf? s, numberOf? t with
    | some m, some n => .ok (numbersHold operator m n)
    | none, _ => .error ("invalid integer " ++ inCurlyQuotes s)
    | _, none => .error ("invalid integer " ++ inCurlyQuotes t)
  else .ok (textsHold files operator s t)

/-- A condition on one word. -/
def programUnary (files : FileTree) (operator s : ByteText) : Reading Bool :=
  if unaryOperators.contains operator || operator = "-N" then .ok (unaryHolds files operator s)
  else .error (inCurlyQuotes operator ++ ": unary operator expected")

/-- The words end too early. -/
def tooFew {α : Type} (words : List ByteText) : Reading α :=
  .error ("missing argument after " ++ inCurlyQuotes (words.getLast?.getD ""))

/-- The condition that two words are. -/
def ofTwo (files : FileTree) (all : List ByteText) (s t : ByteText) : Reading Bool :=
  if s = "!" then .ok (t == "")
  else if looksUnary s then programUnary files s t
  else tooFew all

/-- Words of a condition that are left to be read. -/
abbrev Rest := List ByteText

mutual

/-- Conditions one of which has to hold. `closing` is what stands after the last word. -/
def programAny (files : FileTree) (all closing : List ByteText) (fuel : Nat) (words : Rest) :
    Reading (Bool × Rest) :=
  match fuel with
  | 0 => .error "condition too long"
  | fuel + 1 => do
    let (b, rest) ← programAll files all closing fuel words
    match rest with
    | "-o" :: r => do
      let (c, rest) ← programAny files all closing fuel r
      pure (b || c, rest)
    | rest => pure (b, rest)
termination_by structural fuel

/-- Conditions all of which have to hold. -/
def programAll (files : FileTree) (all closing : List ByteText) (fuel : Nat) (words : Rest) :
    Reading (Bool × Rest) :=
  match fuel with
  | 0 => .error "condition too long"
  | fuel + 1 => do
    let (b, rest) ← programTerm files all closing fuel words
    match rest with
    | "-a" :: r => do
      let (c, rest) ← programAll files all closing fuel r
      pure (b && c, rest)
    | rest => pure (b, rest)
termination_by structural fuel

/-- A condition without conjunctions. -/
def programTerm (files : FileTree) (all closing : List ByteText) (fuel : Nat) (words : Rest) :
    Reading (Bool × Rest) :=
  match fuel with
  | 0 => .error "condition too long"
  | fuel + 1 =>
    match words with
    | [] => tooFew all
    | "!" :: r => do
      if r.isEmpty then tooFew all
      let (b, rest) ← programTerm files all closing fuel r
      pure (!b, rest)
    | "(" :: r => do
      if r.isEmpty then tooFew all
      let inner := 1 + (r.tail.takeWhile (· != ")")).length
      let count := if 4 ≤ inner then r.length else inner
      let (b, rest) ← programSome files all closing fuel count r
      match rest ++ closing with
      | ")" :: _ => pure (b, rest.tail)
      | [] => throw (inCurlyQuotes ")" ++ " expected")
      | s :: _ => throw (inCurlyQuotes ")" ++ " expected, found " ++ inCurlyQuotes s)
    | s :: operator :: t :: rest =>
      if isBinary operator then do
        let b ← programBinary files s operator t
        pure (b, rest)
      else if looksUnary s then do
        let b ← programUnary files s operator
        pure (b, t :: rest)
      else .ok (s != "", operator :: t :: rest)
    | [s, t] =>
      if looksUnary s then do
        let b ← programUnary files s t
        pure (b, [])
      else .ok (s != "", [t])
    | [s] => if looksUnary s then tooFew all else .ok (s != "", [])
termination_by structural fuel

/-- The condition that a number of words are, and the words after it. -/
def programSome (files : FileTree) (all closing : List ByteText) (fuel : Nat) (count : Nat)
    (words : Rest) : Reading (Bool × Rest) :=
  match fuel with
  | 0 => .error "condition too long"
  | fuel + 1 =>
    let whole : Reading (Bool × Rest) :=
      if words.isEmpty then tooFew all else programAny files all closing fuel words
    match count, words with
    | 1, s :: r => .ok (s != "", r)
    | 2, s :: t :: r => do
      let b ← ofTwo files all s t
      pure (b, r)
    | 3, s :: t :: u :: r =>
      if isBinary t then do
        let b ← programBinary files s t u
        pure (b, r)
      else if s = "!" then do
        let b ← ofTwo files all t u
        pure (!b, r)
      else if s = "(" && u = ")" then .ok (t != "", r)
      else if t = "-a" || t = "-o" then whole
      else .error (inCurlyQuotes t ++ ": binary operator expected")
    | 4, s :: t :: u :: v :: r =>
      if s = "!" then do
        let (b, rest) ← programSome files all closing fuel 3 (t :: u :: v :: r)
        pure (!b, rest)
      else if s = "(" && v = ")" then do
        let b ← ofTwo files all t u
        pure (b, r)
      else whole
    | _, _ => whole
termination_by structural fuel

end

/-- Whether a condition holds, as a program reads its words. `closing` is what stands after them. -/
def programHolds (files : FileTree) (closing words : List ByteText) : Reading Bool :=
  if words.isEmpty then .ok false
  else do
    let (b, rest) ←
      programSome files words closing (8 * words.length + 8) words.length words
    match rest with
    | [] => pure b
    | s :: _ => throw ("extra argument " ++ inCurlyQuotes s)

end Condition

end RamlClient.Tools
