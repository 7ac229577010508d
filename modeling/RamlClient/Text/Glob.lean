/-!
# Patterns

A pattern is a sequence of characters, of which some stand for others: a question mark for any
character, an asterisk for any text, and characters in brackets for any of them. Quoted characters
stand for themselves.
-/

namespace RamlClient.Text

/-- A set of characters. -/
inductive CharSet where
  /-- The characters between two. -/
  | range (first last : Char)
  /-- The characters of a kind. -/
  | kind (name : String)
deriving DecidableEq, Repr

/-- The kinds of characters. -/
def isOfKind (name : String) (c : Char) : Bool :=
  match name with
  | "alpha" => c.isAlpha
  | "digit" => c.isDigit
  | "alnum" => c.isAlphanum
  | "upper" => c.isUpper
  | "lower" => c.isLower
  | "space" => c == ' ' || (9 ≤ c.toNat && c.toNat ≤ 13)
  | "blank" => c == ' ' || c == '\t'
  | "punct" => 32 < c.toNat && c.toNat < 127 && !c.isAlphanum
  | "print" => 32 ≤ c.toNat && c.toNat < 127
  | "graph" => 32 < c.toNat && c.toNat < 127
  | "cntrl" => c.toNat < 32 || c.toNat == 127
  | "xdigit" => c.isDigit || ('a' ≤ c && c ≤ 'f') || ('A' ≤ c && c ≤ 'F')
  | _ => false

/-- Whether a set has a character. -/
def CharSet.has (s : CharSet) (c : Char) : Bool :=
  match s with
  | .range a b => a ≤ c && c ≤ b
  | .kind name => isOfKind name c

/-- A part of a pattern. -/
inductive GlobPart where
  /-- A character. -/
  | char (c : Char)
  /-- Any character. -/
  | anyChar
  /-- Any text. -/
  | anyText
  /-- Any character of some sets, or any other. -/
  | oneOf (negated : Bool) (sets : List CharSet)
deriving DecidableEq, Repr

/-- A pattern. -/
abbrev Glob := List GlobPart

/-- A character, and whether it is quoted. -/
abbrev QuotedChar := Char × Bool

namespace Glob

/-- The sets in brackets, after the opening bracket, and what follows the closing one. A closing
bracket at the start counts as one of the characters. -/
def readSets : Nat → Bool → List QuotedChar → Option (List CharSet × List QuotedChar)
  | 0, _, _ => none
  | _, _, [] => none
  | fuel + 1, atStart, (c, quoted) :: r =>
    if c = ']' && !quoted && !atStart then some ([], r)
    else
      let named :=
        if c = '[' && !quoted && (r.head?.map (·.1)) = some ':' then
          let name := r.tail.takeWhile fun d => d.1.isAlpha
          match r.tail.drop name.length with
          | (':', _) :: (']', _) :: rest =>
            some (CharSet.kind (String.ofList (name.map (·.1))), rest)
          | _ => none
        else none
      match named with
      | some (s, rest) => (readSets fuel false rest).map fun (ss, rest) => (s :: ss, rest)
      | none =>
        match r with
        | ('-', false) :: (d, e) :: rest =>
          if d = ']' && !e then
            (readSets fuel false r).map fun (ss, rest) => (.range c c :: ss, rest)
          else (readSets fuel false rest).map fun (ss, rest) => (.range c d :: ss, rest)
        | _ => (readSets fuel false r).map fun (ss, rest) => (.range c c :: ss, rest)

/-- The pattern that characters write. `fuel` is more than their number. -/
def readFrom : Nat → List QuotedChar → Glob
  | 0, _ => []
  | _, [] => []
  | fuel + 1, (c, quoted) :: r =>
    if quoted then .char c :: readFrom fuel r
    else if c = '?' then .anyChar :: readFrom fuel r
    else if c = '*' then .anyText :: readFrom fuel r
    else if c = '[' then
      let (negated, inner) := match r with
        | ('!', false) :: s => (true, s)
        | ('^', false) :: s => (true, s)
        | _ => (false, r)
      match readSets (inner.length + 1) true inner with
      | some (sets, rest) => .oneOf negated sets :: readFrom fuel rest
      | none => .char c :: readFrom fuel r
    else if c = '\\' then
      match r with
      | (d, _) :: rest => .char d :: readFrom fuel rest
      | [] => [.char c]
    else .char c :: readFrom fuel r

/-- The pattern that characters write. -/
def ofChars (cs : List QuotedChar) : Glob := readFrom (cs.length + 1) cs

/-- Whether a pattern fits a text. -/
def fits : Glob → List Char → Bool
  | [], cs => cs.isEmpty
  | .anyText :: ps, [] => fits ps []
  | .anyText :: ps, c :: r => fits ps (c :: r) || fits (.anyText :: ps) r
  | .char d :: ps, c :: r => c == d && fits ps r
  | .anyChar :: ps, _ :: r => fits ps r
  | .oneOf negated sets :: ps, c :: r => (sets.any (·.has c) != negated) && fits ps r
  | _, [] => false
termination_by ps cs => ps.length + cs.length

/-- The places at which a text can be cut, from the start on. -/
def cuts (cs : List Char) : List (List Char × List Char) :=
  (List.range (cs.length + 1)).map fun n => (cs.take n, cs.drop n)

/-- The text without the shortest or the longest part at its start that a pattern fits. -/
def trimStart (p : Glob) (longest : Bool) (cs : List Char) : List Char :=
  let places := if longest then (cuts cs).reverse else cuts cs
  match places.find? fun c => p.fits c.1 with
  | some c => c.2
  | none => cs

/-- The text without the shortest or the longest part at its end that a pattern fits. -/
def trimEnd (p : Glob) (longest : Bool) (cs : List Char) : List Char :=
  let places := if longest then cuts cs else (cuts cs).reverse
  match places.find? fun c => p.fits c.2 with
  | some c => c.1
  | none => cs

/-- The longest text at a start that a pattern fits, and what follows it. -/
def longestAtStart? (p : Glob) (cs : List Char) : Option (List Char × List Char) :=
  (cuts cs).reverse.find? fun c => p.fits c.1

/-- Whether a pattern has parts that stand for other characters. -/
def isProper (p : Glob) : Bool :=
  p.any fun
    | .char _ => false
    | _ => true

end Glob

end RamlClient.Text
