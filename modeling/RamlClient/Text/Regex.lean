import RamlClient.Text.ByteText
import RamlClient.Text.Glob
/-!
# Regular expressions

A regular expression is written in one of two ways: either the signs for groups, repetitions and
choices need a backslash, or their literal use does. A match is the longest one of those that start
first; of several ways to match the same text, the one whose earlier parts are longer counts.
-/

namespace RamlClient.Text

/-- A regular expression. -/
inductive Regex where
  /-- Nothing. -/
  | empty
  /-- A character. -/
  | char (c : Char)
  /-- Any character. -/
  | any
  /-- A character of some sets, or any other. -/
  | oneOf (negated : Bool) (sets : List CharSet)
  /-- The start of the text. -/
  | atStart
  /-- The end of the text. -/
  | atEnd
  /-- A place between a word and something else, or any other place. -/
  | wordEdge (negated : Bool)
  /-- The start of a word. -/
  | wordStart
  /-- The end of a word. -/
  | wordEnd
  /-- A group with a number. -/
  | group (number : Nat) (inner : Regex)
  /-- What a group has matched. -/
  | again (number : Nat)
  /-- One expression after another. -/
  | both (first second : Regex)
  /-- One of two expressions. -/
  | either (first second : Regex)
  /-- An expression a number of times. -/
  | times (least : Nat) (most : Option Nat) (inner : Regex)
deriving Repr

namespace Regex

/-! ### Reading -/

/-- How expressions are written. -/
structure Style where
  /-- Whether the signs for groups, repetitions and choices need no backslash. -/
  isExtended : Bool
  /-- Whether a backslash before some letters stands for a character that cannot be seen. -/
  hasEscapes : Bool
  /-- Whether a repetition of nothing, or one without proper bounds, is an error. -/
  isStrict : Bool
deriving DecidableEq, Repr

/-- Characters that make up words. -/
def wordSets : List CharSet := [.kind "alnum", .range '_' '_']

/-- A token of an expression. -/
inductive Token where
  /-- A part that stands for itself. -/
  | part (r : Regex)
  /-- The start of a group. -/
  | opening
  /-- The end of a group. -/
  | closing
  /-- A choice. -/
  | choice
  /-- A repetition. -/
  | repetition (least : Nat) (most : Option Nat)
deriving Repr

/-- The number that digits write. -/
def numberOf (cs : List Char) : Nat := cs.foldl (fun n c => n * 10 + (c.toNat - 48)) 0

/-- Why there are no bounds: something is missing or stands for itself, or the bounds are wrong. -/
inductive BoundsFault where
  /-- The text is not one of bounds. -/
  | noBounds (report : String)
  /-- The bounds are wrong. -/
  | wrongBounds (report : String)

/-- The report of a fault. -/
def BoundsFault.report : BoundsFault → String
  | .noBounds r => r
  | .wrongBounds r => r

/-- The largest bound. -/
def maxBound : Nat := 32767

/-- The bounds of a repetition after its opening sign, and what follows its closing one. -/
def readBounds (isExtended : Bool) (cs : List Char) :
    Except BoundsFault ((Nat × Option Nat) × List Char) :=
  let wrong := "Invalid content of \\\x7b\\\x7d"
  let least := cs.takeWhile Char.isDigit
  let rest := cs.drop least.length
  let closed (bounds : Nat × Option Nat) (rest : List Char) :
      Except BoundsFault ((Nat × Option Nat) × List Char) :=
    let done (r : List Char) : Except BoundsFault ((Nat × Option Nat) × List Char) :=
      if bounds.2.any (· < bounds.1) then .error (.wrongBounds wrong)
      else if maxBound < bounds.2.getD bounds.1 then
        .error (.wrongBounds "Regular expression too big")
      else .ok (bounds, r)
    match isExtended, rest with
    | true, '\x7d' :: r => done r
    | false, '\\' :: '\x7d' :: r => done r
    | _, [] => .error (.noBounds "Unmatched \\\x7b")
    | _, _ => .error (.noBounds wrong)
  match rest with
  | ',' :: r =>
    let most := r.takeWhile Char.isDigit
    let bound := if most.isEmpty then none else some (numberOf most)
    closed (numberOf least, bound) (r.drop most.length)
  | r =>
    if least.isEmpty then
      if r.isEmpty then closed (0, none) r else .error (.noBounds wrong)
    else closed (numberOf least, some (numberOf least)) r

/-- The value of a digit of any base. -/
def digitOf (c : Char) : Nat :=
  if c.isDigit then c.toNat - 48
  else if 'a' ≤ c && c ≤ 'f' then c.toNat - 87
  else if 'A' ≤ c && c ≤ 'F' then c.toNat - 55
  else 99

/-- The character of a number that follows a letter after a backslash, and what follows it. -/
def numbered? (c : Char) (cs : List Char) : Option (Char × List Char) :=
  let read (base count : Nat) : Option (Char × List Char) :=
    let digits := (cs.take count).takeWhile fun d => digitOf d < base
    if digits.isEmpty then none
    else
      let byte := Char.ofNat (digits.foldl (fun n d => n * base + digitOf d) 0 % 256)
      some (if byte.toNat < 0x80 then byte else strayChar byte, cs.drop digits.length)
  match c with
  | 'x' => read 16 2
  | 'o' => read 8 3
  | 'd' => read 10 3
  | 'c' =>
    match cs with
    | d :: r => some (Char.ofNat (d.toUpper.toNat % 128 ^^^ 64), r)
    | [] => none
  | _ => none

/-- The character that a letter after a backslash stands for. -/
def escaped? (c : Char) : Option Char :=
  match c with
  | 'n' => some '\n'
  | 't' => some '\t'
  | 'r' => some '\r'
  | 'f' => some '\x0c'
  | 'v' => some '\x0b'
  | 'a' => some '\x07'
  | _ => none

/-- The sets in brackets after the opening one. A backslash has no meaning there, except before some
letters. -/
def readBrackets (hasEscapes : Bool) :
    Nat → Bool → List Char → Except String (List CharSet × List Char)
  | 0, _, _ => .error "Unmatched [, [^, [:, [., or [="
  | _, _, [] => .error "Unmatched [, [^, [:, [., or [="
  | fuel + 1, isFirst, c :: r =>
    if c = ']' && !isFirst then .ok ([], r)
    else
      match c, r with
      | '[', ':' :: r' =>
        let name := r'.takeWhile Char.isAlpha
        match r'.drop name.length with
        | ':' :: ']' :: rest =>
          let name := String.ofList name
          if ["alnum", "alpha", "blank", "cntrl", "digit", "graph", "lower", "print", "punct",
              "space", "upper", "xdigit"].contains name then
            (readBrackets hasEscapes fuel false rest).map fun (sets, rest) =>
              (CharSet.kind name :: sets, rest)
          else .error "Invalid character class name"
        | _ => .error "Unmatched [, [^, [:, [., or [="
      | '[', '.' :: d :: '.' :: ']' :: rest =>
        (readBrackets hasEscapes fuel false rest).map fun (sets, rest) =>
          (CharSet.range d d :: sets, rest)
      | '[', '=' :: d :: '=' :: ']' :: rest =>
        (readBrackets hasEscapes fuel false rest).map fun (sets, rest) =>
          (CharSet.range d d :: sets, rest)
      | _, _ =>
        let (c, r) := match c, r with
          | '\\', d :: rest =>
            match if hasEscapes then escaped? d else none with
            | some e => (e, rest)
            | none => (c, r)
          | _, _ => (c, r)
        match r with
        | '-' :: d :: rest =>
          if d = ']' then
            (readBrackets hasEscapes fuel false r).map fun (sets, rest) =>
              (CharSet.range c c :: sets, rest)
          else if d.toNat < c.toNat then .error "Invalid range end"
          else (readBrackets hasEscapes fuel false rest).map fun (sets, rest) =>
            (CharSet.range c d :: sets, rest)
        | _ =>
          (readBrackets hasEscapes fuel false r).map fun (sets, rest) =>
            (CharSet.range c c :: sets, rest)

/-- Whether an expression ends, or a part of it. -/
def endsHere (isExtended : Bool) (rest : List Char) : Bool :=
  match rest with
  | [] => true
  | '\\' :: ')' :: _ => !isExtended
  | '\\' :: '|' :: _ => !isExtended
  | _ => false

/-- The tokens of an expression. `isFirst` says whether a part of it begins. -/
def tokens (s : Style) : Nat → Bool → List Char → Except String (List Token)
  | 0, _, _ => .ok []
  | _, _, [] => .ok []
  | fuel + 1, isFirst, '\\' :: r =>
    match r with
    | [] => .error "Trailing backslash"
    | c :: rest =>
      let part (p : Regex) : Except String (List Token) :=
        (tokens s fuel false rest).map (.part p :: ·)
      let sign (t : Token) (first : Bool) : Except String (List Token) :=
        (tokens s fuel first rest).map (t :: ·)
      if !s.isExtended && c = '(' then sign .opening true
      else if !s.isExtended && c = ')' then sign .closing false
      else if !s.isExtended && c = '|' then sign .choice true
      else if !s.isExtended && c = '+' && !isFirst then sign (.repetition 1 none) false
      else if !s.isExtended && c = '?' && !isFirst then sign (.repetition 0 (some 1)) false
      else if !s.isExtended && c = '\x7b' then
        if isFirst then
          if s.isStrict then .error "Invalid preceding regular expression" else part (.char c)
        else match readBounds false rest with
          | .ok (bounds, rest) =>
            (tokens s fuel false rest).map (.repetition bounds.1 bounds.2 :: ·)
          | .error e => .error e.report
      else if c.isDigit && c != '0' then part (.again (c.toNat - 48))
      else match c with
        | 'w' => part (.oneOf false wordSets)
        | 'W' => part (.oneOf true wordSets)
        | 's' => part (.oneOf false [.kind "space"])
        | 'S' => part (.oneOf true [.kind "space"])
        | 'b' => part (.wordEdge false)
        | 'B' => part (.wordEdge true)
        | '<' => part .wordStart
        | '>' => part .wordEnd
        | '\x60' => part .atStart
        | '\x27' => part .atEnd
        | c =>
          match if s.hasEscapes then escaped? c else none,
              if s.hasEscapes then numbered? c rest else none with
          | some e, _ => part (.char e)
          | none, some (e, rest) => (tokens s fuel false rest).map (.part (.char e) :: ·)
          | none, none => part (.char c)
  | fuel + 1, isFirst, c :: r =>
    let part (p : Regex) : Except String (List Token) := (tokens s fuel false r).map (.part p :: ·)
    let sign (t : Token) (first : Bool) : Except String (List Token) :=
      (tokens s fuel first r).map (t :: ·)
    match c with
    | '.' => part .any
    | '[' =>
      let (negated, inner) := match r with
        | '^' :: r => (true, r)
        | r => (false, r)
      if inner.isEmpty then .error "Invalid regular expression"
      else match readBrackets s.hasEscapes (inner.length + 1) true inner with
      | .ok (sets, rest) => (tokens s fuel false rest).map (.part (.oneOf negated sets) :: ·)
      | .error e => .error e
    | '*' =>
      if isFirst && s.isExtended then
        if s.isStrict then .error "Invalid preceding regular expression"
        else tokens s fuel true r
      else if isFirst then part (.char c) else sign (.repetition 0 none) false
    | '^' =>
      if s.isExtended || isFirst then sign (.part .atStart) true else part (.char c)
    | '$' => if s.isExtended || endsHere s.isExtended r then part .atEnd else part (.char c)
    | '(' => if s.isExtended then sign .opening true else part (.char c)
    | ')' => if s.isExtended then sign .closing false else part (.char c)
    | '|' => if s.isExtended then sign .choice true else part (.char c)
    | '+' =>
      if isFirst && s.isExtended then
        if s.isStrict then .error "Invalid preceding regular expression"
        else tokens s fuel true r
      else if s.isExtended then sign (.repetition 1 none) false else part (.char c)
    | '?' =>
      if isFirst && s.isExtended then
        if s.isStrict then .error "Invalid preceding regular expression"
        else tokens s fuel true r
      else if s.isExtended then sign (.repetition 0 (some 1)) false else part (.char c)
    | '\x7b' =>
      if s.isExtended && isFirst && s.isStrict then .error "Invalid preceding regular expression"
      else if s.isExtended then
        match readBounds true r with
        | .ok (bounds, rest) =>
          if isFirst then tokens s fuel true rest
          else (tokens s fuel false rest).map (.repetition bounds.1 bounds.2 :: ·)
        | .error (.noBounds e) => if s.isStrict then .error e else part (.char c)
        | .error (.wrongBounds e) => .error e
      else part (.char c)
    | c => part (.char c)

/-- Puts one expression after another. -/
def append : Regex → Regex → Regex
  | .empty, r => r
  | r, .empty => r
  | r, s => .both r s

mutual

/-- The expression that tokens make up to their end or the end of a group; `count` is the number of
groups so far. -/
def ofTokens (fuel : Nat) (inGroup : Bool) (count : Nat) (ts : List Token) :
    Except String (Regex × Nat × List Token) :=
  match fuel with
  | 0 => .error "Regular expression too big"
  | fuel + 1 => do
    let (first, count, rest) ← sequenceOf fuel inGroup count .empty ts
    match rest with
    | .choice :: rest => do
      let (second, count, rest) ← ofTokens fuel inGroup count rest
      pure (.either first second, count, rest)
    | rest => pure (first, count, rest)
termination_by structural fuel

/-- The expression that tokens make up to the next choice. -/
def sequenceOf (fuel : Nat) (inGroup : Bool) (count : Nat) (before : Regex) (ts : List Token) :
    Except String (Regex × Nat × List Token) :=
  match fuel with
  | 0 => .error "Regular expression too big"
  | fuel + 1 =>
    let repeated (r : Regex) (count : Nat) (ts : List Token) :
        Except String (Regex × Nat × List Token) :=
      let bounds := ts.takeWhile fun
        | .repetition _ _ => true
        | _ => false
      let r := bounds.foldl (fun r t => match t with
        | .repetition least most => .times least most r
        | _ => r) r
      sequenceOf fuel inGroup count (append before r) (ts.drop bounds.length)
    match ts with
    | [] => .ok (before, count, [])
    | .choice :: _ => .ok (before, count, ts)
    | .closing :: _ =>
      if inGroup then .ok (before, count, ts) else .error "Unmatched ) or \\)"
    | .repetition _ _ :: rest => sequenceOf fuel inGroup count before rest
    | .part r :: rest => repeated r count rest
    | .opening :: rest => do
      let number := count + 1
      let (inner, count, rest) ← ofTokens fuel true number rest
      match rest with
      | .closing :: rest => repeated (.group number inner) count rest
      | _ => .error "Unmatched ( or \\("
termination_by structural fuel

end

/-- Tokens in which the ends of groups that have no start are characters; `open_` is the number of
groups that have started. -/
def withLooseEnds (open_ : Nat) : List Token → List Token
  | [] => []
  | .opening :: r => .opening :: withLooseEnds (open_ + 1) r
  | .closing :: r =>
    if open_ = 0 then .part (.char ')') :: withLooseEnds 0 r
    else .closing :: withLooseEnds (open_ - 1) r
  | t :: r => t :: withLooseEnds open_ r

/-- The largest number of a group that an expression refers to. -/
def largestReference : List Token → Nat
  | [] => 0
  | .part (.again n) :: r => max n (largestReference r)
  | _ :: r => largestReference r

/-- The expression that a text writes, with the number of its groups. -/
def ofText (s : Style) (cs : List Char) : Except String (Regex × Nat) := do
  let ts ← tokens s (cs.length + 1) true cs
  let ts := if s.isExtended && !s.isStrict then withLooseEnds 0 ts else ts
  let (r, count, _) ← ofTokens (4 * ts.length + 4) false 0 ts
  if count < largestReference ts then throw "Invalid back reference"
  pure (r, count)

/-! ### Matching -/

/-- A place in a text, with what groups have matched: the place of the start and the length. -/
structure Place where
  /-- The number of characters before. -/
  index : Nat
  /-- The characters after. -/
  rest : List Char
  /-- The character before, if there is one. -/
  last : Option Char
  /-- What groups have matched. -/
  groups : List (Nat × List Char)

/-- The place after a character. -/
def Place.next (p : Place) : Place :=
  match p.rest with
  | c :: r => { p with index := p.index + 1, rest := r, last := some c }
  | [] => p

/-- The place after a number of characters. -/
def Place.skip (p : Place) : Nat → Place
  | 0 => p
  | n + 1 => p.next.skip n

/-- Places without those at which another one is already. -/
def distinct (ps : List Place) : List Place :=
  (ps.foldl (fun (seen : List Nat × List Place) p =>
    if seen.1.contains p.index then seen else (p.index :: seen.1, p :: seen.2)) ([], [])).2.reverse

/-- Whether a character is part of a word. -/
def isWordChar (c : Option Char) : Bool := c.any fun c => wordSets.any (·.has c)

/-- How texts are compared. -/
structure Comparing where
  /-- Whether upper and lower case are the same. -/
  ignoresCase : Bool
  /-- Whether lines inside of a text count as texts. -/
  hasLines : Bool

/-- Whether two characters count as the same. -/
def Comparing.same (m : Comparing) (c d : Char) : Bool :=
  c == d || (m.ignoresCase && c.toLower == d.toLower)

/-- The places after a match that starts at a place, the preferred one first. `fuel` bounds the
number of steps of repetitions. -/
def places (m : Comparing) : Regex → Nat → Place → List Place
  | .empty, _, p => [p]
  | .char c, _, p =>
    match p.rest with
    | d :: _ => if m.same c d then [p.next] else []
    | [] => []
  | .any, _, p =>
    match p.rest with
    | d :: _ => if isStray d then [] else [p.next]
    | [] => []
  | .oneOf negated sets, _, p =>
    match p.rest with
    | d :: _ =>
      let isIn := sets.any fun s => s.has d ||
        (m.ignoresCase && (s.has d.toLower || s.has d.toUpper))
      if isIn != negated && !isStray d then [p.next] else []
    | [] => []
  | .atStart, _, p =>
    if p.last.isNone || (m.hasLines && p.last == some '\n') then [p] else []
  | .atEnd, _, p =>
    if p.rest.isEmpty || (m.hasLines && p.rest.head? == some '\n') then [p] else []
  | .wordEdge negated, _, p =>
    if (isWordChar p.last != isWordChar p.rest.head?) != negated then [p] else []
  | .wordStart, _, p => if !isWordChar p.last && isWordChar p.rest.head? then [p] else []
  | .wordEnd, _, p => if isWordChar p.last && !isWordChar p.rest.head? then [p] else []
  | .group n inner, fuel, p =>
    (places m inner fuel p).map fun q =>
      { q with groups := (n, p.rest.take (q.index - p.index)) :: q.groups.filter (·.1 != n) }
  | .again n, _, p =>
    match p.groups.find? (·.1 == n) with
    | some g =>
      let text := p.rest.take g.2.length
      if text.length = g.2.length && (text.zip g.2).all fun (c, d) => m.same c d then
        [p.skip g.2.length]
      else []
    | none => []
  | .both r s, fuel, p => distinct ((places m r fuel p).flatMap (places m s fuel))
  | .either r s, fuel, p => distinct (places m r fuel p ++ places m s fuel p)
  | .times least most inner, fuel, p =>
    let once (ps : List Place) : List Place := distinct (ps.flatMap (places m inner fuel))
    let rec grow : Nat → Nat → List Place → List Place → List Place
      | 0, _, _, found => found
      | n + 1, done, now, found =>
        if now.isEmpty then found
        else
          let next := once now
          let done := done + 1
          let fresh := if least < done then
              next.filter fun q => !found.any (·.index == q.index)
            else next
          let found := if least ≤ done then distinct (fresh ++ found) else found
          grow n done fresh found
    let most := most.getD (p.rest.length + least + 1)
    let bound := min most (p.rest.length + least + 1)
    grow bound 0 [p] (if least = 0 then [p] else [])

/-- A match. -/
structure Found where
  /-- The number of characters before it. -/
  start : Nat
  /-- The matched text. -/
  text : List Char
  /-- What groups have matched. -/
  groups : List (Nat × List Char)

/-- The text of a group of a match; the whole match has the number 0. -/
def Found.group (f : Found) (n : Nat) : List Char :=
  if n = 0 then f.text else ((f.groups.find? (·.1 == n)).map (·.2)).getD []

/-- The longest match that starts at a place. -/
def longestAt (r : Regex) (m : Comparing) (p : Place) : Option Found :=
  let ends := places m r (p.rest.length + 1) p
  let best := ends.foldl (fun (best : Option Place) q =>
    match best with
    | some b => if b.index < q.index then some q else best
    | none => some q) none
  best.map fun q => ⟨p.index, p.rest.take (q.index - p.index), q.groups⟩

/-- The first match that starts at a place or after it. -/
def findFrom (r : Regex) (m : Comparing) : Nat → Place → Option Found
  | 0, p => longestAt r m p
  | n + 1, p =>
    match longestAt r m p with
    | some f => some f
    | none => if p.rest.isEmpty then none else findFrom r m n p.next

/-- The first match in a text after some characters. -/
def find (r : Regex) (m : Comparing) (cs : List Char) (skipped : Nat) : Option Found :=
  let p : Place := ⟨0, cs, none, []⟩
  findFrom r m (cs.length + 1) (p.skip skipped)

end Regex

end RamlClient.Text
