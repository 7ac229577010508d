import RamlClient.Text.Half
import RamlClient.Yaml.Cursor
/-!
# The texts of YAML scalars

A scalar is written plainly, in quotes, or as a block of lines. Every reader starts at a cursor and
gives the text of the scalar with the place after it. The number `fuel` bounds the steps of a
reader; the number of characters that follow, and one, is enough.
-/

namespace RamlClient.Yaml

/-- A text that has been read, and the place after it. -/
abbrev Reading := Except YamlError (List Char × Cursor)

/-! ### Quoted scalars -/

/-- The characters that escape letters stand for. -/
def escapeChars : List (Char × Char) :=
  [('0', '\x00'), ('a', '\x07'), ('b', '\x08'), ('t', '\t'), ('\t', '\t'), ('n', '\n'),
   ('v', '\x0b'), ('f', '\x0c'), ('r', '\r'), ('e', '\x1b'), (' ', ' '), ('\x22', '\x22'),
   ('\\', '\\'), ('/', '/'), ('N', '\x85'), ('_', '\u00a0'), ('L', '\u2028'), ('P', '\u2029')]

/-- The number of hexadecimal digits after an escape letter. -/
def escapeDigits (c : Char) : Option Nat :=
  if c == 'x' then some 2 else if c == 'u' then some 4 else if c == 'U' then some 8 else none

/-- The empty lines and the indentation inside a quoted scalar. -/
def quotedBreaks : Nat → Cursor → Reading
  | 0, _ => .error .malformed
  | fuel + 1, c =>
    if c.atAnyMarker then .error .malformed
    else
      let c := c.dropWhile fun ch => ch == ' ' || ch == '\t'
      if isBreak c.peek then do
        let (line, c) := c.takeBreak
        let (rest, c) ← quotedBreaks fuel c
        pure (line ++ rest, c)
      else .ok ([], c)

/-- An escape in double quotes, from the character after the backslash on. -/
def quotedEscape (fuel : Nat) (c : Cursor) : Reading :=
  let ch := c.peek
  match escapeChars.find? (·.1 == ch), escapeDigits ch with
  | some e, _ => .ok ([e.2], c.next)
  | none, some count =>
    let c := c.next
    let digits := c.rest.take count
    match if digits.length == count then hexNumber? digits else none with
    | none => .error .malformed
    | some code =>
      if code ≤ 0x10ffff then .ok ([Text.charOfCode code], c.skip count)
      else .error (.defect (if code ≤ 0x7fffffff then .noSuchCharacter else .numberTooLarge))
  | none, none =>
    if isBreak ch then quotedBreaks fuel c.takeBreak.2 else .error .malformed

/-- White space inside a quoted scalar. A line end reads as a space, or as the empty lines after
it. -/
def quotedSpaces (fuel : Nat) (c : Cursor) : Reading :=
  let (blanks, c) := c.takeWhile fun ch => ch == ' ' || ch == '\t'
  if c.peek == endMark then .error .malformed
  else if isBreak c.peek then do
    let (line, c) := c.takeBreak
    let (breaks, c) ← quotedBreaks fuel c
    let first := if line != ['\n'] then line else if breaks.isEmpty then [' '] else []
    pure (first ++ breaks, c)
  else .ok (blanks, c)

/-- What stands in quotes, up to the closing quote. -/
def quotedBody (quote : Char) : Nat → Cursor → Reading
  | 0, _ => .error .malformed
  | fuel + 1, c => do
    let double := quote == '\x22'
    let ch := c.peek
    let (piece, c) ←
      if ch == '\x27' && !double && c.peekAt 1 == '\x27' then pure ([ch], c.skip 2)
      else if ch == quote then return ([], c.next)
      else if double && ch == '\\' then quotedEscape fuel c.next
      else if ch == endMark || ch == ' ' || ch == '\t' || isBreak ch then quotedSpaces fuel c
      else pure ([ch], c.next)
    let (rest, c) ← quotedBody quote fuel c
    pure (piece ++ rest, c)

/-- A quoted scalar, from its opening quote on. -/
def quotedScalar (c : Cursor) : Reading := quotedBody c.peek (c.size + 1) c.next

/-! ### Block scalars -/

/-- What a block scalar does with the line ends after its last line. -/
inductive Chomping where
  /-- One line end stays. -/
  | clip
  /-- None stays. -/
  | strip
  /-- All stay. -/
  | keep
deriving DecidableEq, Repr

/-- The chomping that a character asks for. -/
def chomping? (c : Char) : Option Chomping :=
  if c == '+' then some .keep else if c == '-' then some .strip else none

/-- The indentation that a character asks for. -/
def indentation? (c : Char) : Option Nat := if c.isDigit then some (c.toNat - 48) else none

/-- The header of a block scalar: chomping and indentation in any order. -/
def blockHeader (c : Cursor) : Except YamlError (Chomping × Option Nat × Cursor) := do
  let (chomping, indentation, c) :=
    match chomping? c.peek, indentation? c.peek with
    | some k, _ =>
      match indentation? (c.peekAt 1) with
      | some n => (k, some n, c.skip 2)
      | none => (k, none, c.next)
    | none, some n =>
      match chomping? (c.peekAt 1) with
      | some k => (k, some n, c.skip 2)
      | none => (.clip, some n, c.next)
    | none, none => (.clip, none, c)
  if indentation == some 0 || !isSpaceOrEnd c.peek then throw .malformed
  pure (chomping, indentation, ← c.skipComment)

/-- The empty lines before the first line of a block scalar, with the largest indentation among
them. -/
def leadingBreaks : Nat → Nat → Cursor → List Char × Nat × Cursor
  | 0, deepest, c => ([], deepest, c)
  | fuel + 1, deepest, c =>
    if c.peek == ' ' then
      let c := c.next
      leadingBreaks fuel (max deepest c.column) c
    else if isBreak c.peek then
      let (line, c) := c.takeBreak
      let (rest, deepest, c) := leadingBreaks fuel deepest c
      (line ++ rest, deepest, c)
    else ([], deepest, c)

/-- The place after at most as many spaces as lead to a column. -/
def skipIndentation : Nat → Nat → Cursor → Cursor
  | 0, _, c => c
  | fuel + 1, indent, c =>
    if c.column < indent && c.peek == ' ' then skipIndentation fuel indent c.next else c

/-- The empty lines inside a block scalar, up to the indentation of the next line. -/
def blockBreaks : Nat → Nat → Cursor → List Char × Cursor
  | 0, _, c => ([], c)
  | fuel + 1, indent, c =>
    let c := skipIndentation indent indent c
    if isBreak c.peek then
      let (line, c) := c.takeBreak
      let (rest, c) := blockBreaks fuel indent c
      (line ++ rest, c)
    else ([], c)

/-- The line end between two lines of a block scalar. In a folded one, a line end between lines that
do not start with white space reads as a space, or as the empty lines after it. -/
def foldBreak (folded : Bool) (line breaks : List Char) (startsBlank nextBlank : Bool) :
    List Char :=
  if folded && line == ['\n'] && !startsBlank && !nextBlank then
    if breaks.isEmpty then [' '] else []
  else line

/-- The lines of a block scalar of a given indentation. -/
def blockLines (folded : Bool) (chomping : Chomping) (indent : Nat) :
    Nat → List Char → Cursor → List Char × Cursor
  | 0, _, c => ([], c)
  | fuel + 1, breaks, c =>
    let startsBlank := c.peek == ' ' || c.peek == '\t'
    let (text, c) := c.takeWhile fun ch => !isBreak ch
    let (line, c) := c.takeBreak
    let (more, c) := blockBreaks fuel indent c
    if c.column == indent && c.peek != endMark then
      let nextBlank := c.peek == ' ' || c.peek == '\t'
      let (rest, c) := blockLines folded chomping indent fuel more c
      (breaks ++ text ++ foldBreak folded line more startsBlank nextBlank ++ rest, c)
    else
      let last := match chomping with
        | .clip => line
        | .strip => []
        | .keep => line ++ more
      (breaks ++ text ++ last, c)

/-- A block scalar, from its indicator on; `indent` is the indentation of what holds it. -/
def blockScalar (folded : Bool) (indent : Int) (c : Cursor) : Reading := do
  let fuel := c.size + 1
  let (chomping, indentation, c) ← blockHeader c.next
  let least := max 1 (indent + 1).toNat
  let (breaks, indent, c) := match indentation with
    | some n =>
      let indent := least + n - 1
      let (breaks, c) := blockBreaks fuel indent c
      (breaks, indent, c)
    | none =>
      let (breaks, deepest, c) := leadingBreaks fuel 0 c
      (breaks, max least deepest, c)
  if c.column == indent && c.peek != endMark then
    pure (blockLines folded chomping indent fuel breaks c)
  else
    pure (if chomping == .keep then breaks else [], c)

/-! ### Plain scalars -/

/-- The empty lines inside a plain scalar, and whether a document marker ends them. -/
def plainBreaks : Nat → Cursor → List Char × Bool × Cursor
  | 0, c => ([], false, c)
  | fuel + 1, c =>
    if c.peek == ' ' then plainBreaks fuel c.next
    else if isBreak c.peek then
      let (line, c) := c.takeBreak
      if c.atAnyMarker then ([], true, c)
      else
        let (rest, stop, c) := plainBreaks fuel c
        (line ++ rest, stop, c)
    else ([], false, c)

/-- The white space after a piece of a plain scalar: its text, whether it holds a line end, and the
place after it. Without text the scalar ends. -/
def plainSpaces (c : Cursor) : List Char × Bool × Cursor :=
  let (spaces, c) := c.takeWhile (· == ' ')
  if isBreak c.peek then
    let (line, c) := c.takeBreak
    if c.atAnyMarker then ([], true, c)
    else
      let (breaks, stop, c) := plainBreaks (c.size + 1) c
      if stop then ([], true, c)
      else
        let first := if line != ['\n'] then line else if breaks.isEmpty then [' '] else []
        (first ++ breaks, true, c)
  else (spaces, false, c)

/-- Whether a plain scalar ends before a character, which another one follows. -/
def endsPlain (inFlow : Bool) (ch following : Char) : Bool :=
  isBlankOrEnd ch ||
    (ch == ':' && (isBlankOrEnd following || (inFlow && [',', '[', ']', '\x7b', '\x7d'].contains
      following))) ||
    (inFlow && [',', '?', '[', ']', '\x7b', '\x7d'].contains ch)

/-- The characters of a plain scalar up to white space or its end. -/
def plainPiece (inFlow : Bool) : List Char → List Char
  | [] => []
  | ch :: r =>
    if endsPlain inFlow ch (r.head?.getD endMark) then [] else ch :: plainPiece inFlow r

/-- The pieces of a plain scalar, and whether a line has ended since the last one. -/
def plainPieces (inFlow : Bool) (indent : Int) :
    Nat → List Char → Bool → Cursor → List Char × Bool × Cursor
  | 0, _, newLine, c => ([], newLine, c)
  | fuel + 1, spaces, newLine, c =>
    let piece := if c.peek == '#' then [] else plainPiece inFlow c.rest
    if piece.isEmpty then ([], newLine, c)
    else
      let c := c.skip piece.length
      let (more, newLine, c) := plainSpaces c
      if more.isEmpty || c.peek == '#' || (!inFlow && (c.column : Int) < indent) then
        (spaces ++ piece, newLine, c)
      else
        let (rest, newLine, c) := plainPieces inFlow indent fuel more newLine c
        (spaces ++ piece ++ rest, newLine, c)

/-- A plain scalar: its text, whether a line has ended since its last character, and the place after
the white space that follows it. -/
def plainScalar (inFlow : Bool) (indent : Int) (c : Cursor) : List Char × Bool × Cursor :=
  plainPieces inFlow (indent + 1) (c.size + 1) [] false c

end RamlClient.Yaml
