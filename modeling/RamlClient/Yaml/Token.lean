import RamlClient.Text.Numeral
import RamlClient.Yaml.Scalar
/-!
# YAML tokens

The tokens of a text mark where collections, keys and values begin and end. In block style this
follows from the indentation. A key that is not marked as one is found out when the colon after it
is read, and its marks are put in front of it then. A token is settled when no mark can be put in
front of it any more.
-/

namespace RamlClient.Yaml

/-- The tokens of a text. -/
inductive Token where
  /-- A directive that gives the version. -/
  | version (major : Nat)
  /-- A directive that says what a tag handle stands for. -/
  | tagHandle (handle start : List Char)
  /-- Any other directive. -/
  | directive
  /-- The marker before a document. -/
  | documentStart
  /-- The marker after a document. -/
  | documentEnd
  /-- A sequence in block style begins. -/
  | blockSequenceStart
  /-- A mapping in block style begins. -/
  | blockMappingStart
  /-- A collection in block style ends. -/
  | blockEnd
  /-- A sequence in flow style begins. -/
  | flowSequenceStart
  /-- A sequence in flow style ends. -/
  | flowSequenceEnd
  /-- A mapping in flow style begins. -/
  | flowMappingStart
  /-- A mapping in flow style ends. -/
  | flowMappingEnd
  /-- An item of a block sequence begins. -/
  | blockEntry
  /-- A comma in flow style. -/
  | flowEntry
  /-- A key begins. -/
  | key
  /-- A value begins. -/
  | value
  /-- A reference to an anchor. -/
  | alias (name : List Char)
  /-- An anchor. -/
  | anchor (name : List Char)
  /-- A tag: its handle, if it has one, and the rest. -/
  | tag (handle : Option (List Char)) (rest : List Char)
  /-- A scalar, and whether it is written plainly. -/
  | scalar (text : List Char) (plain : Bool)
deriving DecidableEq, Repr

/-- A place where a key may have begun. -/
structure KeyCandidate where
  /-- The depth of flow collections around it. -/
  depth : Nat
  /-- The number of tokens before it. -/
  position : Nat
  /-- Whether only a key can stand there. -/
  required : Bool
  /-- The number of characters before it. -/
  index : Nat
  /-- The number of lines before it. -/
  line : Nat
  /-- Its column. -/
  column : Nat

/-- What is known while tokens are read. -/
structure TokenState where
  /-- Where the next token is looked for. -/
  cursor : Cursor
  /-- The tokens so far. -/
  tokens : Array Token
  /-- The depth of flow collections. -/
  depth : Nat
  /-- The columns of the block collections around, the innermost first. -/
  indents : List Nat
  /-- Whether a key can begin here without a mark. -/
  keyAllowed : Bool
  /-- The places where keys may have begun, one for each depth at most. -/
  candidates : List KeyCandidate
  /-- The number of tokens that were settled before the last one was looked for. -/
  settled : Nat

/-- Steps that read tokens. -/
abbrev TokenReader := EStateM YamlError TokenState

namespace TokenReader

/-- The largest number of characters of a key without a mark. -/
def maxKeyLength : Nat := 1024

/-- The text is not well formed. -/
def malformed {α : Type} : TokenReader α := throw .malformed

/-- Adds a token. -/
def emit (t : Token) : TokenReader Unit := modify fun s => { s with tokens := s.tokens.push t }

/-- Puts a token in front of a later one. -/
def emitAt (position : Nat) (t : Token) : TokenReader Unit :=
  modify fun s => { s with
    tokens := if h : position ≤ s.tokens.size then s.tokens.insertIdx position t else s.tokens }

/-- The place that has been reached. -/
def cursor : TokenReader Cursor := do pure (← get).cursor

/-- Goes on from a place. -/
def goOn (c : Cursor) : TokenReader Unit := modify fun s => { s with cursor := c }

/-- Whether block style holds. -/
def inBlock : TokenReader Bool := do pure ((← get).depth == 0)

/-- The column of the innermost block collection, -1 outside all of them. -/
def indent : TokenReader Int := do
  pure (match (← get).indents with
    | [] => -1
    | i :: _ => i)

/-- Says whether a key can begin here without a mark. -/
def allowKey (b : Bool) : TokenReader Unit := modify fun s => { s with keyAllowed := b }

/-! ### Candidates for keys -/

/-- Whether a candidate is too far back. -/
def isStale (s : TokenState) (k : KeyCandidate) : Bool :=
  k.line != s.cursor.line || maxKeyLength < s.cursor.index - k.index

/-- Drops the candidates that are too far back. -/
def dropStale : TokenReader Unit := do
  let s ← get
  if s.candidates.any fun k => isStale s k && k.required then malformed
  set { s with candidates := s.candidates.filter fun k => !isStale s k }

/-- Notes which tokens are settled: those before the first candidate. -/
def noteSettled : TokenReader Unit := modify fun s =>
  let places := (s.candidates.filter fun k => !isStale s k).map (·.position)
  { s with settled := places.foldl min s.tokens.size }

/-- Drops the candidate of the present depth. -/
def dropCandidate : TokenReader Unit := do
  let s ← get
  if s.candidates.any fun k => k.depth == s.depth && k.required then malformed
  set { s with candidates := s.candidates.filter fun k => k.depth != s.depth }

/-- Makes this place a candidate if a key can begin here. -/
def noteCandidate : TokenReader Unit := do
  let s ← get
  if s.keyAllowed then
    let required := s.depth == 0 && (← indent) == (s.cursor.column : Int)
    dropCandidate
    modify fun s => { s with candidates :=
      ⟨s.depth, s.tokens.size, required, s.cursor.index, s.cursor.line, s.cursor.column⟩ ::
        s.candidates }

/-! ### Indentation -/

/-- Ends the block collections that are indented deeper than a column. -/
def unwind (column : Int) : TokenReader Unit := do
  let s ← get
  if s.depth == 0 then
    let ended := s.indents.takeWhile fun (i : Nat) => decide (column < (i : Int))
    set { s with
      tokens := s.tokens ++ ended.toArray.map fun _ => Token.blockEnd
      indents := s.indents.drop ended.length }

/-- Begins a block collection at a column unless it is not indented deeper; tells whether it
does. -/
def addIndent (column : Nat) : TokenReader Bool := do
  if (← indent) < (column : Int) then
    modify fun s => { s with indents := column :: s.indents }
    pure true
  else pure false

/-! ### Directives, anchors and tags -/

/-- A run of digits as a number; their number is limited. -/
def readNumber (c : Cursor) : TokenReader (Nat × Cursor) := do
  let (digits, c) := c.takeWhile Char.isDigit
  if digits.isEmpty then malformed
  if Text.maxNumeralDigits < digits.length then throw (.defect .overlongNumber)
  pure (digits.foldl (fun n d => n * 10 + (d.toNat - 48)) 0, c)

/-- Whether a character can stand in a tag. -/
def isTagChar (c : Char) : Bool :=
  c.isAlphanum || ['-', ';', '/', '?', ':', '@', '&', '=', '+', '$', ',', '_', '.', '!', '~', '*',
    '\x27', '(', ')', '[', ']'].contains c

/-- The bytes that percent escapes at the start of a text write, and the number of their
characters. -/
def escapedBytes : List Char → Option (List UInt8 × Nat)
  | '%' :: a :: b :: r => do
    let n ← hexNumber? [a, b]
    let (more, count) ← escapedBytes r
    pure (n.toUInt8 :: more, count + 3)
  | '%' :: _ => none
  | _ => some ([], 0)

/-- A tag without its handle. At least one character has to follow. -/
def readTagRest : Nat → Cursor → TokenReader (List Char × Cursor)
  | 0, _ => malformed
  | fuel + 1, c => do
    let (plain, c) := c.takeWhile isTagChar
    if c.peek == '%' then
      match escapedBytes c.rest with
      | none => malformed
      | some (bytes, count) =>
        match String.fromUTF8? ⟨bytes.toArray⟩ with
        | none => malformed
        | some s =>
          let c := c.skip count
          if isTagChar c.peek || c.peek == '%' then
            let (rest, c) ← readTagRest fuel c
            pure (plain ++ s.toList ++ rest, c)
          else pure (plain ++ s.toList, c)
    else if plain.isEmpty then malformed
    else pure (plain, c)

/-- A tag handle: exclamation marks, with a name between them if there are two. -/
def readTagHandle (c : Cursor) : TokenReader (List Char × Cursor) := do
  if c.peek != '!' then malformed
  let after := c.next
  if after.peek == ' ' then pure (['!'], after)
  else
    let (name, c) := after.takeWhile isNameChar
    if c.peek != '!' then malformed
    pure ('!' :: name ++ ['!'], c.next)

/-- A directive, from its percent sign on. -/
def readDirective : TokenReader Unit := do
  unwind (-1)
  dropCandidate
  allowKey false
  let c ← cursor
  let (name, c) := c.next.takeWhile isNameChar
  if name.isEmpty || !isSpaceOrEnd c.peek then malformed
  let c ←
    if name == "YAML".toList then do
      let (major, c) ← readNumber c.skipSpaces
      if c.peek != '.' then malformed
      let (_, c) ← readNumber c.next
      if !isSpaceOrEnd c.peek then malformed
      emit (.version major)
      pure c
    else if name == "TAG".toList then do
      let (handle, c) ← readTagHandle c.skipSpaces
      if c.peek != ' ' then malformed
      let c := c.skipSpaces
      let (start, c) ← readTagRest (c.size + 1) c
      if !isSpaceOrEnd c.peek then malformed
      emit (.tagHandle handle start)
      pure c
    else do
      emit .directive
      pure c.skipLine
  match c.skipComment with
  | .ok c => goOn c
  | .error e => throw e

/-- An anchor or a reference to one, from its indicator on. -/
def readAnchor (make : List Char → Token) : TokenReader Unit := do
  noteCandidate
  allowKey false
  let (name, c) := (← cursor).next.takeWhile isNameChar
  let ends := isBlankOrEnd c.peek || ['?', ':', ',', ']', '\x7d', '%', '@', '\x60'].contains c.peek
  if name.isEmpty || !ends then malformed
  emit (make name)
  goOn c

/-- A tag, from its exclamation mark on. -/
def readTag : TokenReader Unit := do
  noteCandidate
  allowKey false
  let c ← cursor
  let fuel := c.size + 1
  let following := c.peekAt 1
  let c ←
    if following == '<' then do
      let (rest, c) ← readTagRest fuel (c.skip 2)
      if c.peek != '>' then malformed
      emit (.tag none rest)
      pure c.next
    else if isBlankOrEnd following then do
      emit (.tag none ['!'])
      pure c.next
    else do
      let more := c.rest.tail.takeWhile fun ch => !isSpaceOrEnd ch
      let (handle, c) ← if more.contains '!' then readTagHandle c else pure (['!'], c.next)
      let (rest, c) ← readTagRest fuel c
      emit (.tag (some handle) rest)
      pure c
  if !isSpaceOrEnd c.peek then malformed
  goOn c

/-! ### Marks -/

/-- A marker before or after a document. -/
def readMarker (t : Token) : TokenReader Unit := do
  unwind (-1)
  dropCandidate
  allowKey false
  emit t
  goOn ((← cursor).skip 3)

/-- The beginning of a flow collection. -/
def openFlow (t : Token) : TokenReader Unit := do
  noteCandidate
  modify fun s => { s with depth := s.depth + 1, keyAllowed := true }
  emit t
  goOn (← cursor).next

/-- The end of a flow collection. -/
def closeFlow (t : Token) : TokenReader Unit := do
  dropCandidate
  if (← inBlock) then malformed
  modify fun s => { s with depth := s.depth - 1, keyAllowed := false }
  emit t
  goOn (← cursor).next

/-- A comma in flow style. -/
def readFlowEntry : TokenReader Unit := do
  allowKey true
  dropCandidate
  emit .flowEntry
  goOn (← cursor).next

/-- The mark of an item. -/
def readBlockEntry : TokenReader Unit := do
  if ← inBlock then
    if !(← get).keyAllowed then malformed
    if ← addIndent (← cursor).column then emit .blockSequenceStart
  allowKey true
  dropCandidate
  emit .blockEntry
  goOn (← cursor).next

/-- The mark of a key. -/
def readKey : TokenReader Unit := do
  if ← inBlock then
    if !(← get).keyAllowed then malformed
    if ← addIndent (← cursor).column then emit .blockMappingStart
  allowKey (← inBlock)
  dropCandidate
  emit .key
  goOn (← cursor).next

/-- The mark of a value. The candidate of the present depth turns out to be a key. -/
def readValue : TokenReader Unit := do
  let s ← get
  match s.candidates.find? fun k => k.depth == s.depth with
  | some k =>
    set { s with candidates := s.candidates.filter fun k => k.depth != s.depth }
    emitAt k.position .key
    if ← inBlock then
      if ← addIndent k.column then emitAt k.position .blockMappingStart
    allowKey false
  | none =>
    if ← inBlock then
      if !s.keyAllowed then malformed
      if ← addIndent s.cursor.column then emit .blockMappingStart
    allowKey (← inBlock)
    dropCandidate
  emit .value
  goOn (← cursor).next

/-! ### Scalars -/

/-- A scalar as a block of lines. -/
def readBlockScalar (folded : Bool) : TokenReader Unit := do
  allowKey true
  dropCandidate
  match blockScalar folded (← indent) (← cursor) with
  | .ok (text, c) =>
    emit (.scalar text false)
    goOn c
  | .error e => throw e

/-- A scalar in quotes. -/
def readQuoted : TokenReader Unit := do
  noteCandidate
  allowKey false
  match quotedScalar (← cursor) with
  | .ok (text, c) =>
    emit (.scalar text false)
    goOn c
  | .error e => throw e

/-- A plain scalar. -/
def readPlain : TokenReader Unit := do
  noteCandidate
  let (text, newLine, c) := plainScalar (!(← inBlock)) (← indent) (← cursor)
  allowKey newLine
  emit (.scalar text true)
  goOn c

/-- Whether a plain scalar can begin with a character, which another one follows. -/
def startsPlain (inFlow : Bool) (ch following : Char) : Bool :=
  !(isBlankOrEnd ch || ['-', '?', ':', ',', '[', ']', '\x7b', '\x7d', '#', '&', '*', '!', '|', '>',
    '\x27', '\x22', '%', '@', '\x60'].contains ch) ||
  (!isBlankOrEnd following && (ch == '-' || (!inFlow && (ch == '?' || ch == ':'))))

/-! ### The whole text -/

/-- Goes to the next token, over white space and comments. In block style a key can begin on a new
line. -/
def skipToToken : Nat → TokenReader Unit
  | 0 => pure ()
  | fuel + 1 => do
    let c := (← cursor).skipSpaces
    let c := if c.peek == '#' then c.skipLine else c
    if isBreak c.peek then
      goOn c.takeBreak.2
      if ← inBlock then allowKey true
      skipToToken fuel
    else goOn c

/-- Reads one token, and tells whether the text goes on. -/
def readToken : TokenReader Bool := do
  let c ← cursor
  if c.index == 0 && c.peek == '\ufeff' then goOn c.next
  skipToToken (c.size + 1)
  dropStale
  let c ← cursor
  unwind c.column
  let block ← inBlock
  let ch := c.peek
  let following := c.peekAt 1
  let spaced := isBlankOrEnd following
  if ch == endMark then
    unwind (-1)
    dropCandidate
    pure false
  else do
    if ch == '%' && c.column == 0 then readDirective
    else if c.column == 0 && c.atMarker '-' then readMarker .documentStart
    else if c.column == 0 && c.atMarker '.' then readMarker .documentEnd
    else if ch == '[' then openFlow .flowSequenceStart
    else if ch == '\x7b' then openFlow .flowMappingStart
    else if ch == ']' then closeFlow .flowSequenceEnd
    else if ch == '\x7d' then closeFlow .flowMappingEnd
    else if ch == ',' then readFlowEntry
    else if ch == '-' && spaced then readBlockEntry
    else if ch == '?' && (!block || spaced) then readKey
    else if ch == ':' && (!block || spaced) then readValue
    else if ch == '*' then readAnchor .alias
    else if ch == '&' then readAnchor .anchor
    else if ch == '!' then readTag
    else if ch == '|' && block then readBlockScalar false
    else if ch == '>' && block then readBlockScalar true
    else if ch == '\x27' || ch == '\x22' then readQuoted
    else if startsPlain (!block) ch following then readPlain
    else malformed
    pure true

/-- Reads all tokens; `fuel` bounds their number. -/
def readTokens : Nat → TokenReader Unit
  | 0 => malformed
  | fuel + 1 => do
    noteSettled
    if ← readToken then readTokens fuel

end TokenReader

/-- The tokens of a text, or those that are settled when the first place is read that is not well
formed. -/
def tokens (text : String) : List Token × Option YamlError :=
  let cs := text.toList
  if cs.all isAllowed then
    let start : TokenState := ⟨Cursor.start cs, #[], 0, [], true, [], 0⟩
    match TokenReader.readTokens (cs.length + 2) start with
    | .ok _ s => (s.tokens.toList, none)
    | .error e s => (s.tokens.toList.take s.settled, some e)
  else ([], some .malformed)

end RamlClient.Yaml
