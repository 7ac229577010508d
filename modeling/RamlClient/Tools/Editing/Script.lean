import RamlClient.Shell.Reader
import RamlClient.Text.Regex
/-!
# Editing scripts

A script edits lines one after another. It is a list of commands, each of which may be meant for
some lines only: those with a number, those that an expression matches, or those between two such
lines.
-/

namespace RamlClient.Tools.Editing

open Text (Regex)

/-- An expression with what it says about upper and lower case and about lines; the empty one stands
for the last one that has been used. -/
structure Pattern where
  /-- The expression. -/
  regex : Option Regex
  /-- How texts are compared. -/
  comparing : Regex.Comparing

/-- Which lines are meant. -/
inductive Address where
  /-- The line of a number. -/
  | line (n : Nat)
  /-- Every line of a number and some lines after it. -/
  | every (first step : Nat)
  /-- The last line. -/
  | last
  /-- The lines that an expression matches. -/
  | matching (p : Pattern)

/-- Where lines end that are meant. -/
inductive Ending where
  /-- At a line like those of an address. -/
  | at (a : Address)
  /-- After some more lines. -/
  | after (n : Nat)
  /-- At the next line whose number is a multiple. -/
  | multiple (n : Nat)

/-- How letters of a replacement are changed. -/
inductive Recasing where
  /-- Not at all. -/
  | none
  /-- All to upper case. -/
  | upper
  /-- All to lower case. -/
  | lower
deriving DecidableEq, Repr

/-- A part of a replacement. -/
inductive ReplacementPart where
  /-- A text. -/
  | text (cs : List Char)
  /-- What a group has matched; the whole match has the number 0. -/
  | group (n : Nat)
  /-- Another way to change letters from here on. -/
  | recase (r : Recasing)
  /-- Another way to change the next letter. -/
  | recaseNext (upper : Bool)

/-- A replacement of what an expression matches. -/
structure Substitution where
  /-- The expression. -/
  pattern : Pattern
  /-- The replacement. -/
  replacement : List ReplacementPart
  /-- The number of the first match that is replaced. -/
  number : Nat
  /-- Whether later matches are replaced as well. -/
  all : Bool
  /-- Whether the line is written if something has been replaced. -/
  prints : Bool
  /-- The file that the line is written to if something has been replaced. -/
  file : Option String

/-- What a command does. -/
inductive Action where
  /-- Runs the commands up to the one of a number. -/
  | block (stop : Nat)
  /-- Nothing. -/
  | nothing
  /-- Writes a text after the line. -/
  | append (text : String)
  /-- Writes a text before the line. -/
  | insert (text : String)
  /-- Writes a text in the place of lines. -/
  | change (text : String)
  /-- Goes to a label, or to the end; it may do so only after something has been replaced, or only
  after nothing has. -/
  | jump (label : String) (ifReplaced : Option Bool)
  /-- Replaces. -/
  | substitute (s : Substitution)
  /-- Replaces characters by others. -/
  | translate (pairs : List (Char × Char))
  /-- Ends, with or without writing the line. -/
  | quit (prints : Bool) (status : Nat)
  /-- Writes a file after the line. -/
  | readFile (path : String)
  /-- Writes the line, or its first part, to a file. -/
  | writeFile (path : String) (firstOnly : Bool)
  /-- Shows the line, cut to a width if there is one. -/
  | show (width : Option Nat)
  /-- What a letter says. -/
  | letter (c : Char)

/-- A command. -/
structure EditCommand where
  /-- The first line that is meant. -/
  first : Option Address
  /-- Where the lines end that are meant. -/
  ending : Option Ending
  /-- Whether the other lines are meant. -/
  negated : Bool
  /-- What is done. -/
  action : Action

/-! ### Reading scripts -/

/-- The state of a reader. -/
structure ReaderState where
  /-- What is still to be read. -/
  rest : List Char
  /-- The number of characters that have been read. -/
  position : Nat
  /-- The number of the line. -/
  line : Nat
  /-- The commands. -/
  commands : Array EditCommand
  /-- The numbers of the commands that open blocks. -/
  blocks : List Nat
  /-- The labels. -/
  labels : List (String × Nat)
  /-- How expressions are written. -/
  style : Regex.Style

/-- Steps that read a script. -/
abbrev Reading := EStateM String ReaderState

namespace Reading

/-- The next character. -/
def next : Reading (Option Char) := do
  let s ← get
  match s.rest with
  | c :: r => do
    set { s with
      rest := r, position := s.position + 1, line := if c = '\n' then s.line + 1 else s.line }
    pure (some c)
  | [] => pure none

/-- The next character, without reading it. -/
def peek : Reading (Option Char) := do pure (← get).rest.head?

/-- Skips the characters of a class. -/
def skipWhile (p : Char → Bool) : Reading (List Char) := do
  let taken := (← get).rest.takeWhile p
  taken.forM fun _ => discard next
  pure taken

/-- Whether a character is white space inside of a line. -/
def isBlank (c : Char) : Bool := c == ' ' || c == '\t'

/-- Whether a character is white space. -/
def isSpace (c : Char) : Bool := isBlank c || c == '\n' || c == '\r' || c == '\x0b' || c == '\x0c'

/-- Skips white space inside of a line. -/
def skipBlanks : Reading Unit := discard (skipWhile isBlank)

/-- The number that follows. -/
def number : Reading Nat := do
  let digits ← skipWhile Char.isDigit
  pure (Shell.Reading.numberOf 10 digits)

/-- The characters of a bracket up to its end, and what follows it. -/
def bracketOf (cs : List Char) : List Char × List Char :=
  let (start, cs) := match cs with
    | '^' :: ']' :: r => (['^', ']'], r)
    | '^' :: r => (['^'], r)
    | ']' :: r => ([']'], r)
    | r => ([], r)
  let rec go : Nat → List Char → List Char × List Char
    | 0, cs => ([], cs)
    | _, [] => ([], [])
    | fuel + 1, '[' :: ':' :: r =>
      let name := r.takeWhile fun c => c != ']'
      let (more, rest) := go fuel (r.drop (name.length + 1))
      ('[' :: ':' :: name ++ ']' :: more, rest)
    | fuel + 1, c :: r =>
      if c = ']' then ([']'], r)
      else
        let (more, rest) := go fuel r
        (c :: more, rest)
  let (more, rest) := go (cs.length + 1) cs
  (start ++ more, rest)

/-- The text up to a delimiter, without the backslashes before delimiters. There is none if the text
has no end. -/
def delimited (delimiter : Char) (isRegex : Bool) : Nat → Reading (Option (List Char))
  | 0 => pure none
  | fuel + 1 => do
    match ← peek with
    | none => pure none
    | some '\n' => pure none
    | some c => do
      discard next
      if c = delimiter then pure (some [])
      else if c = '\\' then do
        match ← next with
        | none => pure none
        | some d =>
          let taken :=
            if d = delimiter && !(!isRegex && d = '&') then [d]
            else if d = 'n' && isRegex then ['\n']
            else if d = '\n' && isRegex then ['\n']
            else ['\\', d]
          pure ((← delimited delimiter isRegex fuel).map (taken ++ ·))
      else if c = '[' && isRegex then do
        let (inner, _) := bracketOf (← get).rest
        inner.forM fun _ => discard next
        let rec escapes : List Char → List Char
          | '\\' :: 'n' :: r => '\n' :: escapes r
          | d :: r => d :: escapes r
          | [] => []
        pure ((← delimited delimiter isRegex fuel).map ('[' :: escapes inner ++ ·))
      else pure ((← delimited delimiter isRegex fuel).map (c :: ·))

/-- The end of a command. -/
def endCommand : Reading Unit := do
  skipBlanks
  match ← peek with
  | none => pure ()
  | some '\n' => discard next
  | some ';' => discard next
  | some '\x7d' => pure ()
  | some '#' => pure ()
  | some _ => do
    discard next
    throw "extra characters after command"

/-- The pattern of a text. -/
def patternOf (cs : List Char) (ignoresCase hasLines : Bool) : Reading (Pattern × Nat) := do
  if cs.isEmpty then pure (⟨none, ⟨ignoresCase, hasLines⟩⟩, 9)
  else
    match Regex.ofText (← get).style cs with
    | .ok (r, groups) => pure (⟨some r, ⟨ignoresCase, hasLines⟩⟩, groups)
    | .error e => throw e

/-- The address that follows, if one does. -/
def address : Reading (Option Address) := do
  let size := (← get).rest.length + 1
  let matching (delimiter : Char) : Reading (Option Address) := do
    match ← delimited delimiter true size with
    | none => throw "unterminated address regex"
    | some cs => do
      let flags ← skipWhile fun c => c == 'I' || c == 'M'
      let (p, _) ← patternOf cs (flags.contains 'I') (flags.contains 'M')
      pure (some (.matching p))
  match ← peek with
  | some '/' => do
    discard next
    matching '/'
  | some '\\' => do
    discard next
    match ← next with
    | some d => matching d
    | none => throw "unterminated address regex"
  | some '$' => do
    discard next
    pure (some .last)
  | some c =>
    if c.isDigit then do
      let n ← number
      skipBlanks
      if (← peek) = some '~' then do
        discard next
        let step ← number
        pure (some (if step = 0 then .line n else .every n step))
      else pure (some (.line n))
    else pure none
  | none => pure none

/-- The end of the lines that are meant. -/
def ending : Reading Ending := do
  match ← peek with
  | some '+' => do
    discard next
    pure (.after (← number))
  | some '~' => do
    discard next
    pure (.multiple (← number))
  | _ => do
    match ← address with
    | some a => pure (.at a)
    | none => do
      discard next
      throw "unexpected \x60,'"

/-- The rest of a line. -/
def restOfLine : Reading (List Char) := do
  let text ← skipWhile (· != '\n')
  discard next
  pure text

/-- The name of a label. -/
def label : Reading String := do
  discard (skipWhile isBlank)
  let name ← skipWhile fun c => !isSpace c && c != ';' && c != '\x7d'
  endCommand
  pure (String.ofList name)

/-- The name of a file. -/
def fileName : Reading String := do
  skipBlanks
  let name ← restOfLine
  if name.isEmpty then throw "missing filename in r/R/w/W commands"
  pure (String.ofList name)

/-- The lines of a text, which goes on after backslashes. -/
def textLines : Nat → Reading (List Char)
  | 0 => pure []
  | fuel + 1 => do
    match ← next with
    | none => pure []
    | some '\n' => pure []
    | some '\\' => do
      match ← next with
      | none => pure []
      | some c => do pure (c :: (← textLines fuel))
    | some c => do pure (c :: (← textLines fuel))

/-- The text of a command. -/
def textOf : Reading String := do
  let size := (← get).rest.length + 1
  skipBlanks
  match ← peek with
  | none => throw "expected \\ after \x60a', \x60c' or \x60i'"
  | some '\\' => do
    discard next
    let rest := (← get).rest
    if (rest.dropWhile isBlank).head? == some '\n' then
      skipBlanks
      discard next
    let cs ← textLines size
    pure (String.ofList cs ++ if cs.isEmpty then "" else "\n")
  | some '\n' => throw "expected \\ after \x60a', \x60c' or \x60i'"
  | some _ => do
    let cs ← textLines size
    pure (String.ofList cs ++ "\n")

/-- The parts of a replacement. -/
def replacementOf : Nat → List Char → List ReplacementPart
  | 0, _ => []
  | _, [] => []
  | fuel + 1, '&' :: r => .group 0 :: replacementOf fuel r
  | fuel + 1, '\\' :: c :: r =>
    let part : ReplacementPart :=
      if c.isDigit then .group (c.toNat - 48)
      else match c with
        | 'L' => .recase .lower
        | 'U' => .recase .upper
        | 'E' => .recase .none
        | 'l' => .recaseNext false
        | 'u' => .recaseNext true
        | c =>
          match Regex.escaped? c with
          | some e => .text [e]
          | none => .text [c]
    match Regex.numbered? c r with
    | some (d, rest) => .text [d] :: replacementOf fuel rest
    | none => part :: replacementOf fuel r
  | fuel + 1, c :: r => .text [c] :: replacementOf fuel r

/-- The flags after a replacement. -/
structure Flags where
  /-- Whether all matches are replaced. -/
  all : Bool
  /-- Whether the line is written. -/
  prints : Bool
  /-- The number of the first match. -/
  number : Option Nat
  /-- Whether upper and lower case are the same. -/
  ignoresCase : Bool
  /-- Whether lines count as texts. -/
  hasLines : Bool
  /-- The file that the line is written to. -/
  file : Option String

/-- Reads flags. -/
def flagsFrom : Nat → Flags → Reading Flags
  | 0, f => pure f
  | fuel + 1, f => do
    match ← peek with
    | none => pure f
    | some c =>
      if c = '\x7d' || c = '#' then pure f
      else if c.isDigit then do
        let n ← number
        if n = 0 then throw "number option to \x60s' command may not be zero"
        if f.number.isSome then throw "multiple number options to \x60s' command"
        flagsFrom fuel { f with number := some n }
      else do
        discard next
        match c with
        | 'g' => do
          if f.all then throw "multiple \x60g' options to \x60s' command"
          flagsFrom fuel { f with all := true }
        | 'p' => do
          if f.prints then throw "multiple \x60p' options to \x60s' command"
          flagsFrom fuel { f with prints := true }
        | 'i' => flagsFrom fuel { f with ignoresCase := true }
        | 'I' => flagsFrom fuel { f with ignoresCase := true }
        | 'm' => flagsFrom fuel { f with hasLines := true }
        | 'M' => flagsFrom fuel { f with hasLines := true }
        | 'e' => flagsFrom fuel f
        | 'w' => do pure { f with file := some (← fileName) }
        | '\n' => pure f
        | ';' => pure f
        | c => if isBlank c then flagsFrom fuel f else throw "unknown option to \x60s'"

/-- A substitution, after its letter. -/
def substitution : Reading Action := do
  let size := (← get).rest.length + 1
  let unterminated {α : Type} : Reading α := throw "unterminated \x60s' command"
  match ← next with
  | none => unterminated
  | some delimiter =>
    if delimiter = '\n' || delimiter = '\\' then unterminated
    match ← delimited delimiter true size with
    | none => unterminated
    | some source =>
      match ← delimited delimiter false size with
      | none => unterminated
      | some target => do
        let parts := replacementOf (target.length + 1) target
        let f ← flagsFrom size ⟨false, false, none, false, false, none⟩
        let (p, groups) ← patternOf source f.ignoresCase f.hasLines
        let largest := parts.foldl (fun n part => match part with
          | .group m => max n m
          | _ => n) 0
        if groups < largest then
          throw ("invalid reference \\" ++ toString largest ++ " on \x60s' command's RHS")
        pure (.substitute ⟨p, parts, f.number.getD 1, f.all, f.prints, f.file⟩)

/-- A text of characters to be replaced, with its escapes. -/
def unescaped : List Char → List Char
  | '\\' :: c :: r =>
    match c with
    | '\\' => '\\' :: unescaped r
    | c =>
      match Regex.escaped? c with
      | some e => e :: unescaped r
      | none => '\\' :: c :: unescaped r
  | c :: r => c :: unescaped r
  | [] => []

/-- A replacement of characters, after its letter. -/
def translation : Reading Action := do
  let size := (← get).rest.length + 1
  let unterminated {α : Type} : Reading α := throw "unterminated \x60y' command"
  match ← next with
  | none => unterminated
  | some delimiter =>
    match ← delimited delimiter false size with
    | none => unterminated
    | some source =>
      match ← delimited delimiter false size with
      | none => unterminated
      | some target => do
        let s := unescaped source
        let t := unescaped target
        if s.length != t.length then
          throw "strings for \x60y' command are different lengths"
        endCommand
        pure (.translate (s.zip t))

/-- Adds a command. -/
def add (c : EditCommand) : Reading Unit :=
  modify fun s => { s with commands := s.commands.push c }

/-- Reads the commands of a script. `fuel` is more than its length. -/
def commandsFrom : Nat → Reading Unit
  | 0 => pure ()
  | fuel + 1 => do
    discard (skipWhile fun c => isSpace c || c == ';')
    match ← peek with
    | none => pure ()
    | some '#' => do
      if (← get).position = 0 && (← get).commands.isEmpty then pure ()
      discard restOfLine
      commandsFrom fuel
    | some _ => do
      let mark ← peek
      if mark = some '+' || mark = some '~' then
        discard next
        discard number
        throw "invalid usage of +N or ~N as first address"
      let first ← address
      skipBlanks
      let ending ← do
        if first.isSome && (← peek) = some ',' then
          discard next
          skipBlanks
          pure (some (← ending))
        else pure none
      skipBlanks
      match first, ending with
      | some (.line 0), some (.at (.matching _)) => pure ()
      | some (.line 0), _ => do
        discard next
        throw "invalid usage of line address 0"
      | _, _ => pure ()
      let negated ← do
        if (← peek) = some '!' then
          discard next
          skipBlanks
          pure true
        else pure false
      if negated && (← peek) = some '!' then
        discard next
        throw "multiple \x60!'s"
      let command (a : Action) : Reading Unit := add ⟨first, ending, negated, a⟩
      let plain (a : Action) : Reading Unit := do
        endCommand
        command a
      match ← next with
      | none => throw "missing command"
      | some c => do
        match c with
        | '#' => throw "comments don't accept any addresses"
        | '\x7b' => do
          let n := (← get).commands.size
          modify fun s => { s with blocks := n :: s.blocks }
          command (.block 0)
        | '\x7d' => do
          match (← get).blocks with
          | [] => throw "unexpected \x60\x7d'"
          | n :: r => do
            if first.isSome then throw "\x7d doesn't want any addresses"
            modify fun s => { s with blocks := r }
            endCommand
            let stop := (← get).commands.size
            modify fun s => { s with commands := match s.commands[n]? with
              | some c => s.commands.setIfInBounds n { c with action := .block stop }
              | none => s.commands }
        | 'a' => do command (.append (← textOf))
        | 'i' => do command (.insert (← textOf))
        | 'c' => do command (.change (← textOf))
        | ':' => do
          if first.isSome then throw ": doesn't want any addresses"
          skipBlanks
          let name ← skipWhile fun c => !isSpace c && c != ';' && c != '\x7d'
          if name.isEmpty then throw "\":\" lacks a label"
          let n := (← get).commands.size
          modify fun s => { s with labels := s.labels ++ [(String.ofList name, n)] }
        | 'b' => do command (.jump (← label) none)
        | 't' => do command (.jump (← label) (some true))
        | 'T' => do command (.jump (← label) (some false))
        | 's' => do command (← substitution)
        | 'y' => do command (← translation)
        | 'r' => do command (.readFile (← fileName))
        | 'w' => do command (.writeFile (← fileName) false)
        | 'W' => do command (.writeFile (← fileName) true)
        | 'v' => do
          discard label
          command .nothing
        | _ =>
          if c = 'q' || c = 'Q' then do
            if ending.isSome then throw "command only uses one address"
            skipBlanks
            let status ← number
            plain (.quit (c == 'q') (status % 256))
          else if c = 'l' then do
            skipBlanks
            let digits ← skipWhile Char.isDigit
            plain (.show (if digits.isEmpty then none else some (Shell.Reading.numberOf 10 digits)))
          else if
              ['=', 'd', 'D', 'F', 'g', 'G', 'h', 'H', 'n', 'N', 'p', 'P', 'x', 'z'].contains c then
            plain (.letter c)
          else throw ("unknown command: \x60" ++ String.ofList [c] ++ "'")
      commandsFrom fuel

end Reading

/-! ### Whole scripts -/

/-- A piece of a script: an expression with its number, or a file with its name. -/
structure Piece where
  /-- The name of the file, unless it is an expression. -/
  file : Option String
  /-- The number of the expression. -/
  number : Nat
  /-- The text. -/
  text : List Char

/-- A script. -/
structure Script where
  /-- The commands. -/
  commands : Array EditCommand
  /-- The labels with the numbers of commands. -/
  labels : List (String × Nat)

/-- Where a fault is. -/
def Piece.place (p : Piece) (position line : Nat) : String :=
  match p.file with
  | some name => "file " ++ name ++ " line " ++ toString line
  | none => "-e expression #" ++ toString p.number ++ ", char " ++ toString position

/-- Reads pieces one after another. -/
def readPieces (s : ReaderState) : List Piece → Except String ReaderState
  | [] => .ok s
  | p :: r =>
    let start : ReaderState := { s with rest := p.text, position := 0, line := 1 }
    match Reading.commandsFrom (p.text.length + 2) start with
    | .ok () t => readPieces t r
    | .error e t => .error (p.place t.position t.line ++ ": " ++ e)

/-- Pieces of which none ends with a backslash, unless it is the last one. -/
def joinPieces : List Piece → List Piece
  | p :: q :: r =>
    let backslashes := (p.text.reverse.takeWhile (· == '\\')).length
    if backslashes % 2 = 1 then joinPieces ({ p with text := p.text ++ '\n' :: q.text } :: r)
    else p :: joinPieces (q :: r)
  | ps => ps
termination_by ps => ps.length

/-- Why a script cannot be used: it cannot be read, or it goes to a label that is not there. -/
inductive ScriptFault where
  /-- It cannot be read. -/
  | unreadable (report : String)
  /-- A label is missing. -/
  | noLabel (name : String)

/-- Reads a script. -/
def readScript (style : Regex.Style) (pieces : List Piece) : Except ScriptFault Script :=
  match readPieces ⟨[], 0, 1, #[], [], [], style⟩ (joinPieces pieces) with
  | .error e => .error (.unreadable e)
  | .ok s =>
    if !s.blocks.isEmpty then
      let place := match pieces with
        | p :: _ => p.place 0 0
        | [] => ""
      .error (.unreadable (place ++ ": unmatched \x60\x7b'"))
    else
      let missing := s.commands.toList.findSome? fun c => match c.action with
        | .jump name _ =>
          if name != "" && !s.labels.any (·.1 == name) then some name else none
        | _ => none
      match missing with
      | some name => .error (.noLabel name)
      | none => .ok ⟨s.commands, s.labels⟩

end RamlClient.Tools.Editing
