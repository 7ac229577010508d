import RamlClient.Shell.Script
import RamlClient.Text.ByteText
/-!
# Reading scripts

A script is read command by command. Each one ends with its line, so that a fault of a later line
does not keep the lines before it from running. The texts that commands read from the lines after
them are put into a table.
-/

namespace RamlClient.Shell

/-! ### Tokens -/

/-- The tokens of a script. -/
inductive Token where
  /-- The end of the script. -/
  | finish
  /-- The end of a line. -/
  | newline
  /-- A sign that ends or joins commands. -/
  | sign (text : String)
  /-- A redirection of a stream. -/
  | redirection (stream : Option Nat) (sign : RedirectionSign)
  /-- A word. -/
  | word (w : Word)
  /-- A word with a meaning of its own. -/
  | keyword (text : String)

namespace Token

/-- How reports call a token. -/
def label : Token → String
  | finish => "end of file"
  | newline => "newline"
  | sign s => "\x22" ++ s ++ "\x22"
  | redirection _ _ => "redirection"
  | word _ => "word"
  | keyword s => "\x22" ++ s ++ "\x22"

/-- The text of a token as far as reports give it. -/
def shown : Token → String
  | finish => "end of file"
  | newline => "newline"
  | sign s => s
  | redirection _ .read => "<"
  | redirection _ .append => ">>"
  | redirection _ .sameInput => "<&"
  | redirection _ .sameOutput => ">&"
  | redirection _ (.here _) => "<<"
  | redirection _ _ => ">"
  | word w => w.bare?.getD "word"
  | keyword s => s

/-- Whether a token is a sign or a keyword with some text. -/
def is (t : Token) (text : String) : Bool :=
  match t with
  | sign s => s == text
  | keyword s => s == text
  | _ => false

/-- Whether a token ends a list of commands. -/
def endsList : Token → Bool
  | finish => true
  | sign s => s == ")" || s == ";;"
  | keyword s => ["do", "done", "elif", "else", "esac", "fi", "then", "\x7d"].contains s
  | _ => false

end Token

/-- The words with a meaning of their own in every shell. -/
def plainKeywords : List String :=
  ["!", "case", "do", "done", "elif", "else", "esac", "fi", "for", "if", "in", "then", "until",
   "while", "\x7b", "\x7d"]

/-- The words with a meaning of their own. -/
def keywords : Dialect → List String
  | .plain => plainKeywords
  | .extended => plainKeywords ++ ["[[", "function"]

/-- The built-in commands that no function can have the name of. -/
def specialBuiltins : List String :=
  [".", ":", "break", "continue", "eval", "exec", "exit", "export", "readonly", "return", "set",
   "shift", "times", "trap", "unset"]

/-! ### The state of reading -/

/-- Why a script cannot be read. -/
structure ScriptFault where
  /-- The line. -/
  line : Nat
  /-- The report. -/
  report : String
deriving DecidableEq, Repr

/-- A text that is read from the lines after a command. -/
structure PendingLines where
  /-- Its number. -/
  index : Nat
  /-- The line after it. -/
  delimiter : String
  /-- Whether tabs at the start of lines do not count. -/
  withoutTabs : Bool
  /-- Whether it has no parts but texts. -/
  literal : Bool

/-- The state of a reader of scripts. -/
structure ReaderState where
  /-- What is still to be read. -/
  rest : List Char
  /-- The number of the line. -/
  line : Nat
  /-- The token that has been read and put back. -/
  back : Option Token
  /-- The texts that begin after the line. -/
  pending : List PendingLines
  /-- The texts that have been read from lines. -/
  texts : Array Word
  /-- The shell that the script is written for. -/
  dialect : Dialect

/-- Steps that read a script. -/
abbrev Reading := EStateM ScriptFault ReaderState

namespace Reading

/-- The script has a fault. -/
def fault {α : Type} (report : String) : Reading α := do throw ⟨(← get).line, report⟩

/-- A token stands where it cannot. -/
def unexpected {α : Type} (found : Token) (expected : Option String) : Reading α := do
  match (← get).dialect with
  | .plain =>
    let expecting := match expected with
      | some e => " (expecting " ++ e ++ ")"
      | none => ""
    fault ("Syntax error: " ++ found.label ++ " unexpected" ++ expecting)
  | .extended =>
    match found with
    | .finish => do throw ⟨(← get).line + 1, "syntax error: unexpected end of file"⟩
    | _ => fault ("syntax error near unexpected token \x60" ++ found.shown ++ "\x27")

/-- A text has no end. -/
def unclosed {α : Type} (plain : String) (closing : String) : Reading α := do
  match (← get).dialect with
  | .plain => fault ("Syntax error: " ++ plain)
  | .extended =>
    fault ("unexpected EOF while looking for matching \x60" ++ closing ++ "\x27")

/-- The next character, unless the script ends. -/
def peek : Reading (Option Char) := do pure (← get).rest.head?

/-- Skips a character. -/
def skip : Reading Unit := modify fun s =>
  { s with
    rest := s.rest.tail
    line := if s.rest.head? = some '\n' then s.line + 1 else s.line }

/-- What follows the ends of lines that go on, and their number. -/
def joinLines : List Char → List Char × Nat
  | '\\' :: '\n' :: r =>
    let (rest, lines) := joinLines r
    (rest, lines + 1)
  | cs => (cs, 0)

/-- The next character, after lines have been joined. -/
def peekJoined : Reading (Option Char) := do
  let s ← get
  let (rest, lines) := joinLines s.rest
  set { s with rest, line := s.line + lines }
  pure rest.head?

/-- Skips the next character if it is the one given. -/
def skipIf (c : Char) : Reading Bool := do
  if (← peekJoined) = some c then
    skip
    pure true
  else pure false

/-- Skips the next character if it is the one given and the shell has extensions. -/
def skipExtension (c : Char) : Reading Bool := do
  if (← get).dialect = .extended then skipIf c else pure false

/-- The characters of a class that follow. -/
def takeWhile (p : Char → Bool) : Reading (List Char) := do
  let s ← get
  let cs := s.rest.takeWhile p
  set { s with rest := s.rest.drop cs.length, line := s.line + cs.count '\n' }
  pure cs

/-- The characters of a class that follow, on joined lines. -/
def takeJoined (p : Char → Bool) : Nat → Reading (List Char)
  | 0 => pure []
  | fuel + 1 => do
    match ← peekJoined with
    | some c =>
      if p c then
        skip
        pure (c :: (← takeJoined p fuel))
      else pure []
    | none => pure []

/-! ### Words -/

/-- Whether a character can start a name. -/
def isNameStart (c : Char) : Bool := c.isAlpha || c == '_'

/-- Whether a character can stand in a name. -/
def isNameChar (c : Char) : Bool := c.isAlphanum || c == '_'

/-- Whether a character names a parameter of its own. -/
def isSpecial (c : Char) : Bool := c.isDigit || ['@', '*', '#', '?', '-', '$', '!'].contains c

/-- Where the reader of a word stands. -/
inductive Inside where
  /-- Outside quotes. -/
  | bare
  /-- In double quotes. -/
  | quotes
  /-- In braces, outside quotes or in them. -/
  | braces (quoted : Bool)
  /-- In an expression, in some number of parentheses. -/
  | arithmetic (depth : Nat)
  /-- In a text of lines. -/
  | lines
deriving DecidableEq, Repr

namespace Inside

/-- Whether texts are quoted. -/
def isQuoted : Inside → Bool
  | bare => false
  | braces quoted => quoted
  | _ => true

/-- The characters that are no plain text. -/
def marks : Inside → List Char
  | bare => ['\\', '\x27', '\x22', '$', '\x60', ' ', '\t', '\n', '|', '&', ';', '<', '>', '(', ')']
  | quotes => ['\\', '\x22', '$', '\x60']
  | braces false => ['\\', '\x27', '\x22', '$', '\x60', '\x7d']
  | braces true => ['\\', '\x22', '$', '\x60', '\x7d']
  | arithmetic _ => ['\\', '$', '\x60', '(', ')']
  | lines => ['\\', '$', '\x60']

/-- The characters that a backslash takes the meaning of, unless it is all. -/
def escapable : Inside → Option (List Char)
  | bare => none
  | quotes => some ['\\', '\x22', '$', '\x60']
  | braces false => none
  | braces true => some ['\\', '\x22', '$', '\x60', '\x7d']
  | arithmetic _ => some ['\\', '\x22', '$', '\x60']
  | lines => some ['\\', '$', '\x60']

end Inside

/-- The character after a backslash. -/
def readEscaped (inside : Inside) : Reading Word := do
  match ← peek with
  | none => pure [.text "\\" true]
  | some '\n' => do
    skip
    pure []
  | some c => do
    skip
    let kept := match inside.escapable with
      | none => true
      | some cs => cs.contains c
    pure [.text (String.ofList (if kept then [c] else ['\\', c])) true]

/-- The text up to the next single quote. -/
def readSingleQuoted : Reading Word := do
  let line := (← get).line
  let cs ← takeWhile (· != '\x27')
  match ← peek with
  | none =>
    match (← get).dialect with
    | .plain => unclosed "Unterminated quoted string" "\x27"
    | .extended => do throw ⟨line, "unexpected EOF while looking for matching \x60\x27\x27"⟩
  | some _ => do
    skip
    pure [.text (String.ofList cs) true]

/-- The characters that letters after a backslash stand for. -/
def letterEscapes : List (Char × Char) :=
  [('n', '\n'), ('t', '\t'), ('r', '\r'), ('a', '\x07'), ('b', '\x08'), ('f', '\x0c'),
   ('v', '\x0b'), ('e', '\x1b'), ('E', '\x1b'), ('\\', '\\'), ('\x27', '\x27'), ('\x22', '\x22'),
   ('?', '?')]

/-- The value of a digit. -/
def digitValue (c : Char) : Nat :=
  if c.isDigit then c.toNat - 48
  else if c.isLower then c.toNat - 87
  else c.toNat - 55

/-- Whether a character is a hexadecimal digit. -/
def isHexDigit (c : Char) : Bool :=
  c.isDigit || ('a' ≤ c && c ≤ 'f') || ('A' ≤ c && c ≤ 'F')

/-- Whether a character is an octal digit. -/
def isOctalDigit (c : Char) : Bool := '0' ≤ c && c ≤ '7'

/-- The number that digits write in a base. -/
def numberOf (base : Nat) (cs : List Char) : Nat := cs.foldl (fun n c => n * base + digitValue c) 0

/-- The text between single quotes after a dollar sign, in which backslashes have a meaning. -/
def readEscapedQuote : Nat → Reading (List Char)
  | 0 => fault "unexpected EOF"
  | fuel + 1 => do
    match (← get).rest with
    | [] => unclosed "Unterminated quoted string" "\x27"
    | '\x27' :: _ => do
      skip
      pure []
    | '\\' :: 'x' :: r => do
      let digits := (r.take 2).takeWhile isHexDigit
      modify fun s => { s with rest := r.drop digits.length }
      pure (Char.ofNat (numberOf 16 digits) :: (← readEscapedQuote fuel))
    | '\\' :: c :: r =>
      if isOctalDigit c then do
        let digits := ((c :: r).take 3).takeWhile isOctalDigit
        modify fun s => { s with rest := (c :: r).drop digits.length }
        pure (Char.ofNat (numberOf 8 digits % 256) :: (← readEscapedQuote fuel))
      else do
        skip
        skip
        match letterEscapes.find? (·.1 == c) with
        | some e => pure (e.2 :: (← readEscapedQuote fuel))
        | none => pure ('\\' :: c :: (← readEscapedQuote fuel))
    | c :: _ => do
      skip
      pure (c :: (← readEscapedQuote fuel))

/-- The text of a command between backquotes, with its own backslashes taken off. -/
def readBackquoted (quoted : Bool) : Nat → Reading (List Char)
  | 0 => fault "Syntax error: EOF in backquote substitution"
  | fuel + 1 => do
    match (← get).rest with
    | [] => unclosed "EOF in backquote substitution" "\x60"
    | '\x60' :: _ => do
      skip
      pure []
    | '\\' :: '\n' :: _ => do
      skip
      skip
      readBackquoted quoted fuel
    | '\\' :: c :: _ => do
      skip
      skip
      let rest ← readBackquoted quoted fuel
      if c = '\\' || c = '\x60' || c = '$' || (quoted && c = '\x22') then pure (c :: rest)
      else pure ('\\' :: c :: rest)
    | c :: _ => do
      skip
      pure (c :: (← readBackquoted quoted fuel))

/-- The redirection that a sign starts, after its first character. -/
def redirectionSign (first : Char) : Reading RedirectionSign := do
  if first = '<' then
    match ← peekJoined with
    | some '<' => do
      skip
      if ← skipExtension '<' then pure .hereWord
      else pure (.here (← skipIf '-'))
    | some '&' => do
      skip
      pure .sameInput
    | some '>' => do
      skip
      pure .readWrite
    | _ => pure .read
  else
    match ← peekJoined with
    | some '>' => do
      skip
      pure .append
    | some '&' => do
      skip
      pure .sameOutput
    | some '|' => do
      skip
      pure .overwrite
    | _ => pure .write

/-- Puts a token back. -/
def putBack (t : Token) : Reading Unit := modify fun s => { s with back := some t }

/-- The word with a meaning of its own that a token is, if it is one. -/
def asKeyword (t : Token) : Reading Token := do
  match t with
  | .word w =>
    match w.bare? with
    | some s => pure (if (keywords (← get).dialect).contains s && !w.isEmpty then .keyword s else t)
    | none => pure t
  | _ => pure t

/-- Whether a text is a name. -/
def isName (s : String) : Bool :=
  match s.toList with
  | c :: r => isNameStart c && r.all isNameChar
  | [] => false

/-- The assignment that a word is, if it is one: the name, whether the value is added, and the
value. -/
def assignment? (dialect : Dialect) : Word → Option (String × Bool × Word)
  | .text s false :: r =>
    match Text.cutAtChar '=' s.toList with
    | (name, some value) =>
      let adds := dialect == .extended && name.getLast? == some '+'
      let name := String.ofList (if adds then name.dropLast else name)
      if isName name then
        some (name, adds, if value.isEmpty then r else .text (String.ofList value) false :: r)
      else none
    | _ => none
  | _ => none

/-- Whether a word has quoted parts. -/
def hasQuotes (w : Word) : Bool :=
  w.any fun
    | .text _ quoted => quoted
    | .parameter _ _ quoted => quoted
    | .output _ quoted => quoted
    | .number _ quoted => quoted

/-- The text of a delimiter, without its quotes. -/
def delimiterText (w : Word) : String :=
  Text.concat (w.map fun
    | .text s _ => s
    | .parameter name _ _ => "$" ++ name
    | _ => "")

/-- The lines up to a delimiter. -/
def linesUpTo (p : PendingLines) : Nat → Reading (List Char)
  | 0 => pure []
  | fuel + 1 => do
    if p.withoutTabs then discard (takeWhile (· == '\t'))
    let s ← get
    if s.rest.isEmpty then pure []
    else
      let line ← takeWhile (· != '\n')
      let ended := (← peek).isSome
      skip
      if String.ofList line = p.delimiter then pure []
      else pure (line ++ (if ended then ['\n'] else []) ++ (← linesUpTo p fuel))

/-- Reads parts or commands in a text of its own. -/
def within {α : Type} (text : List Char) (x : Reading α) : Reading α := do
  let s ← get
  set { s with rest := text, back := none }
  let a ← x
  modify fun t => { t with rest := s.rest, back := s.back }
  pure a

mutual

/-- The parts of a word up to its end. -/
def readParts (fuel : Nat) (inside : Inside) : Reading Word :=
  match fuel with
  | 0 => fault "Syntax error: word too long"
  | fuel + 1 => do
    let run ← takeWhile fun c => !inside.marks.contains c
    let before : Word :=
      if run.isEmpty then [] else [.text (String.ofList run) inside.isQuoted]
    match ← peek with
    | none =>
      match inside with
      | .bare => pure before
      | .lines => pure before
      | .quotes => unclosed "Unterminated quoted string" "\x22"
      | .braces true => unclosed "Unterminated quoted string" "\x22"
      | .braces false => unclosed "Missing '\x7d'" "\x7d"
      | .arithmetic _ => unclosed "Missing '))'" ")"
    | some c =>
      if c = '\\' then do
        skip
        let w ← readEscaped inside
        pure (before ++ w ++ (← readParts fuel inside))
      else if c = '\x27' then do
        skip
        let w ← readSingleQuoted
        pure (before ++ w ++ (← readParts fuel inside))
      else if c = '\x22' then do
        skip
        if inside = .quotes then pure before
        else
          let w ← readParts fuel .quotes
          pure (before ++ (if w.isEmpty then [.text "" true] else w) ++ (← readParts fuel inside))
      else if c = '$' then do
        skip
        let w ← readDollar fuel inside
        pure (before ++ w ++ (← readParts fuel inside))
      else if c = '\x60' then do
        skip
        let text ← readBackquoted (inside == .quotes) ((← get).rest.length + 1)
        let command ← within text (readList fuel 2)
        pure (before ++ [.output command inside.isQuoted] ++ (← readParts fuel inside))
      else match inside with
        | .braces _ => do
          skip
          pure before
        | .arithmetic depth =>
          if c = '(' then do
            skip
            pure (before ++ [.text "(" true] ++ (← readParts fuel (.arithmetic (depth + 1))))
          else do
            skip
            match depth with
            | depth + 1 =>
              pure (before ++ [.text ")" true] ++ (← readParts fuel (.arithmetic depth)))
            | 0 =>
              if ← skipIf ')' then pure before
              else pure (before ++ [.text ")" true] ++ (← readParts fuel inside))
        | _ => pure before
termination_by structural fuel

/-- What follows a dollar sign. -/
def readDollar (fuel : Nat) (inside : Inside) : Reading Word :=
  match fuel with
  | 0 => fault "Syntax error: word too long"
  | fuel + 1 => do
    let quoted := inside.isQuoted
    match ← peekJoined with
    | some '(' => do
      skip
      if ← skipIf '(' then
        let w ← readParts fuel (.arithmetic 0)
        pure [.number w quoted]
      else
        let pending := (← get).pending
        modify fun s => { s with pending := [] }
        let command ← readList fuel 2
        let t ← readToken fuel false false
        if !t.is ")" then unexpected t (some "\x22)\x22")
        modify fun s => { s with pending }
        pure [.output command quoted]
    | some '\x7b' => do
      skip
      readBraces fuel quoted
    | some '\x27' => do
      if (← get).dialect = .extended && (inside == .bare || inside == .braces false) then
        skip
        pure [.text (String.ofList (← readEscapedQuote ((← get).rest.length + 1))) true]
      else pure [.text "$" quoted]
    | some c =>
      if isNameStart c then do
        let name ← takeJoined isNameChar (← get).rest.length
        pure [.parameter (String.ofList name) .value quoted]
      else if isSpecial c then do
        skip
        pure [.parameter (String.ofList [c]) .value quoted]
      else pure [.text "$" quoted]
    | none => pure [.text "$" quoted]
termination_by structural fuel

/-- A parameter in braces, after the opening brace. -/
def readBraces (fuel : Nat) (quoted : Bool) : Reading Word :=
  match fuel with
  | 0 => fault "Syntax error: word too long"
  | fuel + 1 => do
    let extended := (← get).dialect == .extended
    let senseless : Reading Word := do
      discard (readParts fuel (.braces quoted))
      pure [.parameter "" .senseless quoted]
    let nameHere : Reading (List Char) := do
      match ← peekJoined with
      | some c =>
        if isNameStart c then takeJoined isNameChar (← get).rest.length
        else if c.isDigit then takeJoined Char.isDigit (← get).rest.length
        else pure []
      | none => pure []
    let named ← nameHere
    if named.isEmpty then
      match ← peekJoined with
      | some '#' => do
        skip
        let sized ← nameHere
        if !sized.isEmpty then
          if ← skipIf '\x7d' then pure [.parameter (String.ofList sized) .size quoted]
          else senseless
        else
          match ← peekJoined with
          | some '\x7d' => do
            skip
            pure [.parameter "#" .value quoted]
          | some c => do
            if isSpecial c && (← get).rest.tail.head? = some '\x7d' then
              skip
              skip
              pure [.parameter (String.ofList [c]) .size quoted]
            else readUse fuel "#" quoted
          | none => senseless
      | some '!' => do
        skip
        if extended then
          let indirect ← nameHere
          if indirect.isEmpty then readUse fuel "!" quoted
          else if ← skipIf '\x7d' then
            pure [.parameter (String.ofList indirect) .indirect quoted]
          else readUse fuel "!" quoted
        else readUse fuel "!" quoted
      | some c => do
        if isSpecial c then
          skip
          readUse fuel (String.ofList [c]) quoted
        else senseless
      | none => senseless
    else readUse fuel (String.ofList named) quoted
termination_by structural fuel

/-- What is made of a parameter in braces, after its name. -/
def readUse (fuel : Nat) (name : String) (quoted : Bool) : Reading Word :=
  match fuel with
  | 0 => fault "Syntax error: word too long"
  | fuel + 1 => do
    let extended := (← get).dialect == .extended
    let result (use : ParameterUse) : Word := [.parameter name use quoted]
    let fallback (sign : Char) (whenEmpty : Bool) : Reading Word := do
      skip
      pure (result (.fallback sign whenEmpty (← readParts fuel (.braces quoted))))
    let senseless : Reading Word := do
      discard (readParts fuel (.braces quoted))
      pure (result .senseless)
    match ← peekJoined with
    | some '\x7d' => do
      skip
      pure (result .value)
    | some ':' => do
      skip
      match ← peekJoined with
      | some '-' => fallback '-' true
      | some '+' => fallback '+' true
      | some '?' => fallback '?' true
      | some '=' => fallback '=' true
      | _ =>
        if extended then
          let text ← takeWhile fun c => c != ':' && c != '\x7d'
          let start ← within text (readParts fuel .lines)
          if ← skipIf ':' then
            let length ← readParts fuel (.braces true)
            pure (result (.slice start (some length)))
          else
            skip
            pure (result (.slice start none))
        else senseless
    | some '-' => fallback '-' false
    | some '+' => fallback '+' false
    | some '?' => fallback '?' false
    | some '=' => fallback '=' false
    | some '%' => do
      skip
      let longest ← skipIf '%'
      pure (result (.trimmed true longest (← readParts fuel (.braces false))))
    | some '#' => do
      skip
      let longest ← skipIf '#'
      pure (result (.trimmed false longest (← readParts fuel (.braces false))))
    | some c =>
      if extended && (c = '^' || c = ',') then do
        skip
        let all ← skipIf c
        pure (result (.recased (c == '^') all (← readParts fuel (.braces false))))
      else if extended && c = '/' then do
        skip
        let mark ← do
          match ← peekJoined with
          | some m =>
            if m = '/' || m = '#' || m = '%' then do
              skip
              pure (some m)
            else pure none
          | none => pure none
        let text ← takeWhile fun c => c != '/' && c != '\x7d'
        let pattern ← within text (readParts fuel .bare)
        if ← skipIf '/' then
          pure (result (.replaced mark pattern (← readParts fuel (.braces quoted))))
        else
          skip
          pure (result (.replaced mark pattern []))
      else senseless
    | none => senseless
termination_by structural fuel

/-- The next token. After `newlines`, ends of lines do not count, and after `keywords`, words have
their own meaning. -/
def readToken (fuel : Nat) (newlines keywords : Bool) : Reading Token :=
  match fuel with
  | 0 => fault "Syntax error: script too long"
  | fuel + 1 => do
    let s ← get
    let t ← match s.back with
      | some t => do
        set { s with back := none }
        pure t
      | none => readRawToken fuel
    match t with
    | .newline => if newlines then readToken fuel newlines keywords else pure t
    | t => if keywords then asKeyword t else pure t
termination_by structural fuel

/-- The next token of the text. The end of a line is followed by the texts that commands of the line
read. -/
def readRawToken (fuel : Nat) : Reading Token :=
  match fuel with
  | 0 => fault "Syntax error: script too long"
  | fuel + 1 => do
    match ← peekJoined with
    | none => do
      readPending fuel
      pure .finish
    | some c =>
      if c = ' ' || c = '\t' then do
        skip
        readRawToken fuel
      else if c = '#' then do
        discard (takeWhile (· != '\n'))
        readRawToken fuel
      else if c = '\n' then do
        skip
        readPending fuel
        pure .newline
      else if c = '&' then do
        skip
        if ← skipIf '&' then pure (.sign "&&")
        else if (← get).dialect = .extended && (← peek) = some '>' then
          skip
          pure (.redirection none (.writeAll (← skipIf '>')))
        else pure (.sign "&")
      else if c = '|' then do
        skip
        if ← skipIf '|' then pure (.sign "||")
        else if ← skipExtension '&' then pure (.sign "|&")
        else pure (.sign "|")
      else if c = ';' then do
        skip
        if ← skipIf ';' then pure (.sign ";;") else pure (.sign ";")
      else if c = '(' || c = ')' then do
        skip
        pure (.sign (String.ofList [c]))
      else if c = '<' || c = '>' then do
        skip
        pure (.redirection none (← redirectionSign c))
      else do
        let w ← readParts fuel .bare
        match w, ← peek with
        | [.text s false], some c =>
          match s.toList with
          | [d] =>
            if d.isDigit && (c = '<' || c = '>') then
              skip
              pure (.redirection (some (d.toNat - 48)) (← redirectionSign c))
            else pure (.word w)
          | _ => pure (.word w)
        | w, _ => pure (.word w)
termination_by structural fuel

/-- Reads the texts that begin after a line. -/
def readPending (fuel : Nat) : Reading Unit :=
  match fuel with
  | 0 => fault "Syntax error: script too long"
  | fuel + 1 => do
    match (← get).pending with
    | [] => pure ()
    | p :: r => do
      modify fun s => { s with pending := r }
      let text ← linesUpTo p ((← get).rest.length + 1)
      let line := (← get).line
      let w ←
        if p.literal then pure [.text (String.ofList text) true]
        else within text (readParts fuel .lines)
      modify fun s => { s with texts := s.texts.setIfInBounds p.index w, line }
      readPending fuel
termination_by structural fuel

/-- Commands one after another. `mode` is 0 if a list of commands has to follow, 1 if the commands
of a line do, and 2 if there may be none. -/
def readList (fuel : Nat) (mode : Nat) : Reading Command :=
  match fuel with
  | 0 => fault "Syntax error: script too long"
  | fuel + 1 => do
    let commands ← readListFrom fuel (mode == 1) (mode == 2)
    match commands with
    | [c] => pure c
    | cs => pure (.sequence cs)
termination_by structural fuel

/-- The commands of a list from some command on. -/
def readListFrom (fuel : Nat) (lineOnly mayEnd : Bool) : Reading (List Command) :=
  match fuel with
  | 0 => fault "Syntax error: script too long"
  | fuel + 1 => do
    let t ← readToken fuel (!lineOnly) true
    match t with
    | .newline => pure []
    | .finish => do
      putBack .finish
      pure []
    | t => do
      putBack t
      if mayEnd && t.endsList then pure []
      else do
        let c ← readAndOr fuel
        let t ← readToken fuel false true
        match t with
        | .newline => do
          putBack t
          pure (c :: (← readListFrom fuel lineOnly (!lineOnly)))
        | .finish => do
          putBack t
          pure [c]
        | .sign "&" => do pure (.background c :: (← readListFrom fuel lineOnly (!lineOnly)))
        | .sign ";" => do pure (c :: (← readListFrom fuel lineOnly (!lineOnly)))
        | t =>
          if lineOnly then unexpected t none
          else do
            putBack t
            pure [c]
termination_by structural fuel

/-- Commands that depend on each other's success. -/
def readAndOr (fuel : Nat) : Reading Command :=
  match fuel with
  | 0 => fault "Syntax error: script too long"
  | fuel + 1 => do readAndOrFrom fuel (← readPipeline fuel)
termination_by structural fuel

/-- Commands that depend on the success of a command. -/
def readAndOrFrom (fuel : Nat) (first : Command) : Reading Command :=
  match fuel with
  | 0 => fault "Syntax error: script too long"
  | fuel + 1 => do
    let t ← readToken fuel false true
    match t with
    | .sign "&&" => do
      let next ← readToken fuel true true
      putBack next
      readAndOrFrom fuel (.both first (← readPipeline fuel))
    | .sign "||" => do
      let next ← readToken fuel true true
      putBack next
      readAndOrFrom fuel (.either first (← readPipeline fuel))
    | t => do
      putBack t
      pure first
termination_by structural fuel

/-- Commands that read each other's output. -/
def readPipeline (fuel : Nat) : Reading Command :=
  match fuel with
  | 0 => fault "Syntax error: script too long"
  | fuel + 1 => do
    let t ← readToken fuel false true
    match t with
    | .keyword "!" => do
      let next ← readToken fuel false true
      if (← get).dialect == .extended && next.is "!" then
        putBack next
        pure (.negation (← readPipeline fuel))
      else
        putBack next
        pure (.negation (← readPipes fuel))
    | t => do
      putBack t
      readPipes fuel
termination_by structural fuel

/-- Commands joined by pipes. -/
def readPipes (fuel : Nat) : Reading Command :=
  match fuel with
  | 0 => fault "Syntax error: script too long"
  | fuel + 1 => do
    let first ← readCommand fuel
    let rest ← readMorePipes fuel
    pure (if rest.isEmpty then first else .pipeline (first :: rest))
termination_by structural fuel

/-- The commands after pipes. -/
def readMorePipes (fuel : Nat) : Reading (List Command) :=
  match fuel with
  | 0 => fault "Syntax error: script too long"
  | fuel + 1 => do
    let t ← readToken fuel false true
    match t with
    | .sign "|" => do
      let next ← readToken fuel true true
      putBack next
      let c ← readCommand fuel
      pure (c :: (← readMorePipes fuel))
    | t => do
      putBack t
      pure []
termination_by structural fuel

/-- The word after a redirection, and so the redirection. -/
def readTarget (fuel : Nat) (stream : Option Nat) (sign : RedirectionSign) : Reading Redirection :=
  match fuel with
  | 0 => fault "Syntax error: script too long"
  | fuel + 1 => do
    let t ← readToken fuel false false
    match t with
    | .word w =>
      let usual := match sign with
        | .read => 0
        | .readWrite => 0
        | .sameInput => 0
        | .here _ => 0
        | .hereWord => 0
        | _ => 1
      let stream := stream.getD usual
      match sign with
      | .here withoutTabs => do
        let s ← get
        let index := s.texts.size
        let p : PendingLines := ⟨index, delimiterText w, withoutTabs, hasQuotes w⟩
        set { s with texts := s.texts.push [], pending := s.pending ++ [p] }
        pure (.lines stream index)
      | sign => pure (.toWord stream sign w)
    | t => unexpected t none
termination_by structural fuel

/-- The redirections after a command. -/
def readRedirections (fuel : Nat) : Reading (List Redirection) :=
  match fuel with
  | 0 => fault "Syntax error: script too long"
  | fuel + 1 => do
    let t ← readToken fuel false true
    match t with
    | .redirection stream sign => do
      let r ← readTarget fuel stream sign
      pure (r :: (← readRedirections fuel))
    | t => do
      putBack t
      pure []
termination_by structural fuel

/-- Reads a keyword. -/
def readKeyword (fuel : Nat) (newlines : Bool) (text : String) : Reading Unit :=
  match fuel with
  | 0 => fault "Syntax error: script too long"
  | fuel + 1 => do
    let t ← readToken fuel newlines true
    if !t.is text then unexpected t (some ("\x22" ++ text ++ "\x22"))
termination_by structural fuel

/-- A command. -/
def readCommand (fuel : Nat) : Reading Command :=
  match fuel with
  | 0 => fault "Syntax error: script too long"
  | fuel + 1 => do
    let line := (← get).line
    let t ← readToken fuel false true
    let wrap (c : Command) : Reading Command := do
      let rs ← readRedirections fuel
      pure (if rs.isEmpty then c else .redirected line c rs)
    match t with
    | .keyword "if" => do wrap (← readChoice fuel)
    | .keyword "while" => do
      let test ← readList fuel 0
      readKeyword fuel false "do"
      let body ← readList fuel 0
      readKeyword fuel false "done"
      wrap (.loop false test body)
    | .keyword "until" => do
      let test ← readList fuel 0
      readKeyword fuel false "do"
      let body ← readList fuel 0
      readKeyword fuel false "done"
      wrap (.loop true test body)
    | .keyword "for" => do wrap (← readFor fuel)
    | .keyword "case" => do
      match ← readToken fuel false false with
      | .word w => do
        readKeyword fuel true "in"
        let cases ← readCases fuel
        wrap (.selection line w cases)
      | t => unexpected t (some "word")
    | .keyword "\x7b" => do
      let c ← readList fuel 0
      readKeyword fuel false "\x7d"
      wrap c
    | .keyword "[[" => do
      let words ← readCondition fuel
      wrap (.condition line words)
    | .keyword "function" => do
      match ← readToken fuel false false with
      | .word w => do
        let t ← readToken fuel true true
        if t.is "(" then readKeyword fuel false ")" else putBack t
        let t ← readToken fuel true true
        putBack t
        let body ← readCommand fuel
        pure (.definition line (delimiterText w) body)
      | t => unexpected t none
    | .sign "(" => do
      if (← get).dialect = .extended && (← peek) = some '(' then
        skip
        let w ← readParts fuel (.arithmetic 0)
        wrap (.arithmetic line w)
      else
        let c ← readList fuel 0
        readKeyword fuel false ")"
        let rs ← readRedirections fuel
        pure (.subshell line c rs)
    | .word w => do
      putBack (.word w)
      readSimple fuel line true [] [] []
    | .redirection stream sign => do
      putBack (.redirection stream sign)
      readSimple fuel line true [] [] []
    | t => unexpected t none
termination_by structural fuel

/-- A choice, after its first word. -/
def readChoice (fuel : Nat) : Reading Command :=
  match fuel with
  | 0 => fault "Syntax error: script too long"
  | fuel + 1 => do
    let test ← readList fuel 0
    readKeyword fuel false "then"
    let success ← readList fuel 0
    let t ← readToken fuel false true
    match t with
    | .keyword "elif" => do
      let failure ← readChoice fuel
      pure (.choice test success (some failure))
    | .keyword "else" => do
      let failure ← readList fuel 0
      readKeyword fuel false "fi"
      pure (.choice test success (some failure))
    | t =>
      if t.is "fi" then pure (.choice test success none)
      else unexpected t (some "\x22fi\x22")
termination_by structural fuel

/-- A loop over words, after its first word. -/
def readFor (fuel : Nat) : Reading Command :=
  match fuel with
  | 0 => fault "Syntax error: script too long"
  | fuel + 1 => do
    let line := (← get).line
    let t ← readToken fuel false false
    match t with
    | .word w =>
      let name := w.bare?.getD ""
      if !isName name then fault "Syntax error: Bad for loop variable"
      else do
        let t ← readToken fuel true true
        let words ←
          if t.is "in" then do
            let ws ← readWords fuel
            let t ← readToken fuel false false
            match t with
            | .newline => pure (some ws)
            | .sign ";" => pure (some ws)
            | t => unexpected t none
          else do
            match t with
            | .sign ";" => pure none
            | t => do
              putBack t
              pure none
        readKeyword fuel true "do"
        let body ← readList fuel 0
        readKeyword fuel false "done"
        pure (.forEach line name words body)
    | _ => fault "Syntax error: Bad for loop variable"
termination_by structural fuel

/-- The words that follow. -/
def readWords (fuel : Nat) : Reading (List Word) :=
  match fuel with
  | 0 => fault "Syntax error: script too long"
  | fuel + 1 => do
    let t ← readToken fuel false false
    match t with
    | .word w => do pure (w :: (← readWords fuel))
    | t => do
      putBack t
      pure []
termination_by structural fuel

/-- The words of a condition up to its end. -/
def readCondition (fuel : Nat) : Reading (List Word) :=
  match fuel with
  | 0 => fault "Syntax error: script too long"
  | fuel + 1 => do
    let t ← readToken fuel true false
    match t with
    | .word w =>
      if w.bare? = some "]]" && !w.isEmpty then pure []
      else do pure (w :: (← readCondition fuel))
    | .sign s => do pure ([.text s false] :: (← readCondition fuel))
    | .redirection _ sign => do
      pure ([.text (if sign = .read then "<" else ">") false] :: (← readCondition fuel))
    | t => unexpected t none
termination_by structural fuel

/-- The cases of a selection, up to its end. -/
def readCases (fuel : Nat) : Reading (List (List Word × Command)) :=
  match fuel with
  | 0 => fault "Syntax error: script too long"
  | fuel + 1 => do
    let t ← readToken fuel true true
    if t.is "esac" then pure []
    else do
      let t ← if t.is "(" then readToken fuel false false else pure t
      let patterns ← readPatterns fuel t
      let body ← readList fuel 2
      let t ← readToken fuel true true
      if t.is "esac" then pure [(patterns, body)]
      else if t.is ";;" then do pure ((patterns, body) :: (← readCases fuel))
      else unexpected t (some "\x22;;\x22")
termination_by structural fuel

/-- The patterns of a case, the first of which is a token. -/
def readPatterns (fuel : Nat) (t : Token) : Reading (List Word) :=
  match fuel with
  | 0 => fault "Syntax error: script too long"
  | fuel + 1 => do
    let w ← match t with
      | .word w => pure w
      | .keyword s => pure [.text s false]
      | t => do
        if (← get).dialect = .extended then unexpected t (some "word") else pure []
    let next ← readToken fuel false false
    match next with
    | .sign "|" => do
      let t ← readToken fuel false false
      pure (w :: (← readPatterns fuel t))
    | next =>
      if next.is ")" then pure [w]
      else unexpected next (some "\x22)\x22")
termination_by structural fuel

/-- A simple command. `atStart` says whether there may be assignments. -/
def readSimple (fuel : Nat) (line : Nat) (atStart : Bool)
    (assignments : List (String × Bool × Word)) (words : List Word)
    (redirections : List Redirection) : Reading Command :=
  match fuel with
  | 0 => fault "Syntax error: script too long"
  | fuel + 1 => do
    let t ← readToken fuel false false
    match t with
    | .word w =>
      let dialect := (← get).dialect
      match if atStart then assignment? dialect w else none with
      | some a => readSimple fuel line true (assignments ++ [a]) words redirections
      | none => readSimple fuel line false assignments (words ++ [w]) redirections
    | .redirection stream sign => do
      let r ← readTarget fuel stream sign
      readSimple fuel line atStart assignments words (redirections ++ [r])
    | .sign "(" =>
      match words, assignments, redirections with
      | [w], [], [] => do
        let t ← readToken fuel false false
        if !t.is ")" then unexpected t (some "\x22)\x22")
        let name := w.bare?.getD ""
        if (!isName name || specialBuiltins.contains name) && (← get).dialect = .plain then
          fault "Syntax error: Bad function name"
        let next ← readToken fuel true true
        putBack next
        let body ← readCommand fuel
        pure (.definition line name body)
      | _, _, _ => do
        putBack t
        pure (.simple line assignments words redirections)
    | t => do
      putBack t
      pure (.simple line assignments words redirections)
termination_by structural fuel

end

/-- The commands of the next line with any, none if the script ends. `fuel` bounds the number of
lines. -/
def readLine : Nat → Reading (Option Command)
  | 0 => pure none
  | fuel + 1 => do
    let depth := 16 * ((← get).rest.length + 16)
    let t ← readToken depth false true
    match t with
    | .finish => pure none
    | .newline => readLine fuel
    | t => do
      putBack t
      pure (some (← readList depth 1))

end Reading

end RamlClient.Shell
