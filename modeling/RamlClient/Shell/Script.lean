/-!
# Scripts

A script is a command, and a command is made of others. Words are made of parts that are known only
when the command runs: the values of parameters, the output of commands, and numbers. A part that is
quoted is not cut into fields, and its characters have no special meaning in patterns.
-/

namespace RamlClient.Shell

/-- The shells that scripts are written for. -/
inductive Dialect where
  /-- The plain shell. -/
  | plain
  /-- The shell with extensions. -/
  | extended
deriving DecidableEq, Repr

/-- How a stream is redirected. -/
inductive RedirectionSign where
  /-- It reads from a file. -/
  | read
  /-- It writes to a file. -/
  | write
  /-- It writes to a file, even if an option keeps what is there. -/
  | overwrite
  /-- It writes to the end of a file. -/
  | append
  /-- It reads from and writes to a file. -/
  | readWrite
  /-- It is the same as another one that is read from. -/
  | sameInput
  /-- It is the same as another one that is written to. -/
  | sameOutput
  /-- It reads the lines that follow in the script; their tabs at the start may not count. -/
  | here (withoutTabs : Bool)
  /-- It reads a word. -/
  | hereWord
  /-- It writes to a file, and so do errors; it may write to the end of the file. -/
  | writeAll (atEnd : Bool)
deriving DecidableEq, Repr

mutual

/-- A part of a word. -/
inductive Part where
  /-- A text. -/
  | text (s : String) (quoted : Bool)
  /-- What is made of the value of a parameter. -/
  | parameter (name : String) (use : ParameterUse) (quoted : Bool)
  /-- The output of a command. -/
  | output (command : Command) (quoted : Bool)
  /-- The number that an expression stands for. -/
  | number (expression : List Part) (quoted : Bool)

/-- What is made of the value of a parameter. -/
inductive ParameterUse where
  /-- The value itself. -/
  | value
  /-- The length of the value. -/
  | size
  /-- What a sign says about a parameter that is not set, or also about one that is empty. -/
  | fallback (sign : Char) (whenEmpty : Bool) (word : List Part)
  /-- The value without the part at its start or end that fits a pattern. -/
  | trimmed (atEnd longest : Bool) (pattern : List Part)
  /-- The value with its first character, or with all, in upper or lower case. -/
  | recased (upper all : Bool) (pattern : List Part)
  /-- The value with what fits a pattern replaced, at the place that a mark says. -/
  | replaced (mark : Option Char) (pattern : List Part) (replacement : List Part)
  /-- The value from a place on, and up to a length. -/
  | slice (start : List Part) (length : Option (List Part))
  /-- The value of the parameter that the value names. -/
  | indirect
  /-- Nothing that makes sense. -/
  | senseless

/-- A redirection. -/
inductive Redirection where
  /-- The stream of a number is redirected to what a word says. -/
  | toWord (stream : Nat) (sign : RedirectionSign) (word : List Part)
  /-- The stream of a number reads the lines of a number. -/
  | lines (stream : Nat) (index : Nat)

/-- A command. -/
inductive Command where
  /-- Words, with assignments and redirections. -/
  | simple (line : Nat) (assignments : List (String × Bool × List Part)) (words : List (List Part))
      (redirections : List Redirection)
  /-- A command whose success counts as failure and the other way round. -/
  | negation (command : Command)
  /-- Commands each of which reads the output of the one before. -/
  | pipeline (commands : List Command)
  /-- Two commands, the second of which runs after success. -/
  | both (first second : Command)
  /-- Two commands, the second of which runs after failure. -/
  | either (first second : Command)
  /-- Commands one after another. -/
  | sequence (commands : List Command)
  /-- A command that nothing waits for. -/
  | background (command : Command)
  /-- A command that runs in a shell of its own. -/
  | subshell (line : Nat) (command : Command) (redirections : List Redirection)
  /-- A command with redirections. -/
  | redirected (line : Nat) (command : Command) (redirections : List Redirection)
  /-- A command that runs after the success of a test, and one that runs after its failure. -/
  | choice (test success : Command) (failure : Option Command)
  /-- A command that runs as long as a test succeeds, or until it does. -/
  | loop (untilSuccess : Bool) (test body : Command)
  /-- A command that runs for each of some words, or for each argument. -/
  | forEach (line : Nat) (name : String) (words : Option (List (List Part))) (body : Command)
  /-- The first command with a pattern that fits a word. -/
  | selection (line : Nat) (word : List Part) (cases : List (List (List Part) × Command))
  /-- A new function. -/
  | definition (line : Nat) (name : String) (body : Command)
  /-- A condition on words. -/
  | condition (line : Nat) (words : List (List Part))
  /-- A number that counts as success unless it is zero. -/
  | arithmetic (line : Nat) (expression : List Part)

end

/-- A word. -/
abbrev Word := List Part

/-- A command that does nothing. -/
def Command.nothing : Command := .sequence []

/-- The text of a word that is nothing but an unquoted text. -/
def Word.bare? : Word → Option String
  | [] => some ""
  | .text s false :: r => (bare? r).map (s ++ ·)
  | _ => none

end RamlClient.Shell
