import RamlClient.Shell.Runner
import RamlClient.Tools.Quotation
/-!
# Options of tools

An option has a letter, a name or both, and may have a value. Options may stand after other
arguments unless the tool runs a command; two hyphens end them. The name of an option may be cut
short as long as it is clear which one is meant.
-/

namespace RamlClient.Tools

open Text (ByteText)
open Shell
open Shell.Running

/-- Whether an option has a value. -/
inductive OptionValue where
  /-- It has none. -/
  | never
  /-- It has one. -/
  | always
  /-- It may have one. -/
  | sometimes
deriving DecidableEq, Repr

/-- An option of a tool. -/
structure ToolOption where
  /-- What the tool calls it: its letter, or else its name. -/
  key : String
  /-- The name, or else an empty text. -/
  name : String
  /-- Whether it has a value. -/
  value : OptionValue
deriving DecidableEq, Repr

namespace ToolOption

/-- Options without values, by their letters. -/
def letters (s : String) : List ToolOption :=
  s.toList.map fun c => ⟨String.ofList [c], "", .never⟩

/-- Options with values, by their letters. -/
def valued (s : String) : List ToolOption :=
  s.toList.map fun c => ⟨String.ofList [c], "", .always⟩

/-- An option with a letter and a name. -/
def flag (key name : String) : ToolOption := ⟨key, name, .never⟩

/-- An option with a letter, a name and a value. -/
def setting (key name : String) : ToolOption := ⟨key, name, .always⟩

end ToolOption

/-- The options and the other arguments of a tool. -/
structure ToolArguments where
  /-- The options with their values. -/
  options : List (String × ByteText)
  /-- The other arguments. -/
  operands : List ByteText

namespace ToolArguments

/-- Whether an option is given. -/
def has (a : ToolArguments) (key : String) : Bool := a.options.any (·.1 == key)

/-- Whether one of some options is given. -/
def hasAny (a : ToolArguments) (keys : List String) : Bool := keys.any a.has

/-- The last value of an option. -/
def value? (a : ToolArguments) (key : String) : Option ByteText :=
  (a.options.reverse.find? (·.1 == key)).map (·.2)

/-- The option that is given last of some options. -/
def last? (a : ToolArguments) (keys : List String) : Option String :=
  (a.options.reverse.find? fun o => keys.contains o.1).map (·.1)

/-- One more option. -/
def add (a : ToolArguments) (key : String) (value : ByteText) : ToolArguments :=
  { a with options := (key, value) :: a.options }

/-- One more argument. -/
def push (a : ToolArguments) (operand : ByteText) : ToolArguments :=
  { a with operands := operand :: a.operands }

end ToolArguments

/-- The option that a name means, or why there is none. -/
def optionNamed (known : List ToolOption) (name : ByteText) : Except ByteText ToolOption :=
  let shown := "--" ++ name
  match known.find? fun o => o.name == name && name != "" with
  | some o => .ok o
  | none =>
    match known.filter fun o => o.name != "" && Text.startsWith o.name name with
    | [] => .error ("unrecognized option '" ++ shown ++ "'")
    | [o] => .ok o
    | o :: os =>
      if os.all fun p => p.key == o.key && p.value == o.value then .ok o
      else .error ("option '" ++ shown ++ "' is ambiguous; possibilities:" ++
        Text.concat ((o :: os).map fun p => " '--" ++ p.name ++ "'"))

/-- The options and the other arguments of a tool. `mixes` says whether options may stand after
other arguments. -/
def readToolArguments (known : List ToolOption) (mixes : Bool) :
    List ByteText → Except ByteText ToolArguments
  | [] => .ok ⟨[], []⟩
  | a :: r =>
    match a.toList with
    | ['-', '-'] => .ok ⟨[], r⟩
    | '-' :: '-' :: cs =>
      let (name, value) := Text.cutAtChar '=' cs
      match optionNamed known (String.ofList name) with
      | .error e => .error e
      | .ok o =>
        match o.value, value with
        | .never, some _ => .error ("option '--" ++ o.name ++ "' doesn't allow an argument")
        | .never, none => (readToolArguments known mixes r).map (·.add o.key "")
        | _, some v => (readToolArguments known mixes r).map (·.add o.key (String.ofList v))
        | .sometimes, none => (readToolArguments known mixes r).map (·.add o.key "")
        | .always, none =>
          match r with
          | v :: r => (readToolArguments known mixes r).map (·.add o.key v)
          | [] => .error ("option '--" ++ o.name ++ "' requires an argument")
    | '-' :: c :: cs =>
      let rec letters : List Char → Except ByteText (List (String × Option ByteText))
        | [] => .ok []
        | d :: ds =>
          let key := String.ofList [d]
          match known.find? (·.key == key) with
          | none => .error ("invalid option -- '" ++ key ++ "'")
          | some o =>
            match o.value with
            | .never => (letters ds).map ((key, some "") :: ·)
            | .sometimes => .ok [(key, some (String.ofList ds))]
            | .always => .ok [(key, if ds.isEmpty then none else some (String.ofList ds))]
      match letters (c :: cs) with
      | .error e => .error e
      | .ok os =>
        let given := os.filterMap fun o => o.2.map fun v => (o.1, v)
        match os.find? (·.2.isNone), r with
        | some o, v :: r =>
          (readToolArguments known mixes r).map fun s =>
            { s with options := given ++ (o.1, v) :: s.options }
        | some o, [] => .error ("option requires an argument -- '" ++ o.1 ++ "'")
        | none, r =>
          (readToolArguments known mixes r).map fun s => { s with options := given ++ s.options }
    | _ =>
      if mixes then (readToolArguments known mixes r).map (·.push a)
      else .ok ⟨[], a :: r⟩

/-- Writes a report of a tool. -/
def report (name text : ByteText) : Running Unit := printError (name ++ ": " ++ text ++ "\n")

/-- The line after a wrong use of a tool. -/
def tryHelp (name : ByteText) : ByteText := "Try '" ++ name ++ " --help' for more information.\n"

/-- Tells that a tool is used in a wrong way. -/
def misuse (name text : ByteText) (status : Nat) : Running Nat := do
  printError (name ++ ": " ++ text ++ "\n" ++ tryHelp name)
  pure status

/-- Runs a tool with its options and its other arguments. -/
def withArguments (known : List ToolOption) (mixes : Bool) (status : Nat) (name : ByteText)
    (args : List ByteText) (use : ToolArguments → Running Nat) : Running Nat := do
  let known := known ++ [.flag "help" "help", .flag "version" "version"]
  match readToolArguments known mixes args with
  | .error e => misuse name e status
  | .ok a =>
    if a.hasAny ["help", "version"] then pure 0 else use a

/-- The number that digits write. -/
def digits? (s : ByteText) : Option Nat :=
  let cs := s.toList
  if !cs.isEmpty && cs.all Char.isDigit then some (Reading.numberOf 10 cs) else none

/-! ### Lines -/

/-- The lines of a text, with their ends. -/
def linesOf (s : ByteText) : List ByteText :=
  let rec go : List Char → List Char → List ByteText
    | [], line => if line.isEmpty then [] else [String.ofList line.reverse]
    | c :: r, line =>
      if c = '\n' then String.ofList ('\n' :: line).reverse :: go r [] else go r (c :: line)
  go s.toList []

/-- A line without its end. -/
def withoutEnd (line : ByteText) : ByteText :=
  if Text.endsWith line "\n" then String.ofList line.toList.dropLast else line

/-- The text of an input: the standard input, or a file. -/
def readInput (name : ByteText) : Running (Except FaultKind ByteText) :=
  if name = "-" then readAll 0 else readFile name

/-- The exit code of success or of failure. -/
def statusOf (ok : Bool) : Nat := if ok then 0 else 1

end RamlClient.Tools
