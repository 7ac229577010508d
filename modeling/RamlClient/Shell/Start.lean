import RamlClient.Shell.Evaluation
/-!
# The shell as a program

The shell runs the text of an option, the script at a path, or what it reads. It begins with the
variables that are handed on to it, and nothing else of what the process was before.
-/

namespace RamlClient.Shell

open Text (ByteText)
open Running

namespace Start

/-- How a shell is asked to run. -/
structure Request where
  /-- Whether the script is the first argument. -/
  givesText : Bool
  /-- Whether the script is read from the standard input. -/
  readsInput : Bool
  /-- The letters of the options. -/
  letters : List Char
  /-- The other arguments. -/
  args : List ByteText

/-- The options that are known by their names alone. -/
def ignoredOptions : List ByteText :=
  ["--noprofile", "--norc", "--posix", "--login", "--verbose", "--noediting", "--restricted"]

/-- The letters of options at the start of arguments and what follows them, or a report. -/
def readOptions (dialect : Dialect) (s : Request) : List ByteText → Except ByteText Request
  | [] => .ok { s with args := [] }
  | a :: r =>
    match a.toList with
    | ['-', '-'] => .ok { s with args := r }
    | ['-'] => .ok { s with args := r }
    | sign :: c :: cs =>
      if sign != '-' && sign != '+' then .ok { s with args := a :: r }
      else if dialect = .extended && ignoredOptions.contains a then readOptions dialect s r
      else
        let letters := c :: cs
        let known := Builtin.shellOptions.map (·.2) ++ ['c', 'l', 'o'] ++
          (if dialect = .extended then ['h', 'k', 't', 'B', 'E', 'H', 'P', 'T', 'O', 'r'] else [])
        match letters.find? fun d => !known.contains d with
        | some d =>
          .error (match dialect with
            | .plain => "0: Illegal option " ++ String.ofList [sign, d]
            | .extended => a ++ ": invalid option")
        | none =>
          let changed := letters.filter fun d => !(['c', 'l', 's', 'o', 'i', 'm'].contains d)
          let s := { s with
            givesText := s.givesText || letters.contains 'c'
            readsInput := s.readsInput || letters.contains 's'
            letters := if sign = '-' then s.letters ++ changed
              else s.letters.filter fun d => !changed.contains d }
          if letters.contains 'o' then
            match r with
            | name :: rest =>
              match Builtin.shellOptions.find? (·.1 == name) with
              | some o => readOptions dialect { s with letters := s.letters ++ [o.2] } rest
              | none =>
                if name = "pipefail" && dialect = .extended then readOptions dialect s rest
                else .error (match dialect with
                  | .plain => "0: Illegal option -o " ++ name
                  | .extended => name ++ ": invalid option name")
            | [] => .ok { s with args := [] }
          else readOptions dialect s r
    | _ => .ok { s with args := a :: r }

/-- The variables that a shell begins with, besides those that are handed on to it. -/
def ownVariables : List (String × ByteText) :=
  [("IFS", " \t\n"), ("OPTIND", "1"), ("PS1", "# "), ("PS2", "> "), ("PS4", "+ ")]

/-- Makes the process a shell. -/
def begin_ (dialect : Dialect) (name : ByteText) (letters : List Char) (args : List ByteText) :
    Running Unit := do
  change fun p =>
    let shared := p.vars.filter fun v => v.2.isExported && v.2.value.isSome
    let handed := shared.filter fun v => v.1 != "IFS" && v.1 != "OPTIND" && Reading.isName v.1
    let added := ownVariables.filter fun v => !handed.any (·.1 == v.1)
    let vars := handed.map (fun v => (v.1, { v.2 with isConstant := false })) ++
      added.map fun v => (v.1, ⟨some v.2, false, false⟩)
    { p with
      shellId := p.id
      dialect
      name
      args
      vars
      functions := []
      status := 0
      traps := p.traps.filter (·.2 == "")
      options := (Builtin.shellOptions.map (·.2)).filter letters.contains
      lastBackground := none
      ended := []
      line := 0
      command := none
      texts := #[]
      frames := []
      loops := 0
      decides := false
      optionPlace := 0
      lineBefore := 0
      substituted := 0
      shownDir := Builtin.wayText (p.dir.map Text.bytesOf)
      aliases := []
      tracked := []
      unprinted := none
      replaces := false }
  let p ← own
  let exported := ((← variableOf? "PWD").map (·.isExported)).getD false
  putVariable "PWD" ⟨some p.shownDir, exported, false⟩

/-- The report about a script that cannot be read, and the exit code. -/
def openReport (dialect : Dialect) (path : ByteText) (k : FaultKind) : ByteText × Nat :=
  match dialect with
  | .plain =>
    ("0: cannot open " ++ path ++ ": " ++ (match k with
      | .absent => "No such file"
      | .notDirectory => "No such file"
      | k => k.wording), 2)
  | .extended =>
    if k = .isDirectory then (path ++ ": Is a directory", 126)
    else (path ++ ": " ++ k.wording, if k = .absent then 127 else 126)

/-- Runs a shell. -/
def shell (dialect : Dialect) : Tool := fun r name args => do
  let report (text : ByteText) (status : Nat) : Running Nat := do
    printError (name ++ ": " ++ text ++ "\n")
    pure status
  let run (name : ByteText) (letters : List Char) (args : List ByteText) (text : ByteText) :
      Running Nat := do
    begin_ dialect name letters args
    Evaluation.toTheEnd r (r.source text)
    pure (← own).status
  match readOptions dialect ⟨false, false, [], []⟩ args with
  | .error text => report text 2
  | .ok s =>
    if s.givesText then
      match s.args with
      | [] =>
        report (match dialect with
          | .plain => "0: -c requires an argument"
          | .extended => "-c: option requires an argument") 2
      | [text] => run name s.letters [] text
      | text :: shown :: rest => run shown s.letters rest text
    else
      match s.args, s.readsInput with
      | path :: rest, false =>
        match dialect, ← readFile path with
        | .plain, .error .isDirectory => run path s.letters rest ""
        | .extended, .error .isDirectory =>
          report (path ++ ": Is a directory") 126
        | _, .ok text => run path s.letters rest text
        | dialect, .error k =>
          let (text, status) := openReport dialect path k
          report text status
      | args, _ =>
        match ← readAll 0 with
        | .ok text => run name s.letters args text
        | .error _ => pure 0

end Start

end RamlClient.Shell
