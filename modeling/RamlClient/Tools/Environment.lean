import RamlClient.Tools.Places
/-!
# Running programs in other surroundings

Tools that run a program with other variables, in another way or for some time,
and a tool that waits.
-/

namespace RamlClient.Tools

open Text (ByteText)
open Shell
open Shell.Running
open ToolOption (flag setting)

/-- Runs a program in the place of a tool. `explain` makes the report if it cannot be started. -/
def handOver (r : Runner) (name : ByteText) (words : List ByteText)
    (explain : ByteText → ByteText) : Running Nat := do
  match ← r.program words with
  | .ok status => pure status
  | .error k => do
    report name (explain (words.head?.getD "") ++ ": " ++ k.wording)
    pure (if k = .absent then 127 else 126)

/-! ### Variables -/

/-- The variables that are handed on, as they are written. -/
def handedOn : Running (List (String × ByteText)) := do
  pure ((← own).vars.filterMap fun v =>
    if v.2.isExported then v.2.value.map fun s => (v.1, s) else none)

/-- An argument that sets a variable, with the name and the value. -/
def assignment? (s : ByteText) : Option (String × ByteText) :=
  match Text.cutAtChar '=' s.toList with
  | (name, some value) => some (String.ofList name, String.ofList value)
  | _ => none

/-- Runs a program with other variables, or writes them. -/
def env : Tool := fun r name args => do
  let known := [flag "i" "ignore-environment", flag "0" "null", setting "u" "unset",
    setting "C" "chdir", setting "S" "split-string", flag "v" "debug",
    ⟨"block-signal", "block-signal", .sometimes⟩, ⟨"default-signal", "default-signal", .sometimes⟩,
    ⟨"ignore-signal", "ignore-signal", .sometimes⟩, flag "list" "list-signal-handling"]
  withArguments known false 125 name args fun a => do
    let pieces := match a.value? "S" with
      | some s => ((Text.splitWhere (fun c => c = ' ' || c = '\t') s.toList).filter
          (!·.isEmpty)).map String.ofList
      | none => []
    let operands := pieces ++ a.operands
    let (clears, operands) := match operands with
      | "-" :: rest => (true, rest)
      | rest => (a.has "i", rest)
    if clears then change fun p => { p with vars := [] }
    let unset := a.options.filterMap fun o => if o.1 == "u" then some o.2 else none
    match unset.find? fun n => n = "" || n.toList.contains '=' with
    | some n => do
      report name ("cannot unset " ++ inCurlyQuotes n ++ ": Invalid argument")
      pure 125
    | none => do
      unset.forM dropVariable
      let assignments := (operands.map assignment?).takeWhile Option.isSome
      assignments.forM fun s => match s with
        | some (n, v) => putVariable n ⟨some v, true, false⟩
        | none => pure ()
      let words := operands.drop assignments.length
      match a.value? "C", words with
      | some _, [] => misuse name "must specify command with --chdir (-C)" 125
      | directory, words =>
        if a.has "0" && !words.isEmpty then
          misuse name "cannot specify --null (-0) with command" 125
        else do
          let moved : Except ByteText Unit ← match directory with
            | none => pure (.ok ())
            | some d => do
              match ← nodeAt true d with
              | .ok (place, .dir) => do
                change fun p => { p with dir := place }
                pure (.ok ())
              | .ok _ => pure (.error ("cannot change directory to " ++ inQuotes d ++
                  ": Not a directory"))
              | .error k => pure (.error ("cannot change directory to " ++ inQuotes d ++ ": " ++
                  k.wording))
          match moved, words with
          | .error text, _ => do
            report name text
            pure 125
          | .ok (), [] => do
            (← handedOn).forM fun v =>
              print (v.1 ++ "=" ++ v.2 ++ if a.has "0" then "\x00" else "\n")
            pure 0
          | .ok (), words => do
            let status ← handOver r name words inCurlyQuotes
            if status = 127 && (words.head?.getD "").toList.contains ' ' then
              report name "use -[v]S to pass options in shebang lines"
            pure status

/-- Writes the values of variables. -/
def printenv : Tool := fun _ name args => do
  withArguments [flag "0" "null"] false 2 name args fun a => do
    let vars ← handedOn
    let ending := if a.has "0" then "\x00" else "\n"
    if a.operands.isEmpty then do
      vars.forM fun v => print (v.1 ++ "=" ++ v.2 ++ ending)
      pure 0
    else do
      let found := a.operands.map fun n => vars.find? (·.1 == n)
      found.forM fun
        | some v => print (v.2 ++ ending)
        | none => pure ()
      pure (statusOf (found.all Option.isSome))

/-! ### Time -/

/-- What follows the digits at the start of characters, and whether there are some. -/
def afterDigits (cs : List Char) : Bool × List Char :=
  ((cs.head?).any Char.isDigit, cs.dropWhile Char.isDigit)

/-- Whether a text is a length of time: a number and perhaps the letter of a unit. -/
def isInterval (s : ByteText) : Bool :=
  let cs := match s.toList with
    | '+' :: cs => cs
    | cs => cs
  let (whole, r) := afterDigits cs
  let (broken, r) := match r with
    | '.' :: r => afterDigits r
    | r => (false, r)
  let r := match r with
    | 'e' :: rest =>
      let digits := match rest with
        | '+' :: ds => ds
        | '-' :: ds => ds
        | ds => ds
      match afterDigits digits with
      | (true, after) => after
      | _ => r
    | r => r
  let word := Text.lower (String.ofList cs)
  ((whole || broken) && [[], ['s'], ['m'], ['h'], ['d']].contains r) ||
    word == "inf" || word == "infinity"

/-- Waits. -/
def sleep : Tool := fun _ name args => do
  withArguments [] false 1 name args fun a => do
    match a.operands, a.operands.filter fun s => !isInterval s with
    | [], _ => misuse name "missing operand" 1
    | _, [] => pure 0
    | _, wrong => do
      wrong.forM fun s => report name ("invalid time interval " ++ inCurlyQuotes s)
      printError (tryHelp name)
      pure 1

end RamlClient.Tools
