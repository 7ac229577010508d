import RamlClient.Shell.Lookup
import RamlClient.Shell.Reader
import RamlClient.Shell.Variables
import RamlClient.Tools.Condition
import RamlClient.Tools.Printing
/-!
# Built-in commands

The other built-in commands end loops, functions and processes, run texts, wait for processes and
send them signals, change the working directory, tell what names mean, print, and test.
-/

namespace RamlClient.Shell.Builtin

open Text (ByteText)
open Running

/-! ### Ends -/

/-- Does nothing. -/
def nothing : Action := fun _ _ => pure 0

/-- Fails. -/
def failure : Action := fun _ _ => pure 1

/-- Ends the process. -/
def exit : Action := fun _ args => do
  match args with
  | [] => throw (.exit (← own).status)
  | a :: _ => throw (.exit ((← number a) % 256))

/-- Ends the function. -/
def return_ : Action := fun _ args => do
  match args with
  | [] => pure ()
  | a :: _ => do
    let n ← number a
    setStatus (if (← own).dialect = .plain then n else n % 256)
  throw .back

/-- Ends loops, or begins new rounds of them. -/
def leave (again : Bool) : Action := fun _ args => do
  let n ← match args with
    | [] => pure 1
    | a :: _ => number a
  if n = 0 then fail ("Illegal number: " ++ args.head?.getD "")
  let loops := (← own).loops
  if loops = 0 then pure 0
  else do
    setStatus 0
    throw (.leave (min n loops) again)

/-! ### Texts -/

/-- Runs its arguments. -/
def eval : Action := fun r args => do
  if args.isEmpty then pure 0
  else do
    r.source (Text.join " " args)
    pure (← own).status

/-- Runs the text of a file. -/
def dot : Action := fun r args => do
  match args with
  | [] => pure 0
  | name :: rest => do
    let dialect := (← own).dialect
    let path? : Option ByteText ← do
      if name.toList.contains '/' then pure (some name)
      else do
        let inDirectory (d : ByteText) : Running (Option ByteText) := do
          let path := if d = "" then name else d ++ "/" ++ name
          match ← readFile path with
          | .ok _ => pure (some path)
          | .error _ => pure none
        let found ← (← programDirectories).findSomeM? inDirectory
        match found, dialect with
        | none, .extended => pure (some name)
        | found, _ => pure found
    match path? with
    | none => fail (name ++ ": not found")
    | some path => do
      match ← readFile path with
      | .error k =>
        match dialect with
        | .plain =>
          let reason := match k with
            | .absent => "No such file"
            | .notDirectory => "No such file"
            | k => k.wording
          fail ("cannot open " ++ path ++ ": " ++ reason)
        | .extended => refuse (path ++ ": " ++ k.wording)
      | .ok text => do
        let p ← own
        if dialect = .extended && !rest.isEmpty then change fun q => { q with args := rest }
        change fun q => { q with command := none }
        try r.source text catch
          | .back => pure ()
          | i => throw i
        change fun q => { q with
          command := p.command
          args := if dialect = .extended && !rest.isEmpty then p.args else q.args }
        pure (← own).status

/-- Puts a program into the place of the process. -/
def exec : Action := fun r args => do
  match args with
  | [] => pure 0
  | name :: _ => do
    match ← r.program args with
    | .ok status => do
      change fun p => { p with traps := [] }
      throw (.exit status)
    | .error k => do
      match (← own).dialect with
      | .plain => complain (name ++ ": " ++ match k with
        | .absent => "not found"
        | .notDirectory => "not found"
        | k => k.wording)
      | .extended => complain (name ++ ": " ++ match k with
        | .absent => "not found"
        | k => k.wording)
      throw (.exit (if k = .absent || k = .notDirectory then 127 else 126))

/-! ### Signals -/

/-- The names of signals by which traps know them. -/
def trapName? (s : ByteText) : Option String :=
  match s.toNat? with
  | some n => if n ≤ 64 then some (signalName n) else none
  | none =>
    let name := Text.upper s
    if name = "EXIT" || signalNames.any (·.2 == name) then some name else none

/-- The name of a signal for traps, which may have its first letters. -/
def trapNameFor? (dialect : Dialect) (s : ByteText) : Option String :=
  match dialect with
  | .plain => trapName? s
  | .extended =>
    if ["ERR", "DEBUG", "RETURN"].contains (Text.upper s) then some (Text.upper s)
    else trapName?
      (if Text.startsWith (Text.upper s) "SIG" then String.ofList (s.toList.drop 3) else s)

/-- The number of a signal for the order of traps. -/
def trapPlace (name : String) : Nat := (signalOf? name).getD 0

/-- Sets what is run at the end of the process or after signals. -/
def trap : Action := fun _ args => do
  let dialect := (← own).dialect
  let args ← match args with
    | "--" :: r => pure r
    | a :: r =>
      match a.toList with
      | '-' :: c :: _ =>
        if dialect = .extended && (c = 'p' || c = 'l') then pure r
        else do
          discard (refuse ("Illegal option -" ++ String.ofList [c]))
          pure []
      | _ => pure (a :: r)
    | [] => pure []
  match args with
  | [] => do
    let ts := (← own).traps.mergeSort fun s t => trapPlace s.1 ≤ trapPlace t.1
    ts.forM fun t => print ("trap -- " ++ quoted t.2 ++ " " ++
      (if dialect = .extended && t.1 != "EXIT" then "SIG" else "") ++ t.1 ++ "\n")
    pure 0
  | a :: r => do
    let resets := r.isEmpty || (a.toNat?.isSome && (trapNameFor? dialect a).isSome)
    let action : Option ByteText := if resets || a = "-" then none else some a
    let names := if resets then a :: r else r
    let rec go : List ByteText → Running Nat
      | [] => pure 0
      | n :: rest => do
        match trapNameFor? dialect n with
        | none => do
          match dialect with
          | .plain => printError ("trap: " ++ n ++ ": bad trap\n")
          | .extended => complain (n ++ ": invalid signal specification")
          pure 1
        | some name => do
          change fun p => { p with traps :=
            let others := p.traps.filter (·.1 != name)
            match action with
            | some s => others ++ [(name, s)]
            | none => others }
          go rest
    go names

/-- Sends a signal to a process. -/
def sendSignal (process signal : Nat) : Running Unit :=
  modify fun s => { s with world := { s.world with
    signals := s.world.signals ++ [(process, signal)] } }

/-- The process that an argument means: a number, or one that nothing has waited for. -/
def processOf? (arg : ByteText) : Running (Option Nat) := do
  match arg.toList with
  | '%' :: cs =>
    let ended := (← own).ended
    match cs with
    | [] => pure (ended.getLast?.map (·.1))
    | ['%'] => pure (ended.getLast?.map (·.1))
    | ['+'] => pure (ended.getLast?.map (·.1))
    | cs => pure (((String.ofList cs).toNat?).bind fun n =>
        if n = 0 then none else (ended[n - 1]?).map (·.1))
  | _ => do pure (some (← number arg))

/-- Sends a signal to the processes of arguments. -/
def signalEach (signal : Nat) : List ByteText → Running Nat
  | [] => pure 0
  | a :: r => do
    match ← processOf? a with
    | none => refuse ("No such job: " ++ a)
    | some n => do
      let p ← own
      let isKnown := n = p.id || n = p.shellId || p.shellId = n + 1 || n = 1
      let status ←
        if isKnown then do
          if !isHarmless signal then sendSignal n signal
          pure 0
        else if !Text.startsWith a "%" && p.ended.any (·.1 == n) then do
          if signal != 0 then
            change fun q => { q with ended := q.ended.map fun e =>
              if e.1 == n then (n, -(Int.ofNat signal)) else e }
          pure 0
        else do
          match p.dialect with
          | .plain => complain "No such process\n"
          | .extended => complain ("(" ++ a ++ ") - No such process")
          pure 1
      let others ← signalEach signal r
      pure (max status others)

/-- How signals are sent. -/
def killUsage : Dialect → ByteText
  | .plain =>
    "Usage: kill [-s sigspec | -signum | -sigspec] [pid | job]... or\nkill -l [exitstatus]"
  | .extended =>
    "usage: kill [-s sigspec | -n signum | -sigspec] pid | jobspec ... or kill -l [sigspec]"

/-- The names of the signals in lists. -/
def listedSignals : List String :=
  (List.range 65).map fun n =>
    if n = 0 then "0"
    else if n = 16 || n = 32 || n = 33 then toString n
    else if n < 32 then signalName n
    else if n = 34 then "RTMIN"
    else if n = 64 then "RTMAX"
    else if n < 50 then "RTMIN+" ++ toString (n - 34)
    else "RTMAX-" ++ toString (64 - n)

/-- Sends signals to processes, or tells the names of signals. -/
def kill : Action := fun _ args => do
  let usage : Running Nat := do refuse (killUsage (← own).dialect)
  let send (signal : Nat) (rest : List ByteText) : Running Nat := do
    let rest := if rest.head? = some "--" then rest.tail else rest
    if rest.isEmpty then usage else signalEach signal rest
  match args with
  | [] => usage
  | "--" :: rest => send 15 rest
  | "-s" :: name :: rest =>
    match signalOf? name with
    | some n => send n rest
    | none => refuse ("invalid signal number or name: " ++ name)
  | ["-l"] => do
    print (Text.concat (listedSignals.map (· ++ "\n")))
    pure 0
  | "-l" :: code :: _ => do
    let n ← number code
    let signal := if 128 < n then n - 128 else n
    if 0 < signal && signal ≤ 64 then
      print ((listedSignals[signal]?).getD "" ++ "\n")
      pure 0
    else refuse ("invalid signal number or exit status: " ++ code)
  | a :: rest =>
    match a.toList with
    | '-' :: c :: cs =>
      let text := String.ofList (c :: cs)
      let isPlain := (← own).dialect = .plain
      match signalOf? text with
      | some n =>
        if isPlain && Text.startsWith (Text.upper text) "SIG" then
          refuse ("Illegal option -" ++ String.ofList [c])
        else send n rest
      | none =>
        if isPlain then refuse ("Illegal option -" ++ String.ofList [c])
        else refuse (text ++ ": invalid signal specification")
    | _ => send 15 (a :: rest)

/-- Waits for processes. -/
def wait : Action := fun _ args => do
  let rec go : List ByteText → Nat → Running Nat
    | [], status => pure status
    | a :: r, _ => do
      match ← processOf? a with
      | none => refuse ("No such job: " ++ a)
      | some n => do
        match (← own).ended.find? (·.1 == n) with
        | some e => do
          match e.2 with
          | .negSucc m => reportEnd (m + 1)
          | .ofNat _ => pure ()
          let status := statusOf e.2
          change fun p => { p with ended := p.ended.map fun e =>
            if e.1 == n then (n, Int.ofNat status) else e }
          go r status
        | none => do
          if (← own).dialect = .extended then
            complain ("pid " ++ a ++ " is not a child of this shell")
          go r 127
  go args 0

/-- Tells about processes that nothing has waited for, of which there are none. -/
def jobs : Action := fun _ args => do
  match args.find? fun a => !Text.startsWith a "-" with
  | some a => refuse ("No such job: " ++ a)
  | none => pure 0

/-- Goes on with a process, of which there is none. -/
def resume : Action := fun _ args => do
  match args with
  | [] => refuse "No current job"
  | a :: _ => refuse ("No such job: " ++ a)

/-! ### The working directory -/

/-- The names of a way without empty names and dots, where two dots take a name off. -/
def plainWay (names : List String) : List String :=
  names.foldl (fun way n =>
    if n = "" || n = "." then way else if n = ".." then way.dropLast else way ++ [n]) []

/-- The text of a way from the root. -/
def wayText (names : List String) : ByteText := "/" ++ Text.join "/" names

/-- Whether a path starts with exactly two slashes. -/
def hasTwoSlashes (path : ByteText) : Bool :=
  Text.startsWith path "//" && !Text.startsWith path "///"

/-- The path from the root that a path means in a directory, without dots. Two slashes at its start
stay. -/
def pathFrom (dir path : ByteText) : ByteText :=
  let fromRoot := Text.startsWith path "/"
  let whole := if fromRoot then path else dir ++ "/" ++ path
  (if hasTwoSlashes (if fromRoot then path else dir) then "/" else "") ++
    wayText (plainWay (FileTree.namesOf whole))

/-- Whether a path starts with a name that is neither one dot nor two. -/
def startsWithName (path : ByteText) : Bool :=
  match path.toList with
  | '/' :: _ => false
  | ['.'] => false
  | ['.', '.'] => false
  | '.' :: '/' :: _ => false
  | '.' :: '.' :: '/' :: _ => false
  | _ => true

/-- The directory of a name in the first of some directories that has it, and whether that is
another one than the working directory. -/
def directoryIn? (name : ByteText) : List ByteText → Running (Option (ByteText × Bool))
  | [] => pure none
  | d :: r => do
    let path := if d = "" then name else if d.toList.getLast? = some '/' then d ++ name
      else d ++ "/" ++ name
    match (← files).find true (Text.textOfBytes path) with
    | .ok (_, .dir) => pure (some (path, d != ""))
    | _ => directoryIn? name r

/-- Changes the working directory to a path. -/
def enter (physical : Bool) (path : ByteText) : Running (Except FaultKind Unit) := do
  let p ← own
  let logical := pathFrom p.shownDir path
  match (← files).find true (Text.textOfBytes (if physical then path else logical)) with
  | .ok (place, .dir) => do
    let shown := if physical then wayText (place.map Text.bytesOf) else logical
    change fun p => { p with dir := place, shownDir := shown }
    setVariable "OLDPWD" p.shownDir
    setVariable "PWD" shown
    pure (.ok ())
  | .ok _ => pure (.error .notDirectory)
  | .error k => pure (.error k)

/-- Changes the working directory. -/
def cd : Action := fun _ args => do
  withOptions ['L', 'P', 'e'] [] args fun os rest => do
    let dialect := (← own).dialect
    let home ← valueOf? "HOME"
    let old ← valueOf? "OLDPWD"
    let (wanted, shows) : Option ByteText × Bool := match rest with
      | [] => (home, false)
      | "-" :: _ => (old, true)
      | d :: _ => (some d, false)
    if dialect = .extended && 1 < rest.length then refuse "too many arguments"
    else if dialect = .extended && wanted.isNone then
      refuse ((if rest.isEmpty then "HOME" else "OLDPWD") ++ " not set")
    else
      let target := wanted.getD ""
      let found? ← match ← valueOf? "CDPATH" with
        | some list =>
          if startsWithName target then
            directoryIn? (if target = "" then "." else target) (Text.splitAtChar ':' list.toList
              |>.map String.ofList)
          else pure none
        | none => pure none
      let (path, foundElsewhere) := found?.getD (if target = "" then "." else target, false)
      match ← enter (hasLetter os 'P') path with
      | .ok () => do
        if shows || foundElsewhere then print ((← own).shownDir ++ "\n")
        pure 0
      | .error k =>
        match dialect with
        | .plain => refuse ("can\x27t cd to " ++ target)
        | .extended => refuse (target ++ ": " ++ k.wording)

/-- Prints the working directory. -/
def pwd : Action := fun _ args => do
  withOptions ['L', 'P'] [] args fun os _ => do
    let p ← own
    print ((if hasLetter os 'P' then wayText (p.dir.map Text.bytesOf) else p.shownDir) ++ "\n")
    pure 0

/-! ### Names -/

/-- The names of the built-in commands that are not special. -/
def regularNames : List String :=
  ["[", "alias", "bg", "cd", "chdir", "command", "echo", "false", "fg", "getopts", "hash", "jobs",
   "kill", "local", "printf", "pwd", "read", "test", "true", "type", "ulimit", "umask", "unalias",
   "wait"]

/-- The built-in commands that only the shell with extensions has. -/
def extendedNames : List String := ["source", "let", "declare", "typeset", "builtin", "shopt"]

/-- Tells what a name means. -/
def describe (verbose : Bool) (name : ByteText) : Running Nat := do
  let p ← own
  let isBuiltin := regularNames.contains name ||
    (p.dialect == .extended && extendedNames.contains name)
  let tell (short long : ByteText) : Running Nat := do
    print ((if verbose then name ++ long else short) ++ "\n")
    pure 0
  if (keywords p.dialect).contains name then tell name " is a shell keyword"
  else match p.aliases.find? (·.1 == name) with
  | some a => tell ("alias " ++ name ++ "=" ++ quoted a.2) (" is an alias for " ++ a.2)
  | none =>
    if p.functions.any (·.1 == name) then
      tell name (if p.dialect = .extended then " is a function" else " is a shell function")
    else if p.dialect = .plain && specialBuiltins.contains name then
      tell name " is a special shell builtin"
    else if isBuiltin || specialBuiltins.contains name then tell name " is a shell builtin"
    else match ← lookUp name with
    | .ok path =>
      tell path (" is" ++ (if p.dialect = .plain && p.tracked.contains name then
        " a tracked alias for" else "") ++ " " ++ path)
    | .error _ => do
      match p.dialect with
      | .plain => if verbose then print (name ++ ": not found\n")
      | .extended => if verbose then complain (name ++ ": not found")
      pure (if p.dialect = .plain then 127 else 1)

/-- Takes note that the place of a program is known. -/
def track (name : ByteText) : Running Unit :=
  change fun p => { p with tracked :=
    if name.toList.contains '/' || p.tracked.contains name then p.tracked else p.tracked ++ [name] }

/-- Tells what names mean. -/
def describeEach (verbose : Bool) : List ByteText → Running Nat
  | [] => pure 0
  | n :: r => do
    let status ← describe verbose n
    if verbose && (← lookUp n).isOk then track n
    let others ← describeEach verbose r
    pure (if status = 0 then others else status)

/-- Tells what names mean. -/
def type_ : Action := fun _ args => describeEach true args

/-- Tells what a name means. Without options, nothing is left to do. -/
def command : Action := fun _ args => do
  withOptions ['p', 'v', 'V'] [] args fun os rest => do
    if hasLetter os 'v' || hasLetter os 'V' then
      if (← own).dialect = .extended then describeEach (hasLetter os 'V') rest
      else match rest with
        | [] => pure 0
        | n :: _ => describeEach (hasLetter os 'V') [n]
    else pure 0

/-- Finds programs. -/
def hash : Action := fun _ args => do
  withOptions ['r', 'v'] [] args fun os rest => do
    if hasLetter os 'r' then
      change fun p => { p with tracked := [] }
      pure 0
    else if rest.isEmpty then do
      (← own).tracked.forM fun n => do
        match ← lookUp n with
        | .ok path => print (path ++ "\n")
        | .error _ => pure ()
      pure 0
    else
      let rec go : List ByteText → Running Nat
        | [] => pure 0
        | n :: r => do
          let isKnown := regularNames.contains n || specialBuiltins.contains n ||
            (← own).functions.any (·.1 == n)
          let status ← if isKnown then pure 0 else match ← lookUp n with
            | .ok _ => do
              track n
              pure 0
            | .error _ => do
              complain (n ++ ": not found")
              pure 1
          let others ← go r
          pure (max status others)
      go rest

/-- Sets names for texts, or tells about them. -/
def alias_ : Action := fun _ args => do
  let line (a : String × ByteText) : ByteText := a.1 ++ "=" ++ quoted a.2 ++ "\n"
  if args.isEmpty then do
    (← own).aliases.forM fun a => print (line a)
    pure 0
  else
    let rec go : List ByteText → Running Nat
      | [] => pure 0
      | a :: r => do
        let (name, value) := nameAndValue a
        let status ← match value with
          | some v => do
            change fun p => { p with aliases := p.aliases.filter (·.1 != name) ++ [(name, v)] }
            pure 0
          | none => do
            match (← own).aliases.find? (·.1 == name) with
            | some a => do
              print (line a)
              pure 0
            | none => do
              printError ("alias: " ++ name ++ " not found\n")
              pure 1
        let others ← go r
        pure (max status others)
    go args

/-- Takes names for texts away. -/
def unalias : Action := fun _ args => do
  withOptions ['a'] [] args fun os rest => do
    if hasLetter os 'a' then
      change fun p => { p with aliases := [] }
      pure 0
    else
      let rec go : List ByteText → Running Nat
        | [] => pure 0
        | n :: r => do
          let isThere := (← own).aliases.any (·.1 == n)
          if isThere then change fun p => { p with aliases := p.aliases.filter (·.1 != n) }
          else printError ("unalias: " ++ n ++ " not found\n")
          let others ← go r
          pure (if isThere then others else 1)
      go rest

/-! ### Limits -/

/-- A number in octal digits. -/
def octal (width n : Nat) : String :=
  let ds := Nat.toDigits 8 n
  String.ofList (List.replicate (width - ds.length) '0' ++ ds)

/-- What a mask permits, in letters. -/
def maskLetters (mask : Nat) : ByteText :=
  let letters (shift : Nat) : String :=
    let bits := (511 - mask) / shift % 8
    (if bits / 4 % 2 = 1 then "r" else "") ++ (if bits / 2 % 2 = 1 then "w" else "") ++
      (if bits % 2 = 1 then "x" else "")
  "u=" ++ letters 64 ++ ",g=" ++ letters 8 ++ ",o=" ++ letters 1

/-- A number of permissions after a change: a number in octal digits, or who gets or loses what. -/
def changedMode (mode : Nat) (change : List Char) : Option Nat :=
  if !change.isEmpty && change.all Reading.isOctalDigit then
    let n := Reading.numberOf 8 change
    if n < 4096 then some n else none
  else
    let clause (mode : Option Nat) (cs : List Char) : Option Nat := do
      let mode ← mode
      let who := cs.takeWhile fun c => ['u', 'g', 'o', 'a'].contains c
      let rest := cs.drop who.length
      let places := (if who.isEmpty || who.contains 'a' || who.contains 'u' then [64] else []) ++
        (if who.isEmpty || who.contains 'a' || who.contains 'g' then [8] else []) ++
        (if who.isEmpty || who.contains 'a' || who.contains 'o' then [1] else [])
      match rest with
      | sign :: letters =>
        if !(['+', '-', '='].contains sign) || !letters.all fun c =>
          ['r', 'w', 'x', 'X', 's', 't'].contains c
        then none
        else
          let bits := (if letters.contains 'r' then 4 else 0) +
            (if letters.contains 'w' then 2 else 0) +
            (if letters.contains 'x' || letters.contains 'X' then 1 else 0)
          some (places.foldl (fun m place =>
            let has := m / place % 8
            let new := if sign = '+' then has ||| bits
              else if sign = '-' then has - (has &&& bits) else bits
            m - has * place + new * place) mode)
      | [] => none
    (Text.splitAtChar ',' change).foldl clause (some mode)

/-- Tells or sets what new files do not permit. -/
def umask : Action := fun _ args => do
  withOptions ['S'] [] args fun os rest => do
    let p ← own
    match rest with
    | [] => do
      print ((if hasLetter os 'S' then maskLetters p.mask else octal 4 p.mask) ++ "\n")
      pure 0
    | a :: _ =>
      let cs := a.toList
      if (cs.head?.map Char.isDigit) == some true then
        if cs.all Reading.isOctalDigit then do
          change fun p => { p with mask := Reading.numberOf 8 cs % 512 }
          pure 0
        else refuse ("Illegal number: " ++ a)
      else
        match changedMode (511 - p.mask) cs with
        | some m => do
          change fun p => { p with mask := 511 - m % 512 }
          pure 0
        | none => refuse ("Illegal mode: " ++ a)

/-- Tells what processes may use. -/
def ulimit : Action := fun _ args => do
  withOptions ("HSatfdscmlpnvwr".toList) [] args fun _ rest => do
    if rest.isEmpty then print "unlimited\n"
    pure 0

/-- Tells how much time has passed. -/
def times : Action := fun _ _ => do
  print "0m0.000000s 0m0.000000s\n0m0.000000s 0m0.000000s\n"
  pure 0

/-! ### Printing and testing -/

/-- Prints its arguments. -/
def echo : Action := fun _ args => do
  print (Tools.echoText (.shell (← own).dialect) args)
  pure 0

/-- Prints its arguments as a format says. -/
def printf : Action := fun _ args => do
  let p ← own
  let (variableOf?, args) : Option ByteText × List ByteText := match p.dialect, args with
    | .extended, "-v" :: v :: r => (some v, r)
    | _, args => (none, args)
  let noOptions := args.head? = some "--"
  let args := if noOptions then args.tail else args
  match args with
  | [] =>
    match p.dialect with
    | .plain => fail "usage: printf format [arg ...]"
    | .extended => do
      printError "printf: usage: printf [-v var] format [arguments]\n"
      pure 2
  | a :: r => do
    match p.dialect, a.toList with
    | .plain, '-' :: c :: _ => if !noOptions then fail ("Illegal option -" ++ String.ofList [c])
    | _, _ => pure ()
    let printed := Tools.printFormat (.shell p.dialect) a r
    printed.reports.reverse.forM complain
    let text := String.ofList printed.text.reverse
    match variableOf? with
    | some v => do
      setVariable v text
      pure printed.status
    | none => do
      print text
      pure printed.status

/-- Tests whether a condition holds. -/
def test (name : ByteText) : Action := fun _ args => do
  let dialect := (← own).dialect
  let words? : Except ByteText (List ByteText) :=
    if name = "[" then
      if args.getLast? = some "]" then .ok args.dropLast
      else .error (match dialect with
        | .plain => "missing ]"
        | .extended => "missing \x60]\x27")
    else .ok args
  match words? with
  | .error report => do
    complain report
    pure 2
  | .ok words =>
    match Tools.Condition.shellHolds (← files) false words with
    | .ok b => pure (if b then 0 else 1)
    | .error report => do
      complain report
      pure 2

/-! ### The table -/

/-- The built-in commands of all shells. -/
def actions : List (String × Action) :=
  [(".", dot), (":", nothing), ("break", leave false), ("continue", leave true), ("eval", eval),
   ("exec", exec), ("exit", exit), ("export", export_), ("readonly", readonly), ("return", return_),
   ("set", set_), ("shift", shift), ("times", times), ("trap", trap), ("unset", unset),
   ("[", test "["), ("alias", alias_), ("bg", resume), ("cd", cd), ("chdir", cd),
   ("command", command), ("echo", echo), ("false", failure), ("fg", resume), ("getopts", getopts),
   ("hash", hash), ("jobs", jobs), ("kill", kill), ("local", local_), ("printf", printf),
   ("pwd", pwd), ("read", read), ("test", test "test"), ("true", nothing), ("type", type_),
   ("ulimit", ulimit), ("umask", umask), ("unalias", unalias), ("wait", wait)]

/-- The built-in command of a name. -/
def action? (dialect : Dialect) (name : String) : Option Action :=
  match actions.find? (·.1 == name) with
  | some a => some a.2
  | none =>
    if dialect = .extended && name = "source" then some dot else none

/-- Whether a built-in command is special: its failure ends the process, and assignments before it
last. -/
def isSpecial (dialect : Dialect) (name : String) : Bool :=
  dialect == .plain && specialBuiltins.contains name

end RamlClient.Shell.Builtin
