import RamlClient.Shell.Control
import RamlClient.Shell.Redirecting
/-!
# Running commands

What the parts of a command do is left to a runner; so each command needs only one step of its own.
A runner that is made of another one this way can run commands that are nested one level deeper.
-/

namespace RamlClient.Shell

open Text (ByteText)
open Running

namespace Evaluation

/-- Runs steps, and other ones in any case after them. -/
def andThen {α : Type} (steps : Running α) (last : Running Unit) : Running α := do
  let a ← try steps catch i => do
    last
    throw i
  last
  pure a

/-- Runs steps whose exit code decides something. -/
def deciding {α : Type} (decides : Bool) (steps : Running α) : Running α := do
  let before := (← own).decides
  change fun p => { p with decides := decides || before }
  andThen steps (change fun p => { p with decides := before })

/-- The process ends if a command that decides nothing has failed and an option says so. -/
def checkFailure : Running Unit := do
  let p ← own
  if p.status != 0 && !p.decides && p.options.contains 'e' then throw (.exit p.status)

/-- Runs the action of a trap and keeps the exit code. -/
def runTrap (r : Runner) (action : ByteText) : Running Unit := do
  let p ← own
  change fun q => { q with command := none }
  r.source action
  change fun q => { q with status := p.status, command := p.command }

/-- Takes the signals that the process has got. -/
def takeSignals (r : Runner) : Running Unit := do
  let s ← get
  if s.world.signals.isEmpty then pure ()
  else
    let (mine, others) := s.world.signals.partition (·.1 == s.own.id)
    modify fun s => { s with world := { s.world with signals := others } }
    mine.forM fun m => do
      match (← own).traps.find? (·.1 == signalName m.2) with
      | some t =>
        if m.2 = 9 || m.2 = 19 then throw (.killed m.1 m.2)
        else if t.2 != "" then runTrap r t.2
      | none => if !isHarmless m.2 then throw (.killed m.1 m.2)

/-- Runs steps to the end of the process, with what is run at the end. -/
def toTheEnd (r : Runner) (steps : Running Unit) : Running Unit := do
  let status ←
    try
      steps
      pure (← own).status
    catch
      | .exit n => pure n
      | .failed n => pure n
      | .back => do pure (← own).status
      | .leave _ _ => do pure (← own).status
      | i => throw i
  setStatus status
  match (← own).traps.find? (·.1 == "EXIT") with
  | none => pure ()
  | some t => do
    change fun p => { p with
      traps := p.traps.filter (·.1 != "EXIT"), command := none, loops := 0, decides := false }
    try r.source t.2 catch
      | .exit n => throw (.exit n)
      | .failed n => throw (.exit n)
      | .back => pure ()
      | .leave _ _ => pure ()
      | i => throw i
    setStatus status

/-- Runs a process that begins as a copy of this one, and tells about its end by a signal. The
result is its exit code. -/
def inProcess (r : Runner) (steps : Running Unit) : Running Nat := do
  let code ← fork (toTheEnd r steps)
  match code with
  | .ofNat n => pure (n % 256)
  | .negSucc n => do
    let signal := n + 1
    reportEnd signal
    pure (128 + signal)

/-- What a command writes to the standard output. -/
def outputOfCommand (r : Runner) (c : Command) : Running ByteText := do
  let index ← openStream ⟨.memory "", 0, true, true⟩
  let status ← inProcess r do
    assignStream 1 index
    change fun p => { p with decides := false, command := none }
    r.command c
  change fun p => { p with substituted := status }
  takeSignals r
  match (← get).world.streams[index]? with
  | some ⟨.memory content, _, _, _⟩ => pure content
  | _ => pure ""

/-! ### Simple commands -/

/-- What a name of a command means. -/
inductive Meaning where
  /-- A function with a line and a body. -/
  | function (line : Nat) (body : Command)
  /-- A built-in command. -/
  | builtin (action : Builtin.Action) (isSpecial : Bool)
  /-- A program. -/
  | program

/-- What a name means; functions may not count. -/
def meaningOf (functions : Bool) (name : String) : Running Meaning := do
  let p ← own
  match if functions then p.functions.find? (·.1 == name) else none with
  | some (_, .definition line _ body) => pure (.function line body)
  | some (_, body) => pure (.function 1 body)
  | none =>
    match Builtin.action? p.dialect name with
    | some a => pure (.builtin a (Builtin.isSpecial p.dialect name))
    | none => pure .program

/-- The words of a command after words that only say what the next one means. The result also says
whether there were such words. -/
def afterCommandWords : List ByteText → Option (List ByteText)
  | "command" :: "-p" :: r => if r.isEmpty then none else some r
  | "command" :: "--" :: r => if r.isEmpty then none else some r
  | "command" :: a :: r => if Text.startsWith a "-" then none else some (a :: r)
  | "builtin" :: a :: r => if Text.startsWith a "-" then none else some (a :: r)
  | _ => none

/-- The built-in commands whose arguments may be assignments. -/
def declarers : List String := ["export", "readonly", "local", "alias", "declare", "typeset"]

/-- The texts of the words of a command. Assignments among the arguments of some commands stay one
field. -/
def wordTexts (output : Command → Running ByteText) : Bool → List Word → Running (List ByteText)
  | _, [] => pure []
  | declares, w :: r => do
    match if declares then Reading.assignment? .plain w else none with
    | some (name, _, value) => do
      let text ← Expansion.assignedText output value
      pure ((name ++ "=" ++ text) :: (← wordTexts output declares r))
    | none => do
      let first ← Expansion.fields output w
      let declares := declares || (first.head?.any declarers.contains)
      pure (first ++ (← wordTexts output declares r))

/-- The value of an assignment. -/
def assignedValue (output : Command → Running ByteText) (a : String × Bool × Word) :
    Running ByteText := do
  let text ← Expansion.assignedText output a.2.2
  if a.2.1 then pure ((← valueOf? a.1).getD "" ++ text) else pure text

/-- Performs assignments. -/
def assignAll (output : Command → Running ByteText) (exports : Bool) :
    List (String × Bool × Word) → Running (List ByteText)
  | [] => pure []
  | a :: r => do
    let value ← assignedValue output a
    setVariable a.1 value
    if exports then Builtin.changeVariable a.1 fun v => { v with isExported := true }
    let rest ← assignAll output exports r
    pure ((a.1 ++ "=" ++ value) :: rest)

/-- Gives variables the values back that they had before. -/
def restoreVariables (names : List String) (vars : List (String × Variable)) : Running Unit :=
  names.forM fun n =>
    match vars.find? (·.1 == n) with
    | some v => putVariable n v.2
    | none => dropVariable n

/-- Shows a command if an option says so. -/
def showCommand (index : Option Nat) (words : List ByteText) : Running Unit := do
  if ← hasOption 'x' then
    let start := (← valueOf? "PS4").getD "+ "
    match index with
    | none => pure ()
    | some i => do
      let streams := (← own).streams
      assignStream 2 i
      printError (start ++ Text.join " " words ++ "\n")
      change fun p => { p with streams }

/-- Runs a function. -/
def callFunction (r : Runner) (line : Nat) (body : Command) (args : List ByteText) :
    Running Unit := do
  let p ← own
  change fun q => { q with
    args, loops := 0, frames := [] :: q.frames, lineBefore := line - 1, optionPlace := 0 }
  let finish : Running Unit := do
    match (← own).frames with
    | frame :: _ => frame.forM fun e =>
      match e.2 with
      | some v => putVariable e.1 v
      | none => dropVariable e.1
    | [] => pure ()
    change fun q => { q with
      args := p.args, loops := p.loops, frames := p.frames, lineBefore := p.lineBefore,
      optionPlace := p.optionPlace }
  andThen (try r.command body catch
    | .back => pure ()
    | i => throw i) finish

/-- Runs a built-in command. -/
def runBuiltin (r : Runner) (action : Builtin.Action) (isSpecial : Bool) (words : List ByteText) :
    Running Nat := do
  let before := (← own).command
  change fun p => { p with command := words.head? }
  let restore := change fun p => { p with command := before }
  andThen (do
    let (status, fault) ← withPrintFault (try action r words.tail catch
      | .failed n => if isSpecial then throw (.failed n) else pure n
      | i => throw i)
    match fault with
    | none => pure status
    | some k => do
      change fun p => { p with command := words.head? }
      match (← own).dialect with
      | .plain => complain (words.head?.getD "" ++ ": I/O error")
      | .extended => complain ("write error: " ++ k.wording)
      pure (status ||| 1)) restore

/-- The report about a program that cannot be started, and the exit code. -/
def startReport (dialect : Dialect) (name : ByteText) (k : FaultKind) : ByteText × Nat :=
  match dialect with
  | .plain =>
    if k = .absent || k = .notDirectory then (name ++ ": not found", 127)
    else (name ++ ": " ++ k.wording, 126)
  | .extended =>
    if k = .absent then
      (name ++ if name.toList.contains '/' then ": No such file or directory"
        else ": command not found", 127)
    else (name ++ ": " ++ k.wording, 126)

/-- Runs a program in a process of its own, or in the place of the process. -/
def runProgram (r : Runner) (replaces : Bool) (words : List ByteText) : Running Nat := do
  let name := words.head?.getD ""
  let dialect := (← own).dialect
  let found ← if name.toList.contains '/' then pure (.ok name) else lookUp name
  match found with
  | .error k => do
    let k := if k = .absent || k = .notDirectory then .absent else k
    let (report, status) := startReport dialect name k
    complain report
    pure (if name = "" then 127 else status)
  | .ok _ => do
    Builtin.track name
    (if replaces then fun steps => do steps; pure (← own).status else inProcess r) do
      match ← r.program words with
      | .ok status => do
        change fun p => { p with traps := [] }
        throw (.exit status)
      | .error k => do
        let k := match k, (← files).find true (Text.textOfBytes name) with
          | .denied, .ok (_, .dir) => if dialect = .extended then .isDirectory else .denied
          | k, _ => k
        let (report, status) := startReport dialect name k
        complain report
        change fun p => { p with traps := [] }
        throw (.exit status)

/-- Whether a command is a simple one. -/
def isSimple : Command → Bool
  | .simple _ _ _ _ => true
  | _ => false

/-- Runs a simple command. -/
def simpleCommand (r : Runner) (line : Nat) (assignments : List (String × Bool × Word))
    (words : List Word) (redirections : List Redirection) : Running Unit := do
  let output := outputOfCommand r
  let replaces := (← own).replaces
  change fun p => { p with line := line - p.lineBefore, substituted := 0, replaces := false }
  let words ← wordTexts output false words
  let errors := (← streamAt? 2).map (·.1)
  let before := (← own).streams
  let restoreStreams := change fun p => { p with streams := before }
  let (functions, words) := match afterCommandWords words with
    | some rest =>
      match afterCommandWords rest with
      | some rest' => (false, rest')
      | none => (false, rest)
    | none => (true, words)
  let name := words.head?.getD ""
  let isFunction := functions && (← own).functions.any (·.1 == "command") && name = "command"
  let meaning ← if words.isEmpty then pure (.builtin Builtin.nothing true)
    else meaningOf (functions || isFunction) name
  let isSpecial := functions && match meaning with
    | .builtin _ special => special
    | _ => false
  let isExec := name = "exec" && match meaning with
    | .builtin _ _ => true
    | _ => false
  let keepsStreams := isExec && words.length = 1
  let failed ← try Redirection.redirect output redirections catch i => do
    restoreStreams
    throw i
  if failed != 0 then do
    restoreStreams
    setStatus failed
    if isSpecial && !words.isEmpty then throw (.failed failed)
  else
    let lasts := isSpecial || words.isEmpty
    let names := assignments.map (·.1)
    let vars := (← own).vars.filter fun v => names.contains v.1
    let restoreVars := if lasts then pure () else restoreVariables names vars
    let restore := do
      if !keepsStreams then restoreStreams
      restoreVars
    andThen (do
      let shown ← assignAll output (!lasts || (isExec && !keepsStreams)) assignments
      if !(shown.isEmpty && words.isEmpty) then showCommand errors (shown ++ words)
      if words.isEmpty then do setStatus (← own).substituted
      else match meaning with
        | .function line body => callFunction r line body words.tail
        | .builtin action _ => do setStatus (← runBuiltin r action isSpecial words)
        | .program => do setStatus (← runProgram r replaces words)) restore
  takeSignals r
  checkFailure

/-! ### Commands of commands -/

/-- The largest number of rounds of a loop. -/
def maxRounds : Nat := 200000

/-- Runs steps in a round of a loop. Without a result, the loop ends or begins a new round. -/
def inRound {α : Type} (steps : Running α) : Running (Except Bool α) := do
  try
    pure (.ok (← steps))
  catch
    | .leave n again =>
      if 1 < n then throw (.leave (n - 1) again) else pure (.error again)
    | i => throw i

/-- Runs rounds of a loop with a test; `last` is the exit code of the last round. -/
def loopRounds (r : Runner) (untilSuccess : Bool) (test body : Command) : Nat → Nat → Running Unit
  | 0, _ => throw .lost
  | n + 1, last => do
    let holds ← inRound do
      deciding true (r.command test)
      pure ((← own).status == 0)
    match holds with
    | .error true => loopRounds r untilSuccess test body n last
    | .error false => setStatus last
    | .ok holds =>
      if holds = untilSuccess then setStatus last
      else
        match ← inRound (r.command body) with
        | .error false => pure ()
        | _ => loopRounds r untilSuccess test body n (← own).status

/-- Runs a loop. -/
def inLoop (steps : Running Unit) : Running Unit := do
  change fun p => { p with loops := p.loops + 1 }
  andThen steps (change fun p => { p with loops := p.loops - 1 })

/-- Runs commands that read each other's output. The result is the exit code of the last one. -/
def pipes (r : Runner) : Option Nat → List Command → Running Nat
  | _, [] => pure 0
  | input, [c] => inProcess r do
    match input with
    | some i => assignStream 0 i
    | none => pure ()
    r.command c
  | input, c :: rest => do
    let index ← openStream ⟨.memory "", 0, true, true⟩
    discard (inProcess r do
      match input with
      | some i => assignStream 0 i
      | none => pure ()
      assignStream 1 index
      r.command c)
    let content := match (← get).world.streams[index]? with
      | some ⟨.memory content, _, _, _⟩ => content
      | _ => ""
    let next ← openStream ⟨.memory content, 0, false, false⟩
    pipes r (some next) rest

/-- The first case with a pattern that fits a text. -/
def findCase (output : Command → Running ByteText) (text : ByteText) :
    List (List Word × Command) → Running (Option Command)
  | [] => pure none
  | (patterns, c) :: rest => do
    if ← patterns.anyM fun w => do pure ((← Expansion.pattern output w).fits text.toList) then
      pure (some c)
    else findCase output text rest

/-- Runs the body of a loop for each of some words. -/
def forWords (body : ByteText → Running Unit) : List ByteText → Running Unit
  | [] => pure ()
  | w :: r => do
    match ← inRound (body w) with
    | .error false => pure ()
    | _ => forWords body r

/-! ### Conditions -/

/-- A condition on two words. -/
def compare (output : Command → Running ByteText) (w operator : Word) (rest : List Word) :
    Running (Bool × List Word) := do
  match rest with
  | [] => fail "conditional binary operator expected"
  | v :: rest => do
    let left ← Expansion.text output w
    let sign := operator.bare?.getD ""
    let right ← Expansion.text output v
    let fits ← do pure ((← Expansion.pattern output v).fits left.toList)
    if sign = "==" || sign = "=" then pure (fits, rest)
    else if sign = "!=" then pure (!fits, rest)
    else if sign = "<" then pure (left < right, rest)
    else if sign = ">" then pure (right < left, rest)
    else if sign = "-nt" || sign = "-ot" then
      pure (Tools.Condition.textsHold (← files) sign left right, rest)
    else match Tools.Condition.shellHolds (← files) false [left, sign, right] with
      | .ok b => pure (b, rest)
      | .error e => fail e

mutual

/-- A condition on words, one of whose parts has to hold, and the words after it. -/
def conditionAny (output : Command → Running ByteText) (fuel : Nat) (words : List Word) :
    Running (Bool × List Word) :=
  match fuel with
  | 0 => throw .lost
  | fuel + 1 => do
    let (b, rest) ← conditionAll output fuel words
    match rest with
    | w :: rest' =>
      if w.bare? = some "||" then do
        let (c, rest) ← conditionAny output fuel rest'
        pure (b || c, rest)
      else pure (b, rest)
    | [] => pure (b, [])
termination_by structural fuel

/-- A condition on words, all of whose parts have to hold, and the words after it. -/
def conditionAll (output : Command → Running ByteText) (fuel : Nat) (words : List Word) :
    Running (Bool × List Word) :=
  match fuel with
  | 0 => throw .lost
  | fuel + 1 => do
    let (b, rest) ← conditionOne output fuel words
    match rest with
    | w :: rest' =>
      if w.bare? = some "&&" then do
        let (c, rest) ← conditionAll output fuel rest'
        pure (b && c, rest)
      else pure (b, rest)
    | [] => pure (b, [])
termination_by structural fuel

/-- A condition on words that is no conjunction, and the words after it. -/
def conditionOne (output : Command → Running ByteText) (fuel : Nat) (words : List Word) :
    Running (Bool × List Word) :=
  match fuel with
  | 0 => throw .lost
  | fuel + 1 => do
    match words with
    | [] => pure (false, [])
    | w :: rest =>
      if w.bare? = some "!" then do
        let (b, rest) ← conditionOne output fuel rest
        pure (!b, rest)
      else if w.bare? = some "(" then do
        let (b, rest) ← conditionAny output fuel rest
        pure (b, rest.tail)
      else
        let isEnd (v : Word) : Bool := ["&&", "||", ")"].contains (v.bare?.getD "")
        match rest with
        | [] => do pure ((← Expansion.text output w) != "", [])
        | v :: rest' =>
          if isEnd v then do pure ((← Expansion.text output w) != "", rest)
          else
            match w.bare?, rest' with
            | some operator, _ =>
              if operator.length = 2 && Text.startsWith operator "-" &&
                  (match rest' with
                    | [] => true
                    | u :: _ => isEnd u) then do
                let text ← Expansion.text output v
                match Tools.Condition.shellHolds (← files) false [operator, text] with
                | .ok b => pure (b, rest')
                | .error e => fail e
              else compare output w v rest'
            | none, _ => compare output w v rest'
termination_by structural fuel

end

/-! ### One step -/

/-- Runs a command with a runner for its parts. -/
def perform (r : Runner) (c : Command) : Running Unit := do
  let output := outputOfCommand r
  match c with
  | .simple line assignments words redirections =>
    simpleCommand r line assignments words redirections
  | .negation c => do
    deciding true (r.command c)
    setStatus (if (← own).status = 0 then 1 else 0)
  | .pipeline cs => do
    setStatus (← pipes r none cs)
    takeSignals r
    checkFailure
  | .both first second => do
    deciding true (r.command first)
    if (← own).status = 0 then r.command second
  | .either first second => do
    deciding true (r.command first)
    if (← own).status != 0 then r.command second
  | .sequence cs => cs.forM r.command
  | .background c => do
    let id := (← get).world.nextId
    let errors := (← own).streams
    let code ← fork (toTheEnd r do
      assignStream 0 (← openStream ⟨.nowhere, 0, false, false⟩)
      change fun p => { p with replaces := isSimple c }
      r.command c)
    change fun p => { p with
      streams := errors, lastBackground := some id, ended := p.ended ++ [(id, code)] }
    setStatus 0
    takeSignals r
  | .subshell line c redirections => do
    change fun p => { p with line := line - p.lineBefore }
    let status ← inProcess r do
      let failed ← Redirection.redirect output redirections
      if failed != 0 then throw (.exit failed)
      r.command c
    setStatus status
    takeSignals r
    checkFailure
  | .redirected line c redirections => do
    change fun p => { p with line := line - p.lineBefore }
    keepingStreams do
      let failed ← Redirection.redirect output redirections
      if failed != 0 then setStatus failed
      else r.command c
  | .choice test success failure => do
    deciding true (r.command test)
    if (← own).status = 0 then r.command success
    else match failure with
      | some c => r.command c
      | none => setStatus 0
  | .loop untilSuccess test body => do
    inLoop (loopRounds r untilSuccess test body maxRounds 0)
  | .forEach line name words body => do
    change fun p => { p with line := line - p.lineBefore }
    let texts ← match words with
      | some ws => Expansion.allFields output ws
      | none => do pure (← own).args
    setStatus 0
    inLoop (forWords (fun w => do
      setVariable name w
      r.command body) texts)
  | .selection line word cases => do
    change fun p => { p with line := line - p.lineBefore }
    let text ← Expansion.text output word
    match ← findCase output text cases with
    | some c => do
      match c with
      | .sequence [] => setStatus 0
      | c => r.command c
    | none => setStatus 0
  | .definition line name body => do
    let d : Command := .definition line name body
    change fun p => { p with functions := p.functions.filter (·.1 != name) ++ [(name, d)] }
    setStatus 0
  | .condition line words => do
    change fun p => { p with line := line - p.lineBefore }
    let (b, _) ← conditionAny output (8 * words.length + 8) words
    setStatus (if b then 0 else 1)
    checkFailure
  | .arithmetic line expression => do
    change fun p => { p with line := line - p.lineBefore }
    let n ← Arithmetic.evaluate (← Expansion.text output expression)
    setStatus (if n = 0 then 1 else 0)
    checkFailure

/-- Runs a command with a runner for its parts, unless an option says that commands are only
read. -/
def step (r : Runner) (c : Command) : Running Unit := do
  if !(← hasOption 'n') then perform r c

/-! ### Scripts -/

/-- Runs the commands of a script that are still to be read. `ran` says whether one has been run. -/
def sourceFrom (r : Runner) : Nat → ReaderState → Bool → Running Unit
  | 0, _, _ => throw .lost
  | n + 1, state, ran => do
    match Reading.readLine (state.rest.length + 2) state with
    | .error f _ => do
      change fun p => { p with line := f.line }
      complain f.report
      throw (.failed 2)
    | .ok none _ => if !ran then setStatus 0
    | .ok (some c) state => do
      change fun p => { p with texts := state.texts }
      r.command c
      let texts := (← own).texts
      sourceFrom r n { state with texts := texts } true

/-- Runs the commands of a script. -/
def source (r : Runner) (text : ByteText) : Running Unit := do
  let p ← own
  let chars := text.toList.filter (· != '\x00')
  sourceFrom r (chars.length + 2) ⟨chars, 1, none, [], p.texts, p.dialect⟩ false

end Evaluation

end RamlClient.Shell
