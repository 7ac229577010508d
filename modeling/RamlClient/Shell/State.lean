import RamlClient.Files.Tree
import RamlClient.Shell.Script
import RamlClient.Text.ByteText
/-!
# The state of shells

Shells and tools run on a world of files and open streams. Each process has its own variables,
streams and working directory; what it does to the world stays when it ends.
-/

namespace RamlClient.Shell

open Text (ByteText)

/-- Where an open stream leads. -/
inductive StreamEnd where
  /-- Nowhere: nothing is read, and what is written is gone. -/
  | nowhere
  /-- To a device without space for anything that is written. -/
  | full
  /-- To a text that grows. -/
  | memory (content : ByteText)
  /-- To the file at a place. -/
  | file (place : List String)
  /-- To a directory, from which nothing can be read. -/
  | directory

/-- An open stream. -/
structure Stream where
  /-- Where it leads. -/
  target : StreamEnd
  /-- The number of bytes before the next one that is read or written. -/
  position : Nat
  /-- Whether it writes at the end. -/
  appends : Bool
  /-- Whether it can be written to. -/
  writes : Bool

/-- A variable. -/
structure Variable where
  /-- The value, unless the variable is not set. -/
  value : Option ByteText
  /-- Whether other programs get it. -/
  isExported : Bool
  /-- Whether it keeps its value. -/
  isConstant : Bool
deriving DecidableEq, Repr

/-- A process. -/
structure Process where
  /-- The number of the process. -/
  id : Nat
  /-- The number of the shell that it is or that it has begun in. -/
  shellId : Nat
  /-- The shell that its script is written for. -/
  dialect : Dialect
  /-- The name of the script. -/
  name : ByteText
  /-- The arguments of the script. -/
  args : List ByteText
  /-- The variables. -/
  vars : List (String × Variable)
  /-- The functions. -/
  functions : List (String × Command)
  /-- The exit code of the last command. -/
  status : Nat
  /-- The open streams by their numbers in this process. -/
  streams : List (Nat × Nat)
  /-- The names on the way to the working directory. -/
  dir : List String
  /-- What is run when the process ends or gets a signal. -/
  traps : List (String × ByteText)
  /-- The letters of the options that are on. -/
  options : List Char
  /-- The number of the last command that nothing waits for. -/
  lastBackground : Option Nat
  /-- How commands that nothing has waited for have ended: their exit codes, or the negated numbers
  of signals. -/
  ended : List (Nat × Int)
  /-- The line that is run. -/
  line : Nat
  /-- The built-in command that is run. -/
  command : Option ByteText
  /-- The texts that commands read from lines of the script. -/
  texts : Array Word
  /-- The variables that functions have put aside, by functions. -/
  frames : List (List (String × Option Variable))
  /-- The number of loops around. -/
  loops : Nat
  /-- Whether the exit code of the command decides something. -/
  decides : Bool
  /-- The place in the argument from which the next option is read. -/
  optionPlace : Nat
  /-- The line before the function that is run, from which its lines are counted. -/
  lineBefore : Nat
  /-- The exit code of the last command whose output has become a part of a word. -/
  substituted : Nat
  /-- What new files do not permit. -/
  mask : Nat
  /-- The way to the working directory as it has been gone. -/
  shownDir : ByteText
  /-- The names that stand for other texts. -/
  aliases : List (String × ByteText)
  /-- The programs that have been run. -/
  tracked : List String
  /-- Whether the next program takes the place of the process. -/
  replaces : Bool
  /-- Why something could not be written to the standard output. -/
  unprinted : Option FaultKind

/-- What shells and tools work on. -/
structure World where
  /-- The files. -/
  files : FileTree
  /-- The streams. -/
  streams : Array Stream
  /-- The number of the next process. -/
  nextId : Nat
  /-- The signals that processes have not got yet. -/
  signals : List (Nat × Nat)

/-- The state of a running process. -/
structure State where
  /-- The world. -/
  world : World
  /-- The process. -/
  own : Process

/-- What ends a command before its end. -/
inductive Interrupt where
  /-- The process ends. -/
  | exit (status : Nat)
  /-- The command fails, and the process ends unless the command does not matter that much. -/
  | failed (status : Nat)
  /-- The process of a number ends by a signal. -/
  | killed (process signal : Nat)
  /-- Loops end, or the last of them begins a new round. -/
  | leave (loops : Nat) (again : Bool)
  /-- The function ends. -/
  | back
  /-- The command takes too many steps. -/
  | lost

/-- Steps of a process. -/
abbrev Running := EStateM Interrupt State

namespace Running

/-- The process. -/
def own : Running Process := do pure (← get).own

/-- Changes the process. -/
def change (f : Process → Process) : Running Unit := modify fun s => { s with own := f s.own }

/-- The files, seen from the working directory of the process. -/
def files : Running FileTree := do
  let s ← get
  pure { s.world.files with workingDir := s.own.dir }

/-- Puts other files into the place of the files. -/
def setFiles (t : FileTree) : Running Unit :=
  modify fun s => { s with world := { s.world with
    files := { t with workingDir := s.world.files.workingDir } } }

/-! ### Streams -/

/-- Opens a stream, which gets a number in the world. -/
def openStream (stream : Stream) : Running Nat := do
  let index := (← get).world.streams.size
  modify fun s => { s with world := { s.world with streams := s.world.streams.push stream } }
  pure index

/-- The stream of a number in the process. -/
def streamAt? (number : Nat) : Running (Option (Nat × Stream)) := do
  let s ← get
  pure do
    let index := (← s.own.streams.find? (·.1 == number)).2
    let stream ← s.world.streams[index]?
    pure (index, stream)

/-- Gives a number in the process to a stream. -/
def assignStream (number index : Nat) : Running Unit :=
  change fun p => { p with streams := (number, index) :: p.streams.filter (·.1 != number) }

/-- Takes a number in the process away from its stream. -/
def closeStream (number : Nat) : Running Unit :=
  change fun p => { p with streams := p.streams.filter (·.1 != number) }

/-- Changes a stream of the world. -/
def changeStream (index : Nat) (f : Stream → Stream) : Running Unit :=
  modify fun s => { s with world := { s.world with
    streams := match s.world.streams[index]? with
      | some stream => s.world.streams.setIfInBounds index (f stream)
      | none => s.world.streams } }

/-- The bytes of the file at a place. -/
def fileBytes (place : List String) : Running ByteArray := do
  match (← get).world.files.node? place with
  | some (.file content _) => pure content
  | _ => pure ByteArray.empty

/-- A text written into bytes at a place; a gap is filled with zeros. -/
def overwrite (bytes : ByteArray) (position : Nat) (text : ByteText) : ByteArray :=
  let new := Text.rawBytes text
  let gap : ByteArray := ⟨Array.replicate (position - bytes.size) 0⟩
  (bytes ++ gap).extract 0 position ++ new ++ bytes.extract (position + new.size) bytes.size

/-- Writes a text to the stream of a number, unless there is a fault. -/
def tryWrite (number : Nat) (text : ByteText) : Running (Except FaultKind Unit) := do
  match ← streamAt? number with
  | none => pure (.error .closedStream)
  | some (index, stream) =>
    if !stream.writes then pure (.error .closedStream)
    else match stream.target with
      | .nowhere => pure (.ok ())
      | .full => pure (if text = "" then .ok () else .error .noSpace)
      | .directory => pure (.error .closedStream)
      | .memory content => do
        changeStream index fun s => { s with target := .memory (content ++ text) }
        pure (.ok ())
      | .file place => do
        if text = "" then pure (.ok ())
        else
          let bytes ← fileBytes place
          let position := if stream.appends then bytes.size else stream.position
          let new := overwrite bytes position text
          let files := (← get).world.files
          match files.node? place with
          | some (.file _ isProgram) => do
            modify fun s => { s with world := { s.world with
              files := files.put place (.file new isProgram) } }
          | _ => pure ()
          changeStream index fun s => { s with position := position + text.length }
          pure (.ok ())

/-- Writes a text to the stream of a number. -/
def write (number : Nat) (text : ByteText) : Running Unit := do discard (tryWrite number text)

/-- Writes a text to the standard output, or takes note that this is not possible. -/
def print (text : ByteText) : Running Unit := do
  match ← tryWrite 1 text with
  | .ok () => pure ()
  | .error k =>
    if text != "" then
      modify fun s => { s with own := { s.own with unprinted := some k } }

/-- Runs steps, and tells why what they print could not be written, if so. -/
def withPrintFault {α : Type} (steps : Running α) : Running (α × Option FaultKind) := do
  modify fun s => { s with own := { s.own with unprinted := none } }
  let a ← steps
  let k := (← get).own.unprinted
  modify fun s => { s with own := { s.own with unprinted := none } }
  pure (a, k)

/-- Writes a text to the standard error output. -/
def printError (text : ByteText) : Running Unit := write 2 text

/-- What a device without an end gives; so much of it is more than enough. -/
def zeros : ByteText := String.ofList (List.replicate 65536 '\x00')

/-- The bytes of the stream of a number that have not been read. -/
def unread (number : Nat) : Running (Except FaultKind ByteText) := do
  match ← streamAt? number with
  | none => pure (.error .closedStream)
  | some (_, stream) =>
    match stream.target with
    | .nowhere => pure (.ok "")
    | .full => pure (.ok zeros)
    | .directory => pure (.error .isDirectory)
    | .memory content => pure (.ok (String.ofList (content.toList.drop stream.position)))
    | .file place => do
      let bytes ← fileBytes place
      pure (.ok (Text.ofRawBytes (bytes.extract stream.position bytes.size)))

/-- Takes note that bytes of the stream of a number have been read. -/
def advance (number count : Nat) : Running Unit := do
  match ← streamAt? number with
  | none => pure ()
  | some (index, _) => changeStream index fun s => { s with position := s.position + count }

/-- All bytes that are left in the stream of a number. -/
def readAll (number : Nat) : Running (Except FaultKind ByteText) := do
  match ← unread number with
  | .error k => pure (.error k)
  | .ok text => do
    advance number text.length
    pure (.ok text)

/-- What a path of a device leads to, if it is one. No terminal is there. -/
def device? (path : String) : Option (Except FaultKind StreamEnd) :=
  if path = "/dev/null" then some (.ok .nowhere)
  else if path = "/dev/zero" then some (.ok (.memory zeros))
  else if path = "/dev/full" then some (.ok .full)
  else if path = "/dev/tty" then some (.error .noDevice)
  else none

/-- The number of the stream that a path stands for, if it does. -/
def streamOfPath? (path : String) : Option Nat :=
  if path = "/dev/stdin" then some 0
  else if path = "/dev/stdout" then some 1
  else if path = "/dev/stderr" then some 2
  else if Text.startsWith path "/dev/fd/" then (String.ofList (path.toList.drop 8)).toNat?
  else none

/-- Opens the file that a path leads to for reading. -/
def openToRead (path : ByteText) : Running (Except FaultKind Nat) := do
  let path := Text.textOfBytes path
  match device? path, streamOfPath? path with
  | some (.error k), _ => pure (.error k)
  | some (.ok target), _ => do pure (.ok (← openStream ⟨target, 0, false, false⟩))
  | none, some number => do
    match ← streamAt? number with
    | some (index, _) => pure (.ok index)
    | none => pure (.error .absent)
  | none, none =>
    match (← files).find true path with
    | .ok (place, .file _ _) => do pure (.ok (← openStream ⟨.file place, 0, false, false⟩))
    | .ok _ => do pure (.ok (← openStream ⟨.directory, 0, false, false⟩))
    | .error k => pure (.error k)

/-- Opens the file that a path leads to for writing, at its end or as an empty one, or as it is. A
file that is not there is made. -/
def openToWrite (path : ByteText) (appends keeps : Bool) : Running (Except FaultKind Nat) := do
  let path := Text.textOfBytes path
  match device? path, streamOfPath? path with
  | some (.error k), _ => pure (.error k)
  | some (.ok target), _ => do pure (.ok (← openStream ⟨target, 0, false, true⟩))
  | none, some number => do
    match ← streamAt? number with
    | some (index, _) => pure (.ok index)
    | none => pure (.error .absent)
  | none, none =>
    let t ← files
    match t.findPlace true path with
    | .error k => pure (.error k)
    | .ok place =>
      match t.node? place with
      | some .dir => pure (.error .isDirectory)
      | some (.link _) => pure (.error .linkLoop)
      | some (.file _ isProgram) => do
        if !appends && !keeps then setFiles (t.put place (.file ByteArray.empty isProgram))
        pure (.ok (← openStream ⟨.file place, 0, appends, true⟩))
      | none =>
        if Text.endsWith path "/" then pure (.error .isDirectory)
        else do
          setFiles (t.put place (.file ByteArray.empty false))
          pure (.ok (← openStream ⟨.file place, 0, appends, true⟩))

/-- The bytes of the file that a path leads to. -/
def readFile (path : ByteText) : Running (Except FaultKind ByteText) := do
  let path := Text.textOfBytes path
  match device? path, streamOfPath? path with
  | some (.error k), _ => pure (.error k)
  | some (.ok .nowhere), _ => pure (.ok "")
  | some (.ok _), _ => pure (.ok zeros)
  | none, some number => readAll number
  | none, none =>
    match (← files).find true path with
    | .ok (_, .file content _) => pure (.ok (Text.ofRawBytes content))
    | .ok _ => pure (.error .isDirectory)
    | .error k => pure (.error k)

/-- Writes the file that a path leads to. -/
def writeFile (path content : ByteText) (appends : Bool) : Running (Except FaultKind Unit) := do
  let s ← get
  match ← openToWrite path appends false with
  | .error k => pure (.error k)
  | .ok index => do
    let free := s.own.streams.foldl (fun n e => max n (e.1 + 1)) 1000
    assignStream free index
    let r ← tryWrite free content
    closeStream free
    pure r

/-! ### Reports -/

/-- What stands before a report. -/
def reportStart (p : Process) : ByteText :=
  let place := match p.dialect with
    | .plain => toString p.line
    | .extended => "line " ++ toString p.line
  let command := match p.command with
    | some c => c ++ ": "
    | none => ""
  p.name ++ ": " ++ place ++ ": " ++ command

/-- Writes a report of the shell. -/
def complain (report : ByteText) : Running Unit := do
  printError (reportStart (← own) ++ report ++ "\n")

/-- Ends the process with a report. -/
def fail {α : Type} (report : ByteText) : Running α := do
  complain report
  throw (.failed (match (← own).dialect with
    | .plain => 2
    | .extended => 1))

/-- Sets the exit code. -/
def setStatus (status : Nat) : Running Unit := change fun p => { p with status }

/-! ### Variables -/

/-- The variable of a name. -/
def variableOf? (name : String) : Running (Option Variable) := do
  pure (((← own).vars.find? (·.1 == name)).map (·.2))

/-- The value of a variable. -/
def valueOf? (name : String) : Running (Option ByteText) := do
  pure ((← variableOf? name).bind (·.value))

/-- Puts a variable in the place of the one of its name. -/
def putVariable (name : String) (v : Variable) : Running Unit :=
  change fun p => { p with
    vars := if p.vars.any (·.1 == name) then
        p.vars.map fun e => if e.1 == name then (name, v) else e
      else p.vars ++ [(name, v)] }

/-- Takes a variable away. -/
def dropVariable (name : String) : Running Unit :=
  change fun p => { p with vars := p.vars.filter (·.1 != name) }

/-- Whether an option is on. -/
def hasOption (letter : Char) : Running Bool := do pure ((← own).options.contains letter)

/-- The report about a variable that keeps its value. -/
def constantReport (dialect : Dialect) (name : String) : ByteText :=
  name ++ match dialect with
    | .plain => ": is read only"
    | .extended => ": readonly variable"

/-- Sets a variable. The process ends if the variable keeps its value. -/
def setVariable (name : String) (value : ByteText) : Running Unit := do
  let exported ← hasOption 'a'
  match ← variableOf? name with
  | some v =>
    if v.isConstant then fail (constantReport (← own).dialect name)
    else putVariable name { v with value := some value, isExported := v.isExported || exported }
  | none => putVariable name ⟨some value, exported, false⟩

/-! ### Processes -/

/-- Runs a process that begins as a copy of this one. The result is its exit code, or that of a
signal. -/
def fork (steps : Running Unit) : Running Int := do
  let s ← get
  let id := s.world.nextId
  set { s with
    world := { s.world with nextId := id + 1 }
    own := { s.own with id, traps := s.own.traps.filter (·.2 == "") } }
  let restore : Running Unit := modify fun t => { t with own := s.own }
  match steps (← get) with
  | .ok _ t => do
    set t
    let status := t.own.status
    restore
    pure (Int.ofNat status)
  | .error i t => do
    set t
    let status := t.own.status
    restore
    match i with
    | .exit n => pure (Int.ofNat (n % 256))
    | .failed n => pure (Int.ofNat (n % 256))
    | .killed process signal =>
      if process = id then pure (-(Int.ofNat signal)) else throw i
    | .leave _ _ => pure (Int.ofNat status)
    | .back => pure (Int.ofNat status)
    | .lost => throw .lost

/-- The exit code by which a shell knows how a process has ended. -/
def statusOf (code : Int) : Nat :=
  match code with
  | .ofNat n => n % 256
  | .negSucc n => 128 + n + 1

/-- Runs steps and gives the process its streams back in the end. -/
def keepingStreams {α : Type} (steps : Running α) : Running α := do
  let streams := (← own).streams
  let a ← try steps catch i => do
    change fun p => { p with streams }
    throw i
  change fun p => { p with streams }
  pure a

end Running

end RamlClient.Shell
