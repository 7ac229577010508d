import RamlClient.Document
import RamlClient.Log
/-!
# Sessions

A session is what a run works on besides its values: the state of the host, which holds files and
offers tools, and the console. Steps of a session may fail; what they have done before stays.
-/

namespace RamlClient.Client

/-- What a tool has left when it ends. -/
structure ToolResult where
  /-- The exit code. -/
  exitCode : Int
  /-- What has been written to the standard output. -/
  output : ByteArray
  /-- What has been written to the standard error output. -/
  errors : ByteArray

/-- The operations of a host with states of a type. -/
structure Host (σ : Type) where
  /-- Where documents are found. -/
  sources : σ → Sources
  /-- Makes a directory and those on the way to it; one that is there is left alone. -/
  makeDirs : Path → EStateM Fault σ Unit
  /-- Reads a file. -/
  readFile : Path → EStateM Fault σ ByteArray
  /-- Writes a file. -/
  writeFile : Path → String → EStateM Fault σ Unit
  /-- Whether a tool can be found. -/
  hasTool : String → Bool
  /-- Runs a tool, given its name and its arguments. -/
  runTool : String → List String → EStateM Fault σ ToolResult
  /-- The time in milliseconds. -/
  now : σ → Nat

/-- The state of a run. -/
structure Session (σ : Type) where
  /-- The state of the host. -/
  host : σ
  /-- The console. -/
  console : Console

/-- Steps of a run. -/
abbrev Running (σ : Type) := EStateM Failure (Session σ)

namespace Running

variable {σ α : Type}

/-- Fails with an error. -/
def fail (e : Error) : Running σ α := throw (.error e)

/-- Goes on with a value unless it is a defect. -/
def orDefect (x : Except Defect α) : Running σ α :=
  match x with
  | .ok a => pure a
  | .error d => throw (.defect d)

/-- Goes on with a value unless it is an error. -/
def orError (x : Except Error α) : Running σ α :=
  match x with
  | .ok a => pure a
  | .error e => throw (.error e)

/-- Goes on with a value unless it is a failure. -/
def orFailure (x : Except Failure α) : Running σ α :=
  match x with
  | .ok a => pure a
  | .error e => throw e

/-- Goes on with the value of an option unless it is blank. -/
def needed (x : Option α) : Running σ α :=
  match x with
  | some a => pure a
  | none => throw (.defect .missingOptionValue)

/-- Writes a record. -/
def log (level : LogLevel) (message : String) : Running σ Unit :=
  modify fun s => { s with console := s.console.log level message }

/-- Does an operation of the host, and fails as told if it has a fault. -/
def onHost (operation : EStateM Fault σ α) (failure : Fault → Failure) : Running σ α := fun s =>
  match operation s.host with
  | .ok a h => .ok a { s with host := h }
  | .error fault h => .error (failure fault) { s with host := h }

/-- Changes the progress of tasks at the present time. -/
def report (host : Host σ) (change : Nat → Console → Progress × Console) : Running σ Progress :=
  fun s =>
    let (p, c) := change (host.now s.host) s.console
    .ok p { s with console := c }

end Running

end RamlClient.Client
