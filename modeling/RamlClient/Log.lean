import RamlClient.Text.Segment
/-!
# Log and progress

Records have a level. Once it is configured, the console shows the records from its level on; before
that it shows warnings and errors. Progress is reported as tasks start and finish, one after
another.
-/

namespace RamlClient

/-- The levels of records. -/
inductive LogLevel where
  /-- Details. -/
  | debug
  /-- What goes on. -/
  | info
  /-- What may be wrong. -/
  | warning
  /-- What is wrong. -/
  | error
deriving DecidableEq, Repr

namespace LogLevel

/-- The rank of a level. -/
def rank : LogLevel → Nat
  | debug => 10
  | info => 20
  | warning => 30
  | error => 40

/-- The name of a level. -/
def name : LogLevel → String
  | debug => "DEBUG"
  | info => "INFO"
  | warning => "WARNING"
  | error => "ERROR"

end LogLevel

/-- The name of the logger that all others are below. -/
def rootLogger : String := "ramlify"

/-- The name of the logger of a module: the last part of the module's name, below the root. -/
def loggerName : Option String → String
  | none => rootLogger
  | some name =>
    if name = rootLogger then rootLogger
    else rootLogger ++ "." ++ String.ofList (Text.afterLastChar '.' name.toList)

/-- Where records are shown. -/
structure Console where
  /-- The level from which on records are shown, once it is configured. -/
  level : Option LogLevel
  /-- The number of handlers that show records. -/
  handlers : Nat
  /-- What has been shown. -/
  output : String
deriving DecidableEq, Repr

namespace Console

/-- The console before it is configured. -/
def initial : Console := ⟨none, 0, ""⟩

/-- The level from which on records are shown. -/
def threshold (c : Console) : LogLevel := c.level.getD .warning

/-- The name of the configured level. -/
def levelName (c : Console) : String := (c.level.map LogLevel.name).getD "NOTSET"

/-- The console for the given options. The first configuration adds the handler. -/
def configure (c : Console) (verbose quiet : Bool) : Console :=
  { c with
    level := some (if verbose then .debug else if quiet then .warning else .info)
    handlers := if c.handlers = 0 then 1 else c.handlers }

/-- Shows a line. -/
def print (c : Console) (line : String) : Console := { c with output := c.output ++ line ++ "\n" }

/-- Hands a record to the handlers, each of which shows it. If there is none, then it is shown if it
is a warning or an error. -/
def handle (c : Console) (level : LogLevel) (message : String) : Console :=
  if c.handlers = 0 then
    if LogLevel.warning.rank ≤ level.rank then c.print message else c
  else c.handlers.repeat (·.print message) c

/-- Takes a record. It is handled if its level is high enough. -/
def log (c : Console) (level : LogLevel) (message : String) : Console :=
  if c.threshold.rank ≤ level.rank then c.handle level message else c

end Console

/-- The task that is going on, and the time at which it started. -/
structure Progress where
  /-- The task, if there is one. -/
  current : Option String
  /-- When the task started, in milliseconds. -/
  started : Nat
deriving DecidableEq, Repr

namespace Progress

/-- No task is going on. -/
def idle : Progress := ⟨none, 0⟩

/-- The record of a task that starts. -/
def startMessage (name : String) : String := "> " ++ name

/-- The record of a task that has finished. -/
def finishMessage (name : String) (milliseconds : Nat) : String :=
  "done " ++ name ++ " (" ++ toString milliseconds ++ "ms)"

/-- Finishes the task that is going on, if there is one. -/
def finish (p : Progress) (now : Nat) (c : Console) : Progress × Console :=
  match p.current with
  | none => (p, c)
  | some name => ({ p with current := none }, c.log .info (finishMessage name (now - p.started)))

/-- Starts a task, which finishes the one that is going on. -/
def start (p : Progress) (now : Nat) (name : String) (c : Console) : Progress × Console :=
  let (_, c) := p.finish now c
  (⟨some name, now⟩, c.log .info (startMessage name))

end Progress

end RamlClient
