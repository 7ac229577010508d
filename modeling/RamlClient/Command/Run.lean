import RamlClient.Client.Target
import RamlClient.Command.Arguments
/-!
# Running the command

The command reads its arguments, generates the client, and reports an error in one line. Its exit
code is 0 if all went well, 1 after an error, and 2 if its arguments are wrong.
-/

namespace RamlClient.Command

open Client

/-- The name of the command. -/
def commandName : String := "ramlify"

/-- How the command is used. -/
def usage : String :=
  "usage: " ++ commandName ++ " [-h] -t TARGET -o OUTPUT [-p PACKAGE_NAME] " ++
    "[--prefix-depth PREFIX_DEPTH] [--formatter FORMATTER] [-v | -q] spec"

/-- How the command has ended. -/
structure Outcome where
  /-- The exit code. -/
  exitCode : Nat
  /-- What it has shown on the standard output. -/
  shown : String
deriving DecidableEq, Repr

/-- Shows a line on the console. -/
def printLine {σ : Type} (line : String) : Running σ Unit :=
  modify fun s => { s with console := s.console.print line }

/-- Generates a client as the arguments ask. -/
def generateAs {σ : Type} (host : Host σ) (args : Arguments) : Running σ Unit := do
  modify fun s => { s with console := s.console.configure args.verbose args.quiet }
  let profile ← Running.orDefect
    (Profile.ofOptions (some args.packageName) args.prefixDepth (some args.formatter))
  let profile := { profile with prefixDepth := args.prefixDepth }
  let target ← Running.needed args.target
  discard (generatePackage host target profile (.location args.spec) args.output)

/-- Runs the command. Only a defect of the input ends it without an exit code. -/
def run {σ : Type} (host : Host σ) (args : List String) : Running σ Outcome := do
  match Arguments.parse args with
  | .error .help => pure ⟨0, usage ++ "\n"⟩
  | .error (.usage e) =>
    printLine (commandName ++ ": error: " ++ e.message)
    pure ⟨2, ""⟩
  | .ok args =>
    try
      generateAs host args
      pure ⟨0, ""⟩
    catch
      | .error e =>
        printLine ("error: " ++ e.message)
        pure ⟨1, ""⟩
      | .defect d => throw (.defect d)

end RamlClient.Command
