import RamlClient.Client.Session
import RamlClient.Files.Tree
import RamlClient.Go.Render
/-!
# Writing a package

A package is written file by file: first the files that are copied in, then its source files. After
that the formatter runs once over the directory. What is written before something goes wrong stays.
-/

namespace RamlClient.Client

open Go

/-- The path that a copied file gets in a directory. -/
def includeTarget (directory : Path) : Include → Path
  | .file path => directory ++ ⟨"", if path.name = "" then [] else [path.name]⟩
  | .text name _ => directory ++ Path.ofText name

section

variable {σ : Type} (host : Host σ)

/-- Fails if a path has the character with code 0 in it. -/
def requirePath (p : Path) : Running σ Unit :=
  if Document.isPathText p.text then pure () else throw (.defect .malformedPath)

/-- The error that a fault is when a package is written to a directory. -/
def writeFailure (directory : Path) (fault : Fault) : Failure :=
  .error (.write directory.text fault)

/-- The text of a file that is copied. -/
def includeText (directory : Path) : Include → Running σ String
  | .file path => do
    requirePath path
    let bytes ← Running.onHost (host.readFile path) (writeFailure directory)
    match decodeText? bytes with
    | some s => pure (plainLineEnds s)
    | none => throw (.defect .notUtf8)
  | .text _ content => pure content

/-- Copies a file into a directory. -/
def writeInclude (directory : Path) (package : String) (i : Include) : Running σ Path := do
  let text ← Running.orDefect (renderInclude (← includeText host directory i) package)
  let target := includeTarget directory i
  requirePath target
  Running.onHost (host.writeFile target text) (writeFailure directory)
  pure target

/-- Writes a source file into a directory. The file stays empty if its text cannot be encoded. -/
def writeFile (directory : Path) (package : String) (f : File) : Running σ Path := do
  let target := directory ++ Path.ofText f.path
  requirePath target.parent
  Running.onHost (host.makeDirs target.parent) (writeFailure directory)
  requirePath target
  let text := f.text package
  let encodable := Text.isEncodable text
  Running.onHost (host.writeFile target (if encodable then text else "")) (writeFailure directory)
  if !encodable then throw (.defect .halfCharacter)
  pure target

/-- The failure of a formatter. A command without words has no formatter to name. -/
def formatterFailure (command : List String) (error : String → Error) : Failure :=
  match command with
  | [] => .defect .emptyCommand
  | tool :: _ => .error (error tool)

/-- Runs a formatter on a directory: the words of the command, with the directory as the last
argument. -/
def runFormatter (directory : Path) (command : List String) : Running σ Unit := do
  let words := command ++ [directory.text]
  Running.log .debug ("running formatter: " ++ Text.join " " words)
  if !words.all Document.isPathText then throw (.defect .malformedPath)
  let result ← Running.onHost (host.runTool (words.head?.getD "") words.tail) fun fault =>
    formatterFailure command fun tool => .formatterNotStarted tool fault
  match decodeText? result.output, decodeText? result.errors with
  | some output, some errors =>
    if result.exitCode ≠ 0 then
      let errors := Text.trim (plainLineEnds errors)
      let detail := if errors = "" then Text.trim (plainLineEnds output) else errors
      throw (formatterFailure command fun tool => .formatterFailed tool result.exitCode detail)
  | _, _ => throw (.defect .notUtf8)

/-- Writes a package into a directory and runs the formatter if there is one. The result are the
paths in the order of writing. -/
def save (directory : Path) (package : String) (formatter : Option (List String)) (p : Package) :
    Running σ (List Path) := do
  if p.files.isEmpty && p.includes.isEmpty then
    Running.log .debug ("nothing to write for package " ++ package)
    pure []
  else
    requirePath directory
    Running.onHost (host.makeDirs directory) (writeFailure directory)
    let copied ← p.includes.mapM (writeInclude host directory package)
    let generated ← p.files.mapM (writeFile host directory package)
    let written := copied ++ generated
    Running.log .debug
      ("wrote " ++ toString written.length ++ " files to " ++ directory.text)
    match formatter with
    | some command => runFormatter host directory command
    | none => pure ()
    pure written

end

end RamlClient.Client
