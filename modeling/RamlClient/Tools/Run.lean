import RamlClient.Shell.Start
import RamlClient.Tools.Editing.Tool
import RamlClient.Tools.Environment
import RamlClient.Tools.Expression
import RamlClient.Tools.Listing
import RamlClient.Tools.Moving
import RamlClient.Tools.Plain
import RamlClient.Tools.Searching
/-!
# Running tools

The tools are the programs of a system. A process that runs one works on a file tree and leaves what
it has written to its streams.
-/

namespace RamlClient.Tools

open Text (ByteText)
open Shell
open Shell.Running

/-- The tools by their names. -/
def tools : List (String × Tool) :=
  [("[", test true), ("basename", basename), ("bash", Start.shell .extended), ("cat", cat),
   ("cp", cp), ("dash", Start.shell .plain), ("dirname", dirname), ("echo", echo), ("egrep", egrep),
   ("env", env), ("expr", expr), ("false", failAlways), ("fgrep", fgrep), ("grep", grep),
   ("head", head), ("ln", ln), ("ls", ls), ("mkdir", mkdir), ("mv", mv), ("printenv", printenv),
   ("printf", printf), ("pwd", pwd), ("rm", rm), ("rmdir", rmdir), ("sed", Editing.sed),
   ("sh", Start.shell .plain), ("sleep", sleep), ("tail", tail), ("tee", tee), ("test", test false),
   ("touch", touch), ("true", succeed), ("wc", wc), ("which", which)]

/-! ### The system -/

/-- The directory of the tools. -/
def toolDirectory : List String := ["usr", "bin"]

/-- What stands outside of the files of a document. -/
def systemNodes : List (List String × FileNode) :=
  [(["bin"], .link "usr/bin"), (["sbin"], .link "usr/sbin"), (["usr"], .dir),
    (["usr", "bin"], .dir),
   (["usr", "sbin"], .dir), (["usr", "local"], .dir), (["usr", "local", "bin"], .dir),
   (["usr", "local", "sbin"], .dir), (["tmp"], .dir), (["root"], .dir), (["home"], .dir),
   (["etc"], .dir), (["dev"], .dir), (["var"], .dir), (["var", "tmp"], .dir)] ++
  tools.map fun t => (toolDirectory ++ [t.1], ProgramKind.fileOfTool t.1)

/-- A tree with the system around its files. -/
def withSystem (t : FileTree) : FileTree :=
  { t with nodes := systemNodes.filter (fun n => !t.nodes.any (·.1 == n.1)) ++ t.nodes }

/-- A tree without the system around its files. -/
def withoutSystem (t : FileTree) : FileTree :=
  { t with nodes := t.nodes.filter fun n => !systemNodes.any fun s => s.1 == n.1 && s.2.same n.2 }

/-- The variables that are handed on to tools. -/
def environment : List (String × ByteText) :=
  [("PATH", "/usr/local/bin:/usr/local/sbin:/usr/local/bin:/usr/sbin:/usr/bin:/sbin:/bin"),
   ("HOME", "/root"), ("LANG", "C.UTF-8")]

/-! ### Running -/

/-- The exit code of a tool that cannot write what it prints. -/
def unprintedStatus (tool : String) : Nat :=
  if ["ls", "grep", "egrep", "fgrep"].contains tool then 2
  else if tool = "expr" then 3
  else if tool = "sed" then 4
  else 1

/-- Runs a tool, and reports what it cannot print. -/
def runNamed (r : Runner) (tool : String) (name : ByteText) (args : List ByteText) :
    Running Nat := do
  match tools.find? (·.1 == tool) with
  | none => pure 0
  | some t => do
    let (status, fault) ← withPrintFault (t.2 r name args)
    match fault with
    | none => pure status
    | some k => do
      report name ((if tool = "sed" then "couldn't flush stdout: " else "write error: ") ++
        k.wording)
      pure (unprintedStatus tool)

/-- Starts a program in the place of a process. -/
def startProgram (r : Runner) (words : List ByteText) : Running (Except FaultKind Nat) := do
  let name := words.head?.getD ""
  let rec start : Nat → ByteText → List ByteText → Running (Except FaultKind Nat)
    | 0, _, _ => pure (.error .linkLoop)
    | n + 1, path, words => do
      match ← checkProgram path with
      | .error k => pure (.error k)
      | .ok () =>
        match ← Running.readFile path with
        | .error k => pure (.error k)
        | .ok content =>
          match ProgramKind.ofContent content with
          | .tool tool =>
            do pure (.ok (← runNamed r tool (words.head?.getD "") words.tail))
          | .script interpreter argument =>
            start n interpreter (interpreter :: argument.toList ++ path :: words.tail)
          | .unmarked => start n "/bin/sh" ("/bin/sh" :: path :: words.tail)
  match ← lookUp name with
  | .error k => pure (.error k)
  | .ok path => start 4 path words

/-- The runner of commands that are nested up to a depth. -/
def runner : Nat → Runner
  | 0 => Runner.none
  | n + 1 =>
    let r := runner n
    { command := Evaluation.step r
      source := Evaluation.source r
      program := startProgram r }

/-- The depth up to which commands are nested. -/
def maxDepth : Nat := 1000

/-- The number of the first process. -/
def firstProcess : Nat := 4711

/-- What a tool leaves. -/
structure Outcome where
  /-- The exit code, or the negated number of a signal. -/
  exitCode : Int
  /-- The files. -/
  files : FileTree
  /-- What has been written to the standard output. -/
  output : ByteArray
  /-- What has been written to the standard error output. -/
  errors : ByteArray

/-- The bytes that have been written to a stream. -/
def writtenTo (w : World) (index : Nat) : ByteArray :=
  match w.streams[index]? with
  | some ⟨.memory content, _, _, _⟩ => Text.rawBytes content
  | _ => ByteArray.empty

/-- Whether there is a tool of a name. -/
def hasTool (name : String) : Bool :=
  let t := withSystem ⟨[], []⟩
  let isProgram (path : String) : Bool :=
    match t.find true path with
    | .ok (_, .file _ isProgram) => isProgram
    | _ => false
  if name.toList.contains '/' then isProgram name else isProgram ("/usr/bin/" ++ name)

/-- Why a tool cannot be started, if it cannot. -/
def startFault? (t : FileTree) (name : String) : Option FaultKind :=
  let check (path : String) : Option FaultKind :=
    match t.find true path with
    | .ok (_, .file content true) =>
      match ProgramKind.ofContent (Text.ofRawBytes content) with
      | .unmarked => some .notProgram
      | _ => none
    | .ok _ => some .denied
    | .error k => some k
  if name.toList.contains '/' then check name else check ("/usr/bin/" ++ name)

/-- Runs a tool on a file tree. -/
def runTool (files : FileTree) (name : String) (args : List String) : Except Fault Outcome :=
  let t := withSystem files
  match startFault? t name with
  | some k => .error ⟨k, name⟩
  | none =>
    let memory : Stream := ⟨.memory "", 0, true, true⟩
    let world : World := ⟨t, #[⟨.nowhere, 0, false, false⟩, memory, memory], firstProcess, []⟩
    let own : Process := {
      id := 0, shellId := 0, dialect := .plain, name := "", args := []
      vars := environment.map fun v => (v.1, ⟨some v.2, true, false⟩)
      functions := [], status := 0, streams := [(0, 0), (1, 1), (2, 2)], dir := files.workingDir
      traps := [], options := [], lastBackground := none, ended := [], line := 0, command := none
      texts := #[], frames := [], loops := 0, decides := false, optionPlace := 0, lineBefore := 0
      substituted := 0, mask := 18, shownDir := "", aliases := [], tracked := []
      unprinted := none, replaces := false }
    let steps : Running Int := Running.fork do
      match ← (runner maxDepth).program ((name :: args).map Text.bytesOf) with
      | .ok status => throw (.exit status)
      | .error _ => throw (.exit 127)
    match steps ⟨world, own⟩ with
    | .ok code s =>
      .ok ⟨code, withoutSystem s.world.files, writtenTo s.world 1, writtenTo s.world 2⟩
    | .error _ s =>
      .ok ⟨-11, withoutSystem s.world.files, writtenTo s.world 1, writtenTo s.world 2⟩

end RamlClient.Tools
