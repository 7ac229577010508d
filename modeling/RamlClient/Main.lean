import RamlClient.Client.TreeHost
import RamlClient.Command.Run
import RamlClient.Tools.Run
import RamlClient.Yaml.Outline
/-!
# The command line

The command runs on a copy of the files below the working directory and next to the document. What
it has changed is written back in the end. No web address answers.
-/

namespace RamlClient.Main

/-- The names on the way to a place, from the root. -/
def partsOf (path : String) : List String := (Path.ofText path).parts

/-- Adds a directory with all that it holds to a tree. -/
partial def loadDirectory (tree : FileTree) (place : List String) : IO FileTree := do
  let tree := tree.put place .dir
  let directory := (Document.pathOfPlace place).text
  let entries ← (← IO.FS.realPath directory).readDir
  let mut tree := tree
  for entry in entries do
    let inner := place ++ [entry.fileName]
    if ← entry.path.isDir then tree ← loadDirectory tree inner
    else
      try tree := tree.put inner (.file (← IO.FS.readBinFile entry.path) false)
      catch _ => pure ()
  pure tree

/-- Adds the directories on the way to a place. -/
def loadWay (tree : FileTree) (place : List String) : FileTree :=
  (List.range place.length).foldl (fun t n => t.put (place.take (n + 1)) .dir) tree

/-- The files below the working directory, and those next to a document outside of it. -/
def loadTree (args : List String) : IO FileTree := do
  let workingDir := partsOf (← IO.currentDir).toString
  let tree ← loadDirectory (loadWay ⟨workingDir, []⟩ workingDir) workingDir
  match Command.Arguments.parse args with
  | .error _ => pure tree
  | .ok a =>
    let place := ((Path.ofText a.spec).normalized workingDir).parts
    let directory := place.dropLast
    if workingDir.isPrefixOf place || directory.isEmpty then pure tree
    else
      try loadDirectory (loadWay tree directory) directory
      catch _ => pure tree

/-- The host of the command line. -/
def host : Client.Host FileTree :=
  let run (t : FileTree) (name : String) (args : List String) :
    Except Fault (Client.ToolResult × FileTree) :=
    (Tools.runTool t name args).map fun o => (⟨o.exitCode, o.output, o.errors⟩, o.files)
  Client.treeHost Yaml.Outline.reader ⟨Tools.hasTool, run⟩ fun _ => none

/-- Writes back what differs between two trees, removals first. -/
def storeChanges (old new : FileTree) : IO Unit := do
  for (place, node) in old.nodes.reverse do
    if (new.node? place).isNone then
      let path := (Document.pathOfPlace place).text
      match node with
      | .dir => IO.FS.removeDir path
      | _ => IO.FS.removeFile path
  for (place, node) in new.nodes do
    if !(old.node? place).any (·.same node) then
      let path := (Document.pathOfPlace place).text
      match node with
      | .dir => IO.FS.createDirAll path
      | .file content _ => IO.FS.writeBinFile path content
      | .link _ => pure ()

end RamlClient.Main

open RamlClient in
/-- Runs the command. -/
def main (args : List String) : IO UInt32 := do
  let tree ← Main.loadTree args
  let start : Client.Session FileTree := ⟨tree, Console.initial⟩
  let finish (s : Client.Session FileTree) : IO Unit := do
    Main.storeChanges tree s.host
    IO.eprint (Text.escapeHalves s.console.output)
  match Command.run Main.host args start with
  | .ok outcome s =>
    finish s
    IO.print outcome.shown
    pure outcome.exitCode.toUInt32
  | .error _ s =>
    finish s
    IO.eprintln "unexpected input"
    pure 1
