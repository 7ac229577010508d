import RamlClient.Shell.Runner
/-!
# Finding programs

A program is a file that can be run. A name without slashes means the program of that name in the
first directory of a list that has one. The programs of the system are tools; other programs are
scripts.
-/

namespace RamlClient.Shell

open Text (ByteText)
open Running

/-- What the file of a program holds. -/
inductive ProgramKind where
  /-- A tool of the system. -/
  | tool (name : String)
  /-- A script for the program at a path, which gets one more argument if there is one. -/
  | script (interpreter : ByteText) (argument : Option ByteText)
  /-- A text that says nothing about itself. -/
  | unmarked

namespace ProgramKind

/-- What the files of tools begin with. -/
def toolMark : ByteText := "\x7fELF:"

/-- The file of a tool. -/
def fileOfTool (name : String) : FileNode := .file (Text.rawBytes (toolMark ++ name)) true

/-- What the file of a program with some bytes holds. -/
def ofContent (content : ByteText) : ProgramKind :=
  let line := content.toList.takeWhile (· != '\n')
  if Text.startsWith content toolMark then
    .tool (String.ofList (line.drop toolMark.length))
  else
    match line with
    | '#' :: '!' :: r =>
      let isBlank (c : Char) : Bool := c == ' ' || c == '\t'
      let trim (cs : List Char) : List Char :=
        ((cs.dropWhile isBlank).reverse.dropWhile isBlank).reverse
      let r := trim r
      let interpreter := r.takeWhile fun c => !isBlank c
      let argument := trim (r.drop interpreter.length)
      if interpreter.isEmpty then .unmarked
      else .script (String.ofList interpreter)
        (if argument.isEmpty then none else some (String.ofList argument))
    | _ => .unmarked

end ProgramKind

/-- The directories of programs unless a process says others. -/
def usualDirectories : ByteText :=
  "/usr/local/sbin:/usr/local/bin:/usr/sbin:/usr/bin:/sbin:/bin"

/-- The directories of programs. -/
def programDirectories : Running (List ByteText) := do
  let text := (← valueOf? "PATH").getD usualDirectories
  pure ((Text.splitAtChar ':' text.toList).map String.ofList)

/-- Whether a path leads to a program, or why it does not. -/
def checkProgram (path : ByteText) : Running (Except FaultKind Unit) := do
  match (← files).find true (Text.textOfBytes path) with
  | .ok (_, .file _ true) => pure (.ok ())
  | .ok _ => pure (.error .denied)
  | .error k => pure (.error k)

/-- The path of the program of a name in some directories. -/
def lookUpIn (name : ByteText) : List ByteText → Running (Except FaultKind ByteText)
  | [] => pure (.error .absent)
  | d :: r => do
    let path := if d = "" then name else d ++ "/" ++ name
    match ← checkProgram path with
    | .ok () => pure (.ok path)
    | .error k => do
      let found ← lookUpIn name r
      match found, k with
      | .error .absent, .denied => pure (.error .denied)
      | _, _ => pure found

/-- The path of the program of a name. -/
def lookUp (name : ByteText) : Running (Except FaultKind ByteText) := do
  if name.toList.contains '/' then
    pure ((← checkProgram name).map fun _ => name)
  else if name = "" then pure (.error .absent)
  else lookUpIn name (← programDirectories)

end RamlClient.Shell
