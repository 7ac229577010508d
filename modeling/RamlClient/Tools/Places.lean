import RamlClient.Shell.Control
import RamlClient.Tools.Options
/-!
# Tools on paths

Tools that tell what paths mean and what parts they have.
-/

namespace RamlClient.Tools

open Text (ByteText)
open Shell
open Shell.Running
open ToolOption (flag setting)

/-! ### What paths lead to -/

/-- The place of a path, where nothing needs to stand. -/
def placeOf (follow : Bool) (path : ByteText) : Running (Except FaultKind (List String)) := do
  pure ((← files).findPlace follow (Text.textOfBytes path))

/-- What a path leads to, with its place. -/
def nodeAt (follow : Bool) (path : ByteText) :
    Running (Except FaultKind (List String × FileNode)) := do
  pure ((← files).find follow (Text.textOfBytes path))

/-- Whether a path leads to a directory. -/
def isDirectory (path : ByteText) : Running Bool := do
  match ← nodeAt true path with
  | .ok (_, .dir) => pure true
  | _ => pure false

/-- Changes the files. -/
def changeTree (f : FileTree → FileTree) : Running Unit := do setFiles (f (← files))

/-- A path without slashes at its end. -/
def withoutSlashes (path : ByteText) : ByteText :=
  let cs := (path.toList.reverse.dropWhile (· == '/')).reverse
  if cs.isEmpty && path != "" then "/" else String.ofList cs

/-- The last name of a path. -/
def lastName (path : ByteText) : ByteText :=
  let path := withoutSlashes path
  if path = "/" then "/"
  else String.ofList (path.toList.reverse.takeWhile (· != '/')).reverse

/-- The path of a name in a directory. -/
def inDirectory (directory name : ByteText) : ByteText :=
  if Text.endsWith directory "/" then directory ++ name else directory ++ "/" ++ name

/-- The text of a place. -/
def placeText (place : List String) : ByteText := Builtin.wayText (place.map Text.bytesOf)

/-! ### Parts of paths -/

/-- A name without a text at its end, unless nothing is left. -/
def withoutSuffix (name suffix : ByteText) : ByteText :=
  if Text.endsWith name suffix && name != suffix && name != "/" then
    String.ofList (name.toList.take (name.length - suffix.length))
  else name

/-- Writes the last names of paths. -/
def basename : Tool := fun _ name args => do
  withArguments [flag "a" "multiple", setting "s" "suffix", flag "z" "zero"] false 1 name args
      fun a => do
    let ending := if a.has "z" then "\x00" else "\n"
    let multiple := a.hasAny ["a", "s"]
    match a.operands, multiple with
    | [], _ => misuse name "missing operand" 1
    | _ :: _ :: x :: _, false => misuse name ("extra operand " ++ inCurlyQuotes x) 1
    | [p, suffix], false => do
      print (withoutSuffix (lastName p) suffix ++ ending)
      pure 0
    | operands, _ => do
      operands.forM fun p => print (withoutSuffix (lastName p) ((a.value? "s").getD "") ++ ending)
      pure 0

/-- The path of the directory of a path. -/
def directoryName (path : ByteText) : ByteText :=
  let plain := withoutSlashes path
  if plain = "/" then "/"
  else
    let rest := plain.toList.reverse.dropWhile (· != '/')
    let before := (rest.dropWhile (· == '/')).reverse
    if rest.isEmpty then "."
    else if before.isEmpty then "/" else String.ofList before

/-- Writes the paths of the directories of paths. -/
def dirname : Tool := fun _ name args => do
  withArguments [flag "z" "zero"] false 1 name args fun a => do
    if a.operands.isEmpty then misuse name "missing operand" 1
    else do
      a.operands.forM fun p =>
        print (directoryName p ++ if a.has "z" then "\x00" else "\n")
      pure 0

/-! ### Places -/

/-- The place of a path. Its last name may be missing, or some names may be, or none. -/
def canonical (missing : String) (path : ByteText) : Running (Except FaultKind (List String)) := do
  match missing with
  | "none" => do pure ((← nodeAt true path).map (·.1))
  | "some" => do
    match ← nodeAt true path with
    | .ok n => pure (.ok n.1)
    | .error k => do
      if path = "" then pure (.error k)
      else do
        let p ← own
        let names := Builtin.plainWay (FileTree.namesOf (Text.textOfBytes
          (if Text.startsWith path "/" then path else inDirectory (placeText p.dir) path)))
        pure (.ok names)
  | _ => placeOf true (if path = "/" then path else withoutSlashes path)

/-- A place as it is seen from another one. -/
def relativePlace (start place : List String) : ByteText :=
  let rec common : List String → List String → Nat
    | a :: r, b :: s => if a == b then common r s + 1 else 0
    | _, _ => 0
  let n := common start place
  let names := List.replicate (start.length - n) ".." ++ place.drop n
  if names.isEmpty then "." else Text.join "/" (names.map Text.bytesOf)

/-- Writes the working directory. -/
def pwd : Tool := fun _ name args => do
  withArguments [flag "L" "logical", flag "P" "physical"] true 1 name args fun a => do
    if !a.operands.isEmpty then report name "ignoring non-option arguments"
    print (placeText (← own).dir ++ "\n")
    pure 0

/-- Writes the paths of programs. -/
def which : Tool := fun _ _ args => do
  let all := args.contains "-a"
  let names := args.filter fun a => a != "-a"
  let directories ← programDirectories
  let ok ← names.foldlM (fun ok n => do
    let paths := if n.toList.contains '/' then [n] else directories.map fun d => inDirectory d n
    let found ← paths.filterM fun p => do pure (← checkProgram p).isOk
    (if all then found.eraseDups else found.take 1).forM fun p => print (p ++ "\n")
    pure (ok && !found.isEmpty)) true
  pure (statusOf (ok && !names.isEmpty))

end RamlClient.Tools
