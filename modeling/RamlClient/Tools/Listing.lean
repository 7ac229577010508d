import RamlClient.Tools.Making
/-!
# Listing

Tools that tell what stands in directories and what is known about it.
-/

namespace RamlClient.Tools

open Text (ByteText)
open Shell
open Shell.Running
open ToolOption (flag setting)

/-- A text between double quotes. -/
def inDoubleQuotes (s : ByteText) : ByteText :=
  String.ofList ('\x22' :: (s.toList.flatMap fun c =>
    if c = '\x22' || c = '\\' then ['\\', c] else if isHidden c then escapeOf c else [c]) ++
      ['\x22'])

/-- The names of a directory in order. -/
def sortedNames (t : FileTree) (place : List String) : List ByteText :=
  ((t.namesIn place).map Text.bytesOf).mergeSort fun m n => !(n < m)

/-- What is listed: a name, and what it leads to at which place. -/
structure Listed where
  /-- The name. -/
  name : ByteText
  /-- The place. -/
  place : List String
  /-- What stands there. -/
  node : FileNode

/-- The number of bytes of a file; a directory has a size of its own. -/
def sizeOf : FileNode → Nat
  | .dir => 4096
  | .file content _ => content.size
  | .link target => target.utf8ByteSize

/-- The letter of a kind of file. -/
def kindLetter : FileNode → ByteText
  | .dir => "d"
  | .file _ _ => "-"
  | .link _ => "l"

namespace Listed

/-- The name with the mark that tells what it leads to. -/
def marked (a : ToolArguments) (l : Listed) : ByteText :=
  let mark := match l.node with
    | .dir => if a.hasAny ["F", "p"] then "/" else ""
    | .file _ isProgram => if a.has "F" && isProgram then "*" else ""
    | .link _ => if a.has "F" then "@" else ""
  (if a.has "Q" then inDoubleQuotes l.name else l.name) ++ mark

/-- The number of names that a file has. A directory has one also in itself and in each directory
that stands in it. -/
def links (t : FileTree) (l : Listed) : Nat :=
  match l.node with
  | .dir => 2 + ((t.namesIn l.place).filter fun n =>
      ((t.node? (l.place ++ [n])).map FileNode.isDir).getD false).length
  | _ => 1

/-- The space that a file takes up, in units of 1024 bytes. -/
def space (l : Listed) : Nat :=
  match l.node with
  | .dir => 4
  | .file content _ => 4 * ((content.size + 4095) / 4096)
  | .link _ => 0

/-- The name with what a link leads to. -/
def withTarget (a : ToolArguments) (l : Listed) : ByteText :=
  match l.node with
  | .link target =>
      (if a.has "Q" then inDoubleQuotes l.name else l.name) ++ " -> " ++ Text.bytesOf target
  | _ => l.marked a

end Listed

/-- Numbers in a column. -/
def inColumn (ns : List Nat) : List ByteText :=
  let texts := ns.map toString
  let width := (texts.map String.length).foldl max 0
  texts.map fun s => String.ofList (List.replicate (width - s.length) ' ') ++ s

/-- Whether a list has a line with details for each name. -/
def isDetailed (a : ToolArguments) : Bool :=
  ["l", "g", "n", "o"].contains ((a.last? ["1", "m", "x", "C", "l", "g", "n", "o"]).getD "")
    || (a.last? ["1"] = some "1" && a.hasAny ["l", "g", "n", "o"])

/-- Lines with details. All files are equally old. -/
def detailLines (a : ToolArguments) (t : FileTree) (ls : List Listed) : List ByteText :=
  let owner := if a.has "n" then "0 " else "root "
  let owners := (if a.has "g" then "" else owner) ++ (if a.hasAny ["o", "G"] then "" else owner)
  (ls.zip ((inColumn (ls.map (·.links t))).zip (inColumn (ls.map fun l => sizeOf l.node)))).map
    fun (l, links, size) =>
      kindLetter l.node ++ modeLetters (modeOf l.node) ++ " " ++ links ++ " " ++ owners ++ size ++
        " Jan  1 00:00 " ++ l.withTarget a

/-- Names as they are laid out. -/
def layOut (a : ToolArguments) (t : FileTree) (ls : List Listed) : ByteText :=
  let names := ls.map (·.marked a)
  if isDetailed a then Text.concat ((detailLines a t ls).map (· ++ "\n"))
  else match a.last? ["1", "m", "x", "C"] with
  | some "m" => if names.isEmpty then "" else Text.join ", " names ++ "\n"
  | some "x" => if names.isEmpty then "" else Text.join "  " names ++ "\n"
  | some "C" => if names.isEmpty then "" else Text.join "  " names ++ "\n"
  | _ => Text.concat (names.map (· ++ "\n"))

/-- What is listed in the order that options ask for. -/
def ordered (a : ToolArguments) (ls : List Listed) : List Listed :=
  let ls := if a.has "S" then ls.mergeSort fun m n => sizeOf n.node ≤ sizeOf m.node else ls
  if a.has "r" then ls.reverse else ls

/-- The list of what stands in a directory. -/
def directoryList (a : ToolArguments) (t : FileTree) (place : List String) : ByteText :=
  let names := sortedNames t place
  let names := if a.hasAny ["a", "A", "f"] then names
    else names.filter fun n => !Text.startsWith n "."
  let names := if a.hasAny ["a", "f"] then "." :: ".." :: names else names
  let listed (n : ByteText) : Listed :=
    if n = "." then ⟨n, place, .dir⟩
    else if n = ".." then ⟨n, place.dropLast, .dir⟩
    else
      let inner := place ++ [Text.textOfBytes n]
      ⟨n, inner, (t.node? inner).getD .dir⟩
  let ls := ordered a (names.map listed)
  let total := (ls.map Listed.space).foldl (· + ·) 0
  (if isDetailed a then "total " ++ toString total ++ "\n" else "") ++ layOut a t ls

/-- The directories below a place, with their paths. -/
def directoriesBelow (a : ToolArguments) (t : FileTree) : Nat → ByteText → List String →
    List (ByteText × List String)
  | 0, _, _ => []
  | depth + 1, path, place =>
    let names := (sortedNames t place).filter fun n =>
      a.hasAny ["a", "A"] || !Text.startsWith n "."
    let names := if a.has "r" then names.reverse else names
    (path, place) :: names.flatMap fun n =>
      let inner := place ++ [Text.textOfBytes n]
      match t.node? inner with
      | some .dir => directoriesBelow a t depth (inDirectory path n) inner
      | _ => []

/-- Lists what stands in directories. -/
def ls : Tool := fun _ name args => do
  let known := ToolOption.letters "BcCDfgGHiklLmnNoqsStuUvxXZ1" ++
    [flag "a" "all", flag "A" "almost-all", flag "d" "directory", flag "F" "classify",
     flag "h" "human-readable", flag "p" "", flag "Q" "quote-name", flag "r" "reverse",
     flag "R" "recursive", setting "I" "ignore", setting "T" "tabsize", setting "w" "width",
     ⟨"color", "color", .sometimes⟩, setting "sort" "sort", setting "time" "time",
     setting "format" "format", flag "group-directories-first" "group-directories-first"]
  withArguments known true 2 name args fun a => do
    let operands := if a.operands.isEmpty then ["."] else a.operands
    let follow := !a.hasAny ["d", "F", "l"]
    let found ← operands.mapM fun p => do
      let n ← nodeAt follow p
      let n ← match n with
        | .error .absent => nodeAt false p
        | n => pure n
      pure (p, n)
    found.forM fun f => do
      match f.2 with
      | .error k => report name ("cannot access " ++ inQuotes f.1 ++ ": " ++ k.wording)
      | .ok _ => pure ()
    let ok := found.all fun f => f.2.isOk
    let t ← files
    let there := found.filterMap fun f => match f.2 with
      | .ok n => some (f.1, n)
      | .error _ => none
    let there := there.mergeSort fun m n => !(n.1 < m.1)
    let (directories, others) := if a.has "d" then ([], there)
      else there.partition fun f => f.2.2.isDir
    let lines := layOut a t (ordered a (others.map fun f => ⟨f.1, f.2.1, f.2.2⟩))
    let directories := if a.has "r" then directories.reverse else directories
    let directories := if a.has "R" then
        directories.flatMap fun d => directoriesBelow a t 100 d.1 d.2.1
      else directories.map fun d => (d.1, d.2.1)
    let titled := 1 < operands.length || a.has "R"
    let blocks := directories.map fun d =>
      (if titled then d.1 ++ ":\n" else "") ++ directoryList a t d.2
    let blocks := if others.isEmpty then blocks else lines :: blocks
    print (Text.join "\n" blocks)
    pure (if ok then 0 else 2)

end RamlClient.Tools
