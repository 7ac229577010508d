import RamlClient.Files.Fault
import RamlClient.Files.Path
import RamlClient.Text.Line
/-!
# File trees

A file tree holds directories, files with their bytes, and links to other paths. Every operation
walks the names of a path from the root or from the working directory; each name on the way has to
lead to a directory.
-/

namespace RamlClient

/-- What stands at a place of a file tree. -/
inductive FileNode where
  /-- A directory. -/
  | dir
  /-- A file with its bytes; it may be a program. -/
  | file (content : ByteArray) (isProgram : Bool)
  /-- A link to a path. -/
  | link (target : String)

namespace FileNode

/-- Whether two nodes are the same. -/
def same : FileNode → FileNode → Bool
  | .dir, .dir => true
  | .file c p, .file d q => c.data == d.data && p == q
  | .link s, .link t => s == t
  | _, _ => false

/-- Whether a node is a directory. -/
def isDir : FileNode → Bool
  | .dir => true
  | _ => false

end FileNode

/-- A file tree. -/
structure FileTree where
  /-- The names from the root to the working directory. -/
  workingDir : List String
  /-- What stands below the root, by the names on the way. -/
  nodes : List (List String × FileNode)

namespace FileTree

/-- The largest number of bytes of a name. -/
def maxNameBytes : Nat := 255

/-- The number of bytes that a path has to stay below. -/
def pathBytes : Nat := 4096

/-- The largest number of links on a way. -/
def maxLinks : Nat := 40

/-- What stands at a place. -/
def node? (t : FileTree) (place : List String) : Option FileNode :=
  if place.isEmpty then some .dir
  else (t.nodes.find? fun n => n.1 == place).map (·.2)

/-- The tree with something at a place. -/
def put (t : FileTree) (place : List String) (node : FileNode) : FileTree :=
  { t with nodes :=
      if t.nodes.any (·.1 == place) then
        t.nodes.map fun n => if n.1 == place then (place, node) else n
      else t.nodes ++ [(place, node)] }

/-- The tree without what stands at a place and below it. -/
def remove (t : FileTree) (place : List String) : FileTree :=
  { t with nodes := t.nodes.filter fun n => !place.isPrefixOf n.1 }

/-! ### Ways -/

/-- The names between the slashes of a path. -/
def namesOf (path : String) : List String :=
  (Text.splitAtChar '/' path.toList).map String.ofList

/-- Follows names from a place through directories and links. The result is the place of the last
name, where nothing needs to stand. A link at the end is followed only if `follow` says so. `links`
bounds the number of links that are followed. -/
def walk (t : FileTree) (follow : Bool) (links : Nat) (place : List String) (names : List String) :
    Except FaultKind (List String) :=
  match names with
  | [] => .ok place
  | name :: r =>
    match t.node? place with
    | some .dir =>
      if name = "" || name = "." then walk t follow links place r
      else if name = ".." then walk t follow links place.dropLast r
      else if maxNameBytes < name.utf8ByteSize then .error .nameTooLong
      else match t.node? (place ++ [name]) with
        | some (.link target) =>
          if r.isEmpty && !follow then .ok (place ++ [name])
          else match links with
            | 0 => .error .linkLoop
            | links + 1 =>
              walk t follow links (if Text.startsWith target "/" then [] else place)
                (namesOf target ++ r)
        | _ => walk t follow links (place ++ [name]) r
    | some _ => .error .notDirectory
    | none => .error .absent
termination_by (links, names.length)

/-- The place that a path leads to. The empty path leads nowhere. -/
def findPlace (t : FileTree) (follow : Bool) (path : String) : Except FaultKind (List String) :=
  if pathBytes ≤ path.utf8ByteSize then .error .nameTooLong
  else if path = "" then .error .absent
  else t.walk follow maxLinks (if Text.startsWith path "/" then [] else t.workingDir) (namesOf path)

/-- What a path leads to, and its place. -/
def find (t : FileTree) (follow : Bool) (path : String) :
    Except FaultKind (List String × FileNode) := do
  let place ← t.findPlace follow path
  match t.node? place with
  | some n => pure (place, n)
  | none => throw .absent

/-- What a path leads to. -/
def look (t : FileTree) (p : Path) : Except FaultKind FileNode :=
  (t.find true p.text).map (·.2)

/-- Whether a path leads to a directory. -/
def isDir (t : FileTree) (p : Path) : Bool :=
  match t.look p with
  | .ok n => n.isDir
  | .error _ => false

/-! ### Files and directories -/

/-- The bytes of the file that a path leads to. -/
def readBytes (t : FileTree) (p : Path) : Except Fault ByteArray :=
  match t.look p with
  | .ok (.file content _) => .ok content
  | .ok .dir => .error ⟨.isDirectory, p.text⟩
  | .ok (.link _) => .error ⟨.linkLoop, p.text⟩
  | .error kind => .error ⟨kind, p.text⟩

/-- The tree with a new content at a place. A file that is there stays a program if it is one. -/
def fill (t : FileTree) (place : List String) (content : ByteArray) : Except FaultKind FileTree :=
  match t.node? place with
  | some .dir => .error .isDirectory
  | some (.file _ isProgram) => .ok (t.put place (.file content isProgram))
  | some (.link _) => .error .linkLoop
  | none => .ok (t.put place (.file content false))

/-- The tree with a new content of the file that a path leads to. -/
def writeBytes (t : FileTree) (p : Path) (content : ByteArray) : Except Fault FileTree :=
  let written := do t.fill (← t.findPlace true p.text) content
  written.mapError fun kind => ⟨kind, p.text⟩

/-- The tree with one more directory. -/
def makeDir (t : FileTree) (p : Path) : Except Fault FileTree :=
  match t.findPlace false p.text with
  | .error kind => .error ⟨kind, p.text⟩
  | .ok place =>
    match t.node? place with
    | some _ => .error ⟨.exists, p.text⟩
    | none => .ok (t.put place .dir)

/-- The tree with a directory at a path and on the way to it. A path that leads to a directory is
left alone. `depth` bounds the number of names on the way. -/
def makeDirsFrom (t : FileTree) (depth : Nat) (p : Path) : Except Fault FileTree :=
  match t.makeDir p with
  | .ok t' => .ok t'
  | .error fault =>
    if fault.kind = .absent then
      match depth with
      | 0 => .error fault
      | depth + 1 => do
        let t' ← makeDirsFrom t depth p.parent
        match t'.makeDir p with
        | .ok t'' => .ok t''
        | .error fault' => if t'.isDir p then .ok t' else .error fault'
    else if t.isDir p then .ok t
    else .error fault

/-- The tree with a directory at a path and on the way to it. -/
def makeDirs (t : FileTree) (p : Path) : Except Fault FileTree :=
  t.makeDirsFrom p.parts.length p

/-- The names of what stands in a directory. -/
def namesIn (t : FileTree) (place : List String) : List String :=
  t.nodes.filterMap fun n => if n.1.dropLast == place then n.1.getLast? else none

/-- The files of a tree below a directory, with the names on the way from there. A link counts as
the file that it leads to. -/
def filesBelow (t : FileTree) (place : List String) : List (List String × ByteArray) :=
  t.nodes.filterMap fun n =>
    if place.isPrefixOf n.1 then
      match n.2 with
      | .dir => none
      | .file content _ => some (n.1.drop place.length, content)
      | .link _ =>
        match t.find true ("/" ++ Text.join "/" n.1) with
        | .ok (_, .file content _) => some (n.1.drop place.length, content)
        | _ => none
    else none

/-- The tree with what stands at a place, and below it, moved to another place. What stood there is
gone. -/
def move (t : FileTree) (source target : List String) : FileTree :=
  let t := t.remove target
  { t with nodes := t.nodes.map fun n =>
      if source.isPrefixOf n.1 then (target ++ n.1.drop source.length, n.2) else n }

end FileTree

/-- The text that bytes encode, if they are UTF-8. -/
def decodeText? (bytes : ByteArray) : Option String := String.fromUTF8? bytes

/-- The text with all line ends written as line feeds. -/
def plainLineEnds (s : String) : String := String.ofList (Text.unifyLineEnds s.toList)

end RamlClient
