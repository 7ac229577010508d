import RamlClient.Client.Session
/-!
# A file tree as a host

A file tree is a host together with a table of web addresses, a reader of YAML texts, and tools that
work on the tree. No time passes on it.
-/

namespace RamlClient.Client

/-- Changes the tree, or has a fault and leaves it as it is. -/
def changeTree (change : FileTree → Except Fault FileTree) : EStateM Fault FileTree Unit := fun t =>
  match change t with
  | .ok t' => .ok () t'
  | .error fault => .error fault t

/-- Looks at the tree. -/
def inspectTree {α : Type} (look : FileTree → Except Fault α) : EStateM Fault FileTree α := fun t =>
  match look t with
  | .ok a => .ok a t
  | .error fault => .error fault t

/-- Tools that work on file trees. -/
structure Toolbox where
  /-- Whether a tool can be found. -/
  has : String → Bool
  /-- Runs a tool, given its name and its arguments. -/
  run : FileTree → String → List String → Except Fault (ToolResult × FileTree)

/-- Runs a tool on the tree. -/
def runToolOnTree (tools : Toolbox) (name : String) (args : List String) :
    EStateM Fault FileTree ToolResult := fun t =>
  match tools.run t name args with
  | .ok (result, t') => .ok result t'
  | .error fault => .error fault t

/-- The host of file trees with a reader of YAML texts and some tools, given the contents at web
addresses. -/
def treeHost (yaml : Yaml.Reader) (tools : Toolbox) (fetch : String → Option ByteArray) :
    Host FileTree where
  sources t := ⟨t, fetch, yaml⟩
  makeDirs p := changeTree fun t => t.makeDirs p
  readFile p := inspectTree fun t => t.readBytes p
  writeFile p text := changeTree fun t => t.writeBytes p text.toUTF8
  hasTool := tools.has
  runTool := runToolOnTree tools
  now _ := 0

end RamlClient.Client
