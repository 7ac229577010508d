import RamlClient.Failure
import RamlClient.Files.Path
/-!
# Go packages under construction

A package has files, and a file has imports, type definitions, structs and functions. Everything is
created when it is first asked for and is never taken away. All definitions of a package share one
registry of identifiers, so that a name refers to one definition at most.
-/

namespace RamlClient.Go

/-- An argument of a function. -/
structure Arg where
  /-- The name of the argument. -/
  name : String
  /-- Its type. -/
  type : String
deriving DecidableEq, Repr

/-- A field of a struct. -/
structure Field where
  /-- The name of the field. -/
  name : String
  /-- Its type. -/
  type : String
  /-- Its tag, if it has one. -/
  tag : Option String
deriving DecidableEq, Repr

/-- A named type that is defined by another type. -/
structure TypeDef where
  /-- The name. -/
  name : String
  /-- The other type. -/
  type : String
deriving DecidableEq, Repr

/-- A struct. -/
structure Struct where
  /-- The name. -/
  name : String
  /-- The fields in the order in which they were added. -/
  fields : List Field
deriving DecidableEq, Repr

/-- A function or method. -/
structure Func where
  /-- The name. -/
  name : String
  /-- The receiver of a method. -/
  receiver : Option String
  /-- The arguments in the order in which they were added. -/
  args : List Arg
  /-- The types of the results. -/
  results : List String
  /-- The pieces of the body. -/
  body : List String
deriving DecidableEq, Repr

/-- A source file. -/
structure File where
  /-- The path of the file in the package's directory. -/
  path : String
  /-- The imported packages, in order and without repetition. -/
  imports : List String
  /-- The type definitions in the order of their creation. -/
  typeDefs : List TypeDef
  /-- The structs in the order of their creation. -/
  structs : List Struct
  /-- The functions in the order of their creation. -/
  funcs : List Func
deriving DecidableEq, Repr

/-- The kinds of definitions. -/
inductive DefinitionKind where
  /-- A type definition. -/
  | typeDef
  /-- A struct. -/
  | struct
  /-- A function. -/
  | func
deriving DecidableEq, Repr

/-- Where a definition is found. -/
structure Site where
  /-- The path of its file. -/
  file : String
  /-- What kind of definition it is. -/
  kind : DefinitionKind
  /-- Its own name. -/
  name : String
deriving DecidableEq, Repr

/-- What the registry knows of a name. -/
inductive Entry where
  /-- The name belongs to a definition outside the files of the package. -/
  | reserved
  /-- The name is declared, but nothing keeps it from being declared again. -/
  | vacant
  /-- The name belongs to a definition. -/
  | defined (site : Site)
deriving DecidableEq, Repr

/-- A definition. -/
inductive Definition where
  /-- A type definition. -/
  | typeDef (d : TypeDef)
  /-- A struct. -/
  | struct (d : Struct)
  /-- A function. -/
  | func (d : Func)
deriving DecidableEq, Repr

namespace Definition

/-- The name of a definition. -/
def name : Definition → String
  | .typeDef d => d.name
  | .struct d => d.name
  | .func d => d.name

/-- The kind of a definition. -/
def kind : Definition → DefinitionKind
  | .typeDef _ => .typeDef
  | .struct _ => .struct
  | .func _ => .func

/-- Where a definition is found if it stands in the file at a path. -/
def site (d : Definition) (path : String) : Site := ⟨path, d.kind, d.name⟩

end Definition

/-- A file that is copied into the package with its package clause changed. -/
inductive Include where
  /-- A file at a path. -/
  | file (path : Path)
  /-- A text that becomes a file of the given name. -/
  | text (name content : String)
deriving DecidableEq, Repr

/-- A package under construction. -/
structure Package where
  /-- The source files in the order of their creation. -/
  files : List File
  /-- The files that are copied in. -/
  includes : List Include
  /-- The registry of identifiers. -/
  registry : List (String × Entry)
deriving DecidableEq, Repr

/-! ### Lists of named things -/

/-- Adds an import, keeping the order. -/
def insertImport (path : String) : List String → List String
  | [] => [path]
  | p :: r =>
    if path < p then path :: p :: r
    else if path = p then p :: r
    else p :: insertImport path r

namespace File

/-- A file without content. -/
def empty (path : String) : File := ⟨path, [], [], [], []⟩

/-- The type definition of a name. -/
def typeDef? (f : File) (name : String) : Option TypeDef := f.typeDefs.find? (·.name == name)

/-- The struct of a name. -/
def struct? (f : File) (name : String) : Option Struct := f.structs.find? (·.name == name)

/-- The function of a name. -/
def func? (f : File) (name : String) : Option Func := f.funcs.find? (·.name == name)

/-- Whether the file has a type definition of a name. -/
def hasTypeDef (f : File) (name : String) : Bool := (f.typeDef? name).isSome

/-- Whether the file has a struct of a name. -/
def hasStruct (f : File) (name : String) : Bool := (f.struct? name).isSome

/-- Adds imports. -/
def addImports (f : File) (paths : List String) : File :=
  { f with imports := paths.foldl (fun ps p => insertImport p ps) f.imports }

/-- Changes the struct of a name. -/
def updateStruct (f : File) (name : String) (change : Struct → Struct) : File :=
  { f with structs := f.structs.map fun s => if s.name = name then change s else s }

/-- Changes the function of a name. -/
def updateFunc (f : File) (name : String) (change : Func → Func) : File :=
  { f with funcs := f.funcs.map fun g => if g.name = name then change g else g }

/-- The definition of a kind and a name. -/
def definition? (f : File) (kind : DefinitionKind) (name : String) : Option Definition :=
  match kind with
  | .typeDef => (f.typeDef? name).map .typeDef
  | .struct => (f.struct? name).map .struct
  | .func => (f.func? name).map .func

/-- Adds a definition after those of its kind. -/
def add (f : File) : Definition → File
  | .typeDef d => { f with typeDefs := f.typeDefs ++ [d] }
  | .struct d => { f with structs := f.structs ++ [d] }
  | .func d => { f with funcs := f.funcs ++ [d] }

end File

namespace Package

/-- A package without content. -/
def empty : Package := ⟨[], [], []⟩

/-- The file at a path. -/
def file? (p : Package) (path : String) : Option File := p.files.find? (·.path == path)

/-- The package with a file at a path. -/
def withFile (p : Package) (path : String) : Package :=
  match p.file? path with
  | some _ => p
  | none => { p with files := p.files ++ [File.empty path] }

/-- Changes the file at a path. -/
def updateFile (p : Package) (path : String) (change : File → File) : Package :=
  { p with files := p.files.map fun f => if f.path = path then change f else f }

/-- The package with one more file to copy, unless it is there already. -/
def withInclude (p : Package) (i : Include) : Package :=
  if i ∈ p.includes then p else { p with includes := p.includes ++ [i] }

/-! ### The registry -/

/-- What the registry knows of a name. -/
def entryOf? (p : Package) (name : String) : Option Entry :=
  (p.registry.find? fun e => e.1 == name).map (·.2)

/-- Whether a name is declared. -/
def isDeclared (p : Package) (name : String) : Bool := (p.entryOf? name).isSome

/-- The definition at a site. -/
def definitionAt? (p : Package) (site : Site) : Option Definition :=
  (p.file? site.file).bind fun f => f.definition? site.kind site.name

/-- The definition that a name refers to. -/
def lookup (p : Package) (name : String) : Option Definition :=
  match p.entryOf? name with
  | some (.defined site) => p.definitionAt? site
  | _ => none

/-- The registry with an entry for a name. -/
def setEntry (registry : List (String × Entry)) (name : String) (entry : Entry) :
    List (String × Entry) :=
  if registry.any (·.1 == name) then
    registry.map fun e => if e.1 = name then (name, entry) else e
  else registry ++ [(name, entry)]

/-- Whether a name can be given an entry: no other definition has it. -/
def isFree (p : Package) (name : String) (entry : Entry) : Bool :=
  match p.entryOf? name with
  | none => true
  | some .vacant => true
  | some e => e == entry

/-- Registers a name. -/
def claim (p : Package) (name : String) (entry : Entry) : Except Error Package :=
  if p.isFree name entry then .ok { p with registry := setEntry p.registry name entry }
  else .error (.duplicateIdentifier name)

/-- Registers a name for whatever another name refers to. -/
def claimAs (p : Package) (name other : String) : Except Error Package :=
  p.claim name <|
    match p.entryOf? other with
    | some (.defined site) => .defined site
    | _ => .vacant

/-- Reserves names for definitions outside the package's files, up to the first that is taken. -/
def reserve (p : Package) : List String → Package × Except Error Unit
  | [] => (p, .ok ())
  | name :: rest =>
    match p.claim name .reserved with
    | .ok q => q.reserve rest
    | .error e => (p, .error e)

/-! ### Definitions -/

/-- The package with a definition in a file. If the file has one of the same kind and name, that one
stays as it is. -/
def declare (p : Package) (path : String) (d : Definition) : Except Error Package :=
  let p := p.withFile path
  if (p.file? path).any (fun f => (f.definition? d.kind d.name).isSome) then .ok p
  else do
    let p ← p.claim d.name (.defined (d.site path))
    pure (p.updateFile path (·.add d))

/-- The package with a type definition in a file. One that is there keeps its type. -/
def declareTypeDef (p : Package) (path name type : String) : Except Error Package :=
  p.declare path (.typeDef ⟨name, type⟩)

/-- The package with a struct in a file. One that is there keeps its fields. -/
def declareStruct (p : Package) (path name : String) : Except Error Package :=
  p.declare path (.struct ⟨name, []⟩)

/-- The package with a function in a file. One that is there keeps its content. -/
def declareFunc (p : Package) (path name : String) : Except Error Package :=
  p.declare path (.func ⟨name, none, [], [], []⟩)

/-- The package with one more field in a struct. -/
def addField (p : Package) (path name : String) (field : Field) : Package :=
  p.updateFile path fun f => f.updateStruct name fun s => { s with fields := s.fields ++ [field] }

/-- Changes a function. -/
def updateFunc (p : Package) (path name : String) (change : Func → Func) : Package :=
  p.updateFile path fun f => f.updateFunc name change

/-- The struct of a name in a file. -/
def struct? (p : Package) (path name : String) : Option Struct :=
  (p.file? path).bind fun f => f.struct? name

end Package

end RamlClient.Go
