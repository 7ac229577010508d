import RamlClient.Api.Build
import RamlClient.Files.Resolve
import RamlClient.Url
import RamlClient.Yaml.Loading
/-!
# Reading documents

A document is given by its entries, by the path of a file, or by a web address. The files that it
includes are read in place; a file that includes itself, directly or through others, is an error.

How YAML texts are read is a parameter: a reader asks for the content of each included file when it
comes to it, so of several faults the one that is reported is the first one that it comes to.
-/

namespace RamlClient

open Yaml (YamlError)

/-- Where documents are found, and how they are read. -/
structure Sources where
  /-- The files. -/
  files : FileTree
  /-- The content at a web address, if it answers. -/
  fetch : String → Option ByteArray
  /-- The reader of YAML texts. -/
  yaml : Yaml.Reader

/-- What gives a document. -/
inductive DocumentSource where
  /-- Its entries. -/
  | entries (entries : List (Value × Value))
  /-- The path of a file or a web address. -/
  | location (text : String)

namespace Document

/-- The failure that a part of a text without a value is. -/
def yamlFailure : YamlError → Failure
  | .malformed => .error (.read .malformed)
  | .defect d => .defect d

/-- The failure to read a document. -/
def readFailure (e : ReadError) : Failure := .error (.read e)

/-! ### Included files -/

/-- The resolved path of the file at a place. -/
def pathOfPlace (place : List String) : Path := ⟨"/", place⟩

/-- The endings of the names of files with outlines, in lower case. -/
def outlineSuffixes : List String := [".raml", ".yaml", ".yml", ".json"]

/-- Whether the file at a path has an outline; any other is a text. -/
def hasOutline (path : Path) : Bool := outlineSuffixes.contains (Text.lower path.suffix)

/-- Whether a text can be a path. -/
def isPathText (s : String) : Bool := !s.toList.contains '\x00'

/-- The text of the file that a resolved path leads to, given the chain of files on the way to
it. -/
def includedText (files : FileTree) (chain : List Path) (target : Path) : Except Failure String :=
  if target ∈ chain then .error (readFailure (.includeCycle ((chain ++ [target]).map Path.text)))
  else match files.readBytes target with
    | .error _ => .error (readFailure (.unreadableInclude target.text))
    | .ok bytes =>
      match decodeText? bytes with
      | some s => .ok (plainLineEnds s)
      | none => .error (.defect .notUtf8)

/-- Each included file leaves fewer paths off the chain by which files can be found. -/
theorem shortOff_lt {files : FileTree} {chain : List Path} {target : Path} {text : String}
    (h : includedText files chain target = .ok text) :
    Path.shortOff (chain ++ [target]) < Path.shortOff chain := by
  unfold includedText at h
  split at h
  · cases h
  rename_i hnew
  split at h
  · cases h
  · rename_i hbytes
    exact Path.shortOff_lt (FileTree.utf8ByteSize_lt_of_readBytes hbytes) hnew

/-- A file that is included, and its text. -/
structure Included (chain : List Path) where
  /-- The resolved path of the file. -/
  target : Path
  /-- The text of the file. -/
  text : String
  /-- Fewer paths are off the chain that the file is on. -/
  shortOff_lt : Path.shortOff (chain ++ [target]) < Path.shortOff chain

/-- Reads the file that a path out of a directory leads to. -/
def readIncluded (files : FileTree) (chain : List Path) (base : Path) (path : String) :
    Except Failure (Included chain) :=
  match files.resolve (base ++ Path.ofText path) with
  | .error d => .error (.defect d)
  | .ok target =>
    match h : includedText files chain target with
    | .error failure => .error failure
    | .ok text => .ok ⟨target, text, shortOff_lt h⟩

/-- The value of a text. `chain` holds the files on the way to it, and paths lead out of the
directory `base`. -/
def textValue (sources : Sources) (chain : List Path) (base : Path) (text : String) :
    Except Failure Value :=
  let content (path : String) : Except Failure Value :=
    match readIncluded sources.files chain base path with
    | .error failure => .error failure
    | .ok ⟨target, text, _⟩ =>
      if hasOutline target then textValue sources (chain ++ [target]) target.parent text
      else .ok (.text text)
  (sources.yaml chain.length text).run content yamlFailure
termination_by Path.shortOff chain

/-! ### Documents -/

/-- What the file of a document starts with, after white space. -/
def header : String := "#%RAML"

/-- The entries of a value that has to be a mapping. -/
def requireMapping (origin : String) (v : Value) : Except Failure (List (Value × Value)) :=
  match v.opened with
  | .mapping entries => .ok entries
  | _ => .error (readFailure (.notMapping origin))

/-- The entries of the document at a web address. -/
def readWeb (sources : Sources) (base : Option Path) (url : String) :
    Except Failure (List (Value × Value)) :=
  match (sources.fetch (Url.requested url)).bind decodeText? with
  | none => .error (readFailure (.notFetched url))
  | some text => do
    let base := base.getD (pathOfPlace sources.files.workingDir)
    requireMapping url (← textValue sources [] base text)

/-- The entries of the document in a file. -/
def readFile (sources : Sources) (base : Option Path) (path : Path) :
    Except Failure (List (Value × Value)) :=
  match sources.files.readBytes path with
  | .error _ => .error (readFailure (.unreadable path.text))
  | .ok bytes =>
    match decodeText? bytes with
    | none => .error (.defect .notUtf8)
    | some s =>
      let text := plainLineEnds s
      if Text.startsWith (Text.trimLeft text) header then
        match sources.files.resolve path with
        | .error d => .error (.defect d)
        | .ok file => do
          let base := base.getD path.parent
          requireMapping path.text (← textValue sources [file] base text)
      else .error (readFailure (.missingHeader path.text))

/-- The entries of a document. Paths in it lead out of the directory `base`, or else out of the
directory of its file. -/
def read (sources : Sources) (base : Option Path) : DocumentSource →
    Except Failure (List (Value × Value))
  | .entries entries => .ok entries
  | .location text =>
    match Url.isWebAddress text with
    | .error _ => .error (.defect .malformedUrl)
    | .ok true => readWeb sources base text
    | .ok false =>
      match Path.defect? text with
      | some d => .error (.defect d)
      | none => readFile sources base (Path.ofText text)

/-- The model of the API that a document describes. The document has to have a title. -/
def load (sources : Sources) (base : Option Path) (source : DocumentSource) :
    Except Failure Api.Model := do
  let entries ← read sources base source
  match Value.entryAt? entries "title" with
  | some (.text title) =>
    if title = "" then .error (readFailure .missingTitle)
    else Api.buildModel entries
  | _ => .error (readFailure .missingTitle)

end Document

end RamlClient
