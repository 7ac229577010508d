import RamlClient.Proofs.Resolving
import RamlClient.Proofs.Visits
/-!
# Why a document is a defect

Loading a document may end with a defect, for which there is no report. Each one has its cause in
the location, in the bytes of a file, in a path that is included, in what a text says, or in the
entries of the document.
-/

namespace RamlClient

/-- A text that the sources hold. -/
inductive Sources.HasText (sources : Sources) : String → Prop where
  /-- The text of a file. -/
  | file {place : List String} {bytes : ByteArray} {isProgram : Bool} {s : String}
    (hnode : sources.files.node? place = some (.file bytes isProgram))
    (h : decodeText? bytes = some s) :
    sources.HasText (plainLineEnds s)
  /-- The text at a web address. -/
  | web {url s : String} (h : (sources.fetch url).bind decodeText? = some s) : sources.HasText s

namespace Document

/-- Why a path cannot be resolved. -/
inductive Unresolved (files : FileTree) (p : Path) : Defect → Prop where
  /-- A name on the way cannot stand in a path. -/
  | name {name : String} {d : Defect} (h : files.resolve p = .error d) (hname : files.OnWay p name)
    (hdefect : Path.defect? name = some d) : Unresolved files p d
  /-- Links on the way lead to links without an end. -/
  | loop (h : files.resolve p = .error .linkLoop) : Unresolved files p .linkLoop

/-- Why a visit is a defect. -/
inductive VisitDefect (sources : Sources) (v : Visit) : Defect → Prop where
  /-- The path of a file that the text may ask for cannot be resolved. -/
  | path {path : String} {d : Defect} (hpath : v.Asks sources.yaml path)
    (h : Unresolved sources.files (v.base ++ Path.ofText path) d) : VisitDefect sources v d
  /-- A file that the text may ask for is not UTF-8. -/
  | bytes {path : String} {target : Path} {bytes : ByteArray} (hpath : v.Asks sources.yaml path)
    (htarget : sources.files.resolve (v.base ++ Path.ofText path) = .ok target)
    (hnew : target ∉ v.chain)
    (hbytes : sources.files.readBytes target = .ok bytes) (h : decodeText? bytes = none) :
    VisitDefect sources v .notUtf8
  /-- Loading the text may end with the defect. -/
  | text {d : Defect} (h : (sources.yaml v.chain.length v.text).Fails (.defect d)) :
      VisitDefect sources v d

/-- Why the document at a location is a defect. -/
inductive LocationDefect (sources : Sources) (location : String) : Defect → Prop where
  /-- The location starts like a web address whose host cannot be one. -/
  | address {e : Url.HostError} (h : Url.isWebAddress location = .error e) :
    LocationDefect sources location .malformedUrl
  /-- The location cannot be a path. -/
  | path {d : Defect} (h : Path.defect? location = some d) : LocationDefect sources location d
  /-- The file at the location is not UTF-8. -/
  | bytes {bytes : ByteArray} (hbytes : sources.files.readBytes (Path.ofText location) = .ok bytes)
    (h : decodeText? bytes = none) : LocationDefect sources location .notUtf8
  /-- The path of the file cannot be resolved. -/
  | resolution {d : Defect} (h : Unresolved sources.files (Path.ofText location) d) :
    LocationDefect sources location d
  /-- A visit of the document is a defect. -/
  | visit {start v : Visit} {d : Defect} (hstart : Starts sources none (.location location) start)
    (hv : Reaches (Visit.Asks sources.yaml) sources.files start v) (h : VisitDefect sources v d) :
    LocationDefect sources location d
  /-- The entries of the document are a defect. -/
  | model {entries : List (Value × Value)} {d : Defect}
    (hread : read sources none (.location location) = .ok entries)
    (h : Api.buildModel entries = .error (.defect d)) : LocationDefect sources location d

variable {sources : Sources} {location : String} {d : Defect}

/-- A path that is not resolved has a reason. -/
theorem unresolved_of_resolve {files : FileTree} {p : Path} (h : files.resolve p = .error d) :
    Unresolved files p d := by
  rcases FileTree.resolve_eq_error h with ⟨name, hname, hdefect⟩ | ⟨rfl, -⟩
  · exact .name h hname hdefect
  · exact .loop h

/-- The failure that an error of a reader is, is a defect only if the error is. -/
theorem yamlFailure_eq_defect {e : Yaml.YamlError} (h : yamlFailure e = .defect d) :
    e = .defect d := by
  cases e with
  | malformed => cases h
  | defect d' => exact congrArg Yaml.YamlError.defect (Failure.defect.inj h)

/-- A visit that fails with a defect is one. -/
theorem visitDefect_of_visitFails {v : Visit} {f : Failure} (h : VisitFails sources v f)
    (hd : f = .defect d) :
    VisitDefect sources v d := by
  cases h with
  | fault h =>
    rw [yamlFailure_eq_defect hd] at h
    exact .text h
  | unread hpath h =>
    cases h with
    | resolution h =>
      cases hd
      exact .path hpath (unresolved_of_resolve h)
    | cycle => cases hd
    | unreadable => cases hd
    | bytes htarget hnew hbytes hdecode =>
      cases hd
      exact .bytes hpath htarget hnew hbytes hdecode

/-- Reading and building the document at a location ends with a defect only for one of the
causes. -/
theorem locationDefect_of_load (h : load sources none (.location location) = .error (.defect d)) :
    LocationDefect sources location d := by
  rw [load] at h
  cases hread : read sources none (.location location) with
  | error f =>
    rw [hread] at h
    obtain rfl : f = .defect d := Except.error.inj h
    rcases read_eq_error hread with hunvisited | ⟨start, v, hstart, hv, hfails⟩ | ⟨_, hmapping⟩
    · cases hunvisited with
      | address haddress => exact .address haddress
      | path hpath => exact .path hpath
      | bytes hbytes hdecode => exact .bytes hbytes hdecode
      | resolution hresolve => exact .resolution (unresolved_of_resolve hresolve)
    · exact .visit hstart hv (visitDefect_of_visitFails hfails rfl)
    · cases hmapping
  | ok entries =>
    rw [hread] at h
    simp only [bind, Except.bind] at h
    split at h
    · split at h
      · cases h
      · exact .model hread h
    · cases h

/-- A file that is not UTF-8 is a defect as a document. -/
theorem load_of_decodeText?_eq_none {bytes : ByteArray}
    (haddress : Url.isWebAddress location = .ok false) (hpath : Path.defect? location = none)
    (hbytes : sources.files.readBytes (Path.ofText location) = .ok bytes)
    (h : decodeText? bytes = none) :
    load sources none (.location location) = .error (.defect .notUtf8) := by
  have hread : read sources none (.location location) = .error (.defect .notUtf8) := by
    simp only [read, haddress, hpath, readFile, hbytes, h]
  rw [load, hread]
  rfl

end Document

end RamlClient
