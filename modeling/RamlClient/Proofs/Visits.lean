import Mathlib.Tactic.Choose
import RamlClient.Document
/-!
# The files that a document includes

A document is read together with the files that it includes, those that they include, and so on.
Each text is visited with the chain of files on the way to it, and paths in an included file lead
out of the directory of that file. A file is visited unless it is on the chain already. So no chain
has a file twice, and if each text includes finitely many files, there are finitely many visits.
-/

namespace RamlClient.Document

open Yaml (Loading)

/-! ### One inclusion -/

/-- The resolved path of the file that a path out of a directory leads to, and its text, if it can
be read. -/
def opened? (files : FileTree) (base : Path) (path : String) : Option (Path × String) :=
  match files.resolve (base ++ Path.ofText path) with
  | .error _ => none
  | .ok target =>
    match files.readBytes target with
    | .error _ => none
    | .ok bytes => (decodeText? bytes).map fun s => (target, plainLineEnds s)

/-- Why a file that a path out of a directory leads to is not read. -/
inductive Unread (files : FileTree) (chain : List Path) (base : Path) (path : String) :
    Failure → Prop where
  /-- The path cannot be resolved. -/
  | resolution {d : Defect} (h : files.resolve (base ++ Path.ofText path) = .error d) :
    Unread files chain base path (.defect d)
  /-- The file is on the way to itself. -/
  | cycle {target : Path} (h : files.resolve (base ++ Path.ofText path) = .ok target)
    (hmem : target ∈ chain) :
    Unread files chain base path (readFailure (.includeCycle ((chain ++ [target]).map Path.text)))
  /-- There is no file that can be read. -/
  | unreadable {target : Path} {fault : Fault}
    (h : files.resolve (base ++ Path.ofText path) = .ok target)
    (hnew : target ∉ chain) (hbytes : files.readBytes target = .error fault) :
    Unread files chain base path (readFailure (.unreadableInclude target.text))
  /-- The file is not UTF-8. -/
  | bytes {target : Path} {bytes : ByteArray}
    (h : files.resolve (base ++ Path.ofText path) = .ok target)
    (hnew : target ∉ chain) (hbytes : files.readBytes target = .ok bytes)
    (hdecode : decodeText? bytes = none) :
    Unread files chain base path (.defect .notUtf8)

section

variable {files : FileTree} {chain : List Path} {base : Path} {path : String}

/-- A file is opened if its path can be resolved and the file has a text. -/
theorem opened?_eq_some_iff {target : Path} {text : String} :
    opened? files base path = some (target, text) ↔
    files.resolve (base ++ Path.ofText path) = .ok target ∧
      ∃ bytes s, files.readBytes target = .ok bytes ∧ decodeText? bytes = some s ∧
        plainLineEnds s = text := by
  rw [opened?]
  split
  · rename_i hresolve
    simp [hresolve]
  · rename_i target' hresolve
    rw [hresolve]
    constructor
    · intro h
      split at h
      · cases h
      · rename_i bytes hbytes
        obtain ⟨s, hs, htarget⟩ := Option.map_eq_some_iff.1 h
        cases htarget
        exact ⟨rfl, bytes, s, hbytes, hs, rfl⟩
    · rintro ⟨⟨⟩, bytes, s, hbytes, hs, rfl⟩
      simp [hbytes, hs]

/-- A file has an included text if it is off the chain and can be read. -/
theorem includedText_eq_ok_iff {target : Path} {text : String} :
    includedText files chain target = .ok text ↔
    target ∉ chain ∧ ∃ bytes s, files.readBytes target = .ok bytes ∧ decodeText? bytes = some s ∧
      plainLineEnds s = text := by
  rw [includedText]
  split
  · rename_i hmem
    simp [hmem]
  rename_i hnew
  rw [and_iff_right hnew]
  split
  · rename_i hbytes
    simp [hbytes]
  · rename_i bytes hbytes
    split
    · rename_i s hs
      simp [hbytes, hs]
    · rename_i hs
      simp [hbytes, hs]

/-- An included file is the one that its path leads to, with its included text. -/
theorem readIncluded_eq_ok_iff_includedText {i : Included chain} :
    readIncluded files chain base path = .ok i ↔
    files.resolve (base ++ Path.ofText path) = .ok i.target ∧
      includedText files chain i.target = .ok i.text := by
  obtain ⟨target, text, hless⟩ := i
  rw [readIncluded]
  split
  · rename_i hresolve
    simp [hresolve]
  · rename_i target' hresolve
    rw [hresolve]
    split
    · rename_i f hincluded
      refine iff_of_false nofun ?_
      rintro ⟨⟨⟩, htext⟩
      cases hincluded.symm.trans htext
    · rename_i text' hincluded
      constructor
      · intro h
        cases h
        exact ⟨rfl, hincluded⟩
      · rintro ⟨⟨⟩, htext⟩
        cases hincluded.symm.trans htext
        rfl

/-- An included file is read if it can be opened and is off the chain. -/
theorem readIncluded_eq_ok_iff {i : Included chain} : readIncluded files chain base path = .ok i ↔
    opened? files base path = some (i.target, i.text) ∧ i.target ∉ chain := by
  rw [readIncluded_eq_ok_iff_includedText, includedText_eq_ok_iff, opened?_eq_some_iff, and_assoc,
    and_comm (a := i.target ∉ chain)]

/-- An included file that is not read is left unread for one of the reasons. -/
theorem unread_of_readIncluded {f : Failure} (h : readIncluded files chain base path = .error f) :
    Unread files chain base path f := by
  rw [readIncluded] at h
  split at h
  · rename_i d hresolve
    cases h
    exact .resolution hresolve
  · rename_i target hresolve
    split at h
    · rename_i f' hincluded
      obtain rfl : f' = f := Except.error.inj h
      rw [includedText] at hincluded
      split at hincluded
      · rename_i hmem
        cases hincluded
        exact .cycle hresolve hmem
      rename_i hnew
      split at hincluded
      · rename_i fault hbytes
        cases hincluded
        exact .unreadable hresolve hnew hbytes
      · rename_i bytes hbytes
        split at hincluded
        · cases hincluded
        · rename_i hdecode
          cases hincluded
          exact .bytes hresolve hnew hbytes hdecode
    · cases h

/-- A file on the chain is not read again. -/
theorem readIncluded_of_mem {target : Path}
    (h : files.resolve (base ++ Path.ofText path) = .ok target) (hmem : target ∈ chain) :
    readIncluded files chain base path =
      .error (readFailure (.includeCycle ((chain ++ [target]).map Path.text))) := by
  have hincluded : includedText files chain target =
      .error (readFailure (.includeCycle ((chain ++ [target]).map Path.text))) := by
    rw [includedText, if_pos hmem]
  rw [readIncluded, h]
  dsimp only
  split
  · rename_i f hf
    exact congrArg Except.error (Except.error.inj (hf.symm.trans hincluded))
  · rename_i text htext
    cases hincluded.symm.trans htext

/-- A file off the chain that can be opened leaves fewer short paths off the longer chain. -/
theorem shortOff_lt_of_opened? {target : Path} {text : String}
    (hopen : opened? files base path = some (target, text)) (hnew : target ∉ chain) :
    Path.shortOff (chain ++ [target]) < Path.shortOff chain := by
  obtain ⟨-, bytes, s, hbytes, -⟩ := opened?_eq_some_iff.1 hopen
  exact Path.shortOff_lt (FileTree.utf8ByteSize_lt_of_readBytes hbytes) hnew

end

/-! ### The value of a text -/

/-- The content of an included file. -/
def includedContent (sources : Sources) (chain : List Path) (base : Path) (path : String) :
    Except Failure Value :=
  match readIncluded sources.files chain base path with
  | .error failure => .error failure
  | .ok ⟨target, text, _⟩ =>
    if hasOutline target then textValue sources (chain ++ [target]) target.parent text
    else .ok (.text text)

section

variable {sources : Sources} {chain : List Path} {base : Path} {text path : String} {f : Failure}

/-- The value of a text is what loading it leads to with the contents of the included files. -/
theorem textValue_eq (sources : Sources) (chain : List Path) (base : Path) (text : String) :
    textValue sources chain base text =
      (sources.yaml chain.length text).run (includedContent sources chain base) yamlFailure := by
  rw [textValue]
  rfl

/-- An included file has no content if it cannot be read, or if its text has no value. -/
theorem includedContent_eq_error (h : includedContent sources chain base path = .error f) :
    Unread sources.files chain base path f ∨
      ∃ target text, opened? sources.files base path = some (target, text) ∧ target ∉ chain ∧
        hasOutline target = true ∧
          textValue sources (chain ++ [target]) target.parent text = .error f := by
  unfold includedContent at h
  split at h
  · rename_i f' hread
    obtain rfl : f' = f := Except.error.inj h
    exact .inl (unread_of_readIncluded hread)
  · rename_i target text hless hread
    obtain ⟨hopen, hnew⟩ := readIncluded_eq_ok_iff.1 hread
    split at h
    · rename_i houtline
      exact .inr ⟨target, text, hopen, hnew, houtline, h⟩
    · cases h

/-- A file off the chain that can be opened has the value of its text, or its text, as its
content. -/
theorem includedContent_of_opened? {target : Path}
    (hopen : opened? sources.files base path = some (target, text)) (hnew : target ∉ chain) :
    includedContent sources chain base path =
      if hasOutline target then textValue sources (chain ++ [target]) target.parent text
      else .ok (.text text) := by
  have hread : readIncluded sources.files chain base path =
      .ok ⟨target, text, shortOff_lt_of_opened? hopen hnew⟩ :=
    readIncluded_eq_ok_iff.2 ⟨hopen, hnew⟩
  rw [includedContent, hread]

end

/-! ### Visits -/

/-- A text on the way through a document. -/
structure Visit where
  /-- The files on the way to the text, with its own file. -/
  chain : List Path
  /-- The directory out of which paths in the text lead. -/
  base : Path
  /-- The text. -/
  text : String
deriving DecidableEq

namespace Visit

/-- The visit of a file on the way. Paths in the file lead out of its own directory. -/
def follow (v : Visit) (target : Path) (text : String) : Visit :=
  ⟨v.chain ++ [target], target.parent, text⟩

/-- Loading the text may ask for the file at a path. -/
def Asks (yaml : Yaml.Reader) (v : Visit) (path : String) : Prop :=
  (yaml v.chain.length v.text).Asks path

end Visit

/-- The visits that a first one leads to, given what visited texts include. -/
inductive Reaches (includes : Visit → String → Prop) (files : FileTree) (start : Visit) :
    Visit → Prop where
  /-- The first visit. -/
  | start : Reaches includes files start start
  /-- An included file with an outline is visited unless it is on the chain. -/
  | follow {v : Visit} {path text : String} {target : Path} (h : Reaches includes files start v)
    (hpath : includes v path) (hopen : opened? files v.base path = some (target, text))
    (hnew : target ∉ v.chain) (houtline : hasOutline target = true) :
    Reaches includes files start (v.follow target text)

section

variable {includes includes' : Visit → String → Prop} {files : FileTree} {start v : Visit}
  {path text : String} {target : Path}

/-- More inclusions lead to more visits. -/
theorem Reaches.mono (h : Reaches includes files start v)
    (himp : ∀ w path, includes w path → includes' w path) :
    Reaches includes' files start v := by
  induction h with
  | start => exact .start
  | follow _ hpath hopen hnew houtline ih => exact .follow ih (himp _ _ hpath) hopen hnew houtline

/-- What is reached from a file that a text includes is reached from the text. -/
theorem Reaches.head {w : Visit} (hpath : includes v path)
    (hopen : opened? files v.base path = some (target, text)) (hnew : target ∉ v.chain)
    (houtline : hasOutline target = true) (h : Reaches includes files (v.follow target text) w) :
    Reaches includes files v w := by
  induction h with
  | start => exact .follow .start hpath hopen hnew houtline
  | follow _ hpath hopen hnew houtline ih => exact .follow ih hpath hopen hnew houtline

/-- A visit is the first one, or it comes after the visit of a file that the first text includes. -/
theorem Reaches.eq_or_exists_follow {w : Visit} (h : Reaches includes files v w) : w = v ∨
    ∃ path target text, includes v path ∧ opened? files v.base path = some (target, text) ∧
      target ∉ v.chain ∧ Reaches includes files (v.follow target text) w := by
  induction h with
  | start => exact .inl rfl
  | @follow w path text target _ hpath hopen hnew houtline ih =>
    refine .inr ?_
    rcases ih with rfl | ⟨path', target', text', hpath', hopen', hnew', hreach⟩
    · exact ⟨path, target, text, hpath, hopen, hnew, .start⟩
    · exact ⟨path', target', text', hpath', hopen', hnew', .follow hreach hpath hopen hnew houtline⟩

/-! ### Chains -/

/-- No chain has a file twice if the first one has none twice. -/
theorem Reaches.nodup (h : Reaches includes files start v) (hstart : start.chain.Nodup) :
    v.chain.Nodup := by
  induction h with
  | start => exact hstart
  | follow _ _ _ hnew _ ih =>
    rw [Visit.follow, List.nodup_append]
    refine ⟨ih, List.pairwise_singleton _ _, ?_⟩
    intro a ha b hb hab
    obtain rfl := List.mem_singleton.1 hb
    exact hnew (hab ▸ ha)

/-- If every text includes finitely many files, there are finitely many visits: each one leaves
fewer short paths for those after it. -/
theorem exists_visits (files : FileTree) (inclusions : Visit → List String)
    (hincludes : ∀ v path, includes v path → path ∈ inclusions v) (start : Visit) :
    ∃ visits : List Visit, ∀ v, Reaches includes files start v → v ∈ visits := by
  induction hn : Path.shortOff start.chain using Nat.strongRecOn generalizing start with
  | ind n ih =>
    subst hn
    have hnext : ∀ path, ∃ visits : List Visit, ∀ target text,
        opened? files start.base path = some (target, text) → target ∉ start.chain →
        ∀ v, Reaches includes files (start.follow target text) v → v ∈ visits := by
      intro path
      by_cases hread : ∃ target text, opened? files start.base path = some (target, text) ∧
        target ∉ start.chain
      · obtain ⟨target, text, hopen, hnew⟩ := hread
        obtain ⟨visits, hvisits⟩ :=
          ih _ (shortOff_lt_of_opened? hopen hnew) (start.follow target text) rfl
        refine ⟨visits, ?_⟩
        intro target' text' hopen' _ v hv
        cases hopen.symm.trans hopen'
        exact hvisits v hv
      · exact ⟨[], fun target text hopen hnew => absurd ⟨target, text, hopen, hnew⟩ hread⟩
    choose next hnext using hnext
    refine ⟨start :: (inclusions start).flatMap next, ?_⟩
    intro v hv
    rcases hv.eq_or_exists_follow with rfl | ⟨path, target, text, hpath, hopen, hnew, hreach⟩
    · exact List.mem_cons_self
    · refine List.mem_cons_of_mem _ (List.mem_flatMap.2 ⟨path, hincludes _ _ hpath, ?_⟩)
      exact hnext path target text hopen hnew v hreach

end

/-! ### Failures on the way -/

/-- Why a visit ends reading a document. -/
inductive VisitFails (sources : Sources) (v : Visit) : Failure → Prop where
  /-- Loading the text may fail by itself. -/
  | fault {e : Yaml.YamlError} (h : (sources.yaml v.chain.length v.text).Fails e) :
    VisitFails sources v (yamlFailure e)
  /-- A file that loading the text may ask for is not read. -/
  | unread {path : String} {f : Failure} (hpath : v.Asks sources.yaml path)
    (h : Unread sources.files v.chain v.base path f) : VisitFails sources v f

/-- If a text has no value, one of the visits fails that it leads to. The induction is on the short
paths that are not on the way yet. -/
theorem exists_visitFails_of_textValue {sources : Sources} {chain : List Path} {base : Path}
    {text : String} {f : Failure} (h : textValue sources chain base text = .error f) :
    ∃ v, Reaches (Visit.Asks sources.yaml) sources.files ⟨chain, base, text⟩ v ∧
      VisitFails sources v f := by
  induction hn : Path.shortOff chain using Nat.strongRecOn generalizing chain base text with
  | ind n ih =>
    subst hn
    rw [textValue_eq] at h
    rcases Loading.run_eq_error h with ⟨e, hfails, rfl⟩ | ⟨path, hasks, hcontent⟩
    · exact ⟨_, .start, .fault hfails⟩
    · rcases includedContent_eq_error hcontent with hunread | ⟨target, text', hopen, hnew, houtline,
        hvalue⟩
      · exact ⟨_, .start, .unread hasks hunread⟩
      · obtain ⟨v, hv, hfails⟩ := ih _ (shortOff_lt_of_opened? hopen hnew) hvalue rfl
        exact ⟨v, hv.head hasks hopen hnew houtline, hfails⟩

/-! ### Documents -/

/-- The first visit of a document. The file of a document is on the chain from the start; there is
none at a web address. Paths lead out of the directory `base` if one is given. -/
inductive Starts (sources : Sources) (base : Option Path) : DocumentSource → Visit → Prop where
  /-- A file with a header. -/
  | file {location s : String} {bytes : ByteArray} {target : Path}
    (haddress : Url.isWebAddress location = .ok false) (hpath : Path.defect? location = none)
    (hbytes : sources.files.readBytes (Path.ofText location) = .ok bytes)
    (hs : decodeText? bytes = some s)
    (hheader : Text.startsWith (Text.trimLeft (plainLineEnds s)) header = true)
    (htarget : sources.files.resolve (Path.ofText location) = .ok target) :
    Starts sources base (.location location)
      ⟨[target], base.getD (Path.ofText location).parent, plainLineEnds s⟩
  /-- A text at a web address. -/
  | web {location s : String} (haddress : Url.isWebAddress location = .ok true)
    (hs : (sources.fetch (Url.requested location)).bind decodeText? = some s) :
    Starts sources base (.location location)
      ⟨[], base.getD (pathOfPlace sources.files.workingDir), s⟩

/-- Why a document at a location is not visited at all. -/
inductive Unvisited (sources : Sources) (location : String) : Failure → Prop where
  /-- The location starts like a web address whose host cannot be one. -/
  | address {e : Url.HostError} (h : Url.isWebAddress location = .error e) :
    Unvisited sources location (.defect .malformedUrl)
  /-- The web address does not answer with a text. -/
  | notFetched : Unvisited sources location (readFailure (.notFetched location))
  /-- The location cannot be a path. -/
  | path {d : Defect} (h : Path.defect? location = some d) : Unvisited sources location (.defect d)
  /-- The file cannot be read. -/
  | unreadable : Unvisited sources location (readFailure (.unreadable (Path.ofText location).text))
  /-- The file is not UTF-8. -/
  | bytes {bytes : ByteArray} (hbytes : sources.files.readBytes (Path.ofText location) = .ok bytes)
    (h : decodeText? bytes = none) : Unvisited sources location (.defect .notUtf8)
  /-- The file has no header. -/
  | header : Unvisited sources location (readFailure (.missingHeader (Path.ofText location).text))
  /-- The path of the file cannot be resolved. -/
  | resolution {d : Defect} (h : sources.files.resolve (Path.ofText location) = .error d) :
    Unvisited sources location (.defect d)

section

variable {sources : Sources} {directory : Option Path} {source : DocumentSource} {start : Visit}

/-- The first chain has no file twice. -/
theorem Starts.nodup (h : Starts sources directory source start) : start.chain.Nodup := by
  cases h with
  | file => exact List.pairwise_singleton _ _
  | web => exact .nil

/-- A document is the value of its text, which has to be a mapping. -/
theorem Starts.exists_read_eq (h : Starts sources directory source start) :
    ∃ origin, read sources directory source =
      (do requireMapping origin (← textValue sources start.chain start.base start.text)) := by
  cases h with
  | @file location s bytes target haddress hpath hbytes hs hheader htarget =>
    refine ⟨(Path.ofText location).text, ?_⟩
    simp only [read, haddress, hpath, readFile, hbytes, hs, hheader, htarget, if_true]
  | @web location s haddress hs =>
    refine ⟨location, ?_⟩
    simp only [read, haddress, readWeb, hs]

/-- A document whose text has a mapping as its value has the entries of the mapping. -/
theorem Starts.read_eq_ok (h : Starts sources directory source start)
    {entries : List (Value × Value)} (hvalue : textValue sources start.chain start.base start.text =
      .ok (.mapping entries)) :
    read sources directory source = .ok entries := by
  obtain ⟨origin, hread⟩ := h.exists_read_eq
  rw [hread, hvalue]
  rfl

/-- A document whose text has no value is not read for the same reason. -/
theorem Starts.read_eq_error (h : Starts sources directory source start) {f : Failure}
    (hvalue : textValue sources start.chain start.base start.text = .error f) :
    read sources directory source = .error f := by
  obtain ⟨origin, hread⟩ := h.exists_read_eq
  rw [hread, hvalue]
  rfl

/-- A document is not read because it is not visited, because one of its visits fails, or because it
is no mapping. -/
theorem read_eq_error {location : String} {f : Failure}
    (h : read sources directory (.location location) = .error f) :
    Unvisited sources location f ∨
    (∃ start v, Starts sources directory (.location location) start ∧
      Reaches (Visit.Asks sources.yaml) sources.files start v ∧ VisitFails sources v f) ∨
    ∃ origin, f = readFailure (.notMapping origin) := by
  have hvisited {start : Visit} {origin : String}
    (hstart : Starts sources directory (.location location) start)
    (h : (do requireMapping origin (← textValue sources start.chain start.base start.text)) =
      .error f) :
      (∃ start v, Starts sources directory (.location location) start ∧
        Reaches (Visit.Asks sources.yaml) sources.files start v ∧ VisitFails sources v f) ∨
      ∃ origin, f = readFailure (.notMapping origin) := by
    cases hvalue : textValue sources start.chain start.base start.text with
    | error f' =>
      rw [hvalue] at h
      obtain rfl : f' = f := Except.error.inj h
      obtain ⟨v, hv, hfails⟩ := exists_visitFails_of_textValue hvalue
      exact .inl ⟨start, v, hstart, hv, hfails⟩
    | ok v =>
      rw [hvalue] at h
      simp only [bind, Except.bind, requireMapping] at h
      split at h
      · cases h
      · exact .inr ⟨origin, (Except.error.inj h).symm⟩
  rw [read] at h
  split at h
  · rename_i e haddress
    cases h
    exact .inl (.address haddress)
  · rename_i haddress
    rw [readWeb] at h
    split at h
    · cases h
      exact .inl .notFetched
    · rename_i s hs
      exact .inr (hvisited (.web haddress hs) h)
  · rename_i haddress
    split at h
    · rename_i d hpath
      cases h
      exact .inl (.path hpath)
    rename_i hpath
    rw [readFile] at h
    split at h
    · cases h
      exact .inl .unreadable
    rename_i bytes hbytes
    split at h
    · rename_i hs
      cases h
      exact .inl (.bytes hbytes hs)
    rename_i s hs
    dsimp only at h
    split at h
    · rename_i hheader
      split at h
      · rename_i d hresolve
        cases h
        exact .inl (.resolution hresolve)
      · rename_i target htarget
        exact .inr (hvisited (.file haddress hpath hbytes hs hheader htarget) h)
    · cases h
      exact .inl .header

end

end RamlClient.Document
