import RamlClient.Proofs.TextTrees
import RamlClient.Proofs.Visits
import RamlClient.Proofs.Writing
/-!
# Documents with included files

A cycle is reported only where a text that is visited includes a file on its own chain. Where no
text does, and all files can be read, the document is the tree of its text with the expansions of
the included files in the places of the inclusions. A file that is included in two places is
expanded in both: only the files on the way to a place are on the chain there.
-/

namespace RamlClient.Document

open Yaml (Loading ReadsTrees Tree treeOf? inclusionsOf)

/-- The text of a visit includes the file at a path. -/
def Visit.Includes (inclusions : String → List String) (v : Visit) (path : String) : Prop :=
  path ∈ inclusions v.text

section

variable {sources : Sources} {inclusions : String → List String} {tree? : String → Option Tree}
  {files : FileTree} {start v : Visit} {chain : List Path} {base target : Path} {path text : String}

/-! ### Cycles -/

/-- What is reported of a text that includes a file on its own chain: the chain, and the file once
more. -/
inductive Closes (includes : Visit → String → Prop) (files : FileTree) (start : Visit) :
    List String → Prop where
  /-- The text is visited, and it includes the file. -/
  | intro {v : Visit} {path : String} {target : Path} (h : Reaches includes files start v)
    (hpath : includes v path) (htarget : files.resolve (v.base ++ Path.ofText path) = .ok target)
    (hmem : target ∈ v.chain) : Closes includes files start ((v.chain ++ [target]).map Path.text)

/-- A reported cycle is one of a visit that asks for a file on its own chain. -/
theorem closes_of_visitFails {names : List String} {f : Failure}
    (hv : Reaches (Visit.Asks sources.yaml) sources.files start v) (h : VisitFails sources v f)
    (hf : f = readFailure (.includeCycle names)) :
    Closes (Visit.Asks sources.yaml) sources.files start names := by
  cases h with
  | @fault e _ => cases e <;> cases hf
  | unread hpath h =>
    cases h with
    | resolution => cases hf
    | cycle htarget hmem =>
      cases hf
      exact .intro hv hpath htarget hmem
    | unreadable => cases hf
    | bytes => cases hf

/-- A reader of trees asks only for what a text includes, so a cycle is one of the texts. -/
theorem Closes.includes (h : ReadsTrees sources.yaml inclusions tree?) {names : List String}
    (hcloses : Closes (Visit.Asks sources.yaml) files start names) :
    Closes (Visit.Includes inclusions) files start names := by
  obtain ⟨hv, hpath, htarget, hmem⟩ := hcloses
  exact .intro (hv.mono fun _ _ => h.asks) (h.asks hpath) htarget hmem

/-! ### Expansions -/

/-- The expansion of a text: its tree with the expansions of the included files in the places of the
inclusions. A file without an outline is a text there. -/
inductive Expands (inclusions : String → List String) (tree? : String → Option Tree)
    (files : FileTree) : Path → String → Value → Prop where
  /-- Every included file can be read, and has an expansion or is a text. -/
  | fill {base : Path} {text : String} {tree : Tree} {targets : String → Path}
    {texts : String → String} {content : String → Value} (htree : tree? text = some tree)
    (hopen : ∀ path ∈ inclusions text, opened? files base path = some (targets path, texts path))
    (houtline : ∀ path ∈ inclusions text, hasOutline (targets path) = true →
      Expands inclusions tree? files (targets path).parent (texts path) (content path))
    (htext : ∀ path ∈ inclusions text, hasOutline (targets path) = false →
      content path = .text (texts path)) :
    Expands inclusions tree? files base text (tree.fill content)

/-- No text that is visited includes a file on its own chain. -/
def Acyclic (inclusions : String → List String) (files : FileTree) (start : Visit) : Prop :=
  ∀ v path target, Reaches (Visit.Includes inclusions) files start v → path ∈ inclusions v.text →
    files.resolve (v.base ++ Path.ofText path) = .ok target → target ∉ v.chain

/-- Every text that is visited is a tree, every file it includes can be read, and none of them is on
its chain. -/
structure Expandable (inclusions : String → List String) (tree? : String → Option Tree)
    (files : FileTree) (start : Visit) : Prop where
  /-- The texts are trees. -/
  isTree : ∀ v, Reaches (Visit.Includes inclusions) files start v → ∃ tree, tree? v.text = some tree
  /-- The included files can be read. -/
  opened : ∀ v path, Reaches (Visit.Includes inclusions) files start v → path ∈ inclusions v.text →
    ∃ target text, opened? files v.base path = some (target, text)
  /-- There are no cycles. -/
  acyclic : Acyclic inclusions files start

/-- A file that is opened is off the chain where there are no cycles. -/
theorem Acyclic.notMem (h : Acyclic inclusions files v) (hpath : path ∈ inclusions v.text)
    (hopen : opened? files v.base path = some (target, text)) : target ∉ v.chain :=
  h v path target .start hpath (opened?_eq_some_iff.1 hopen).1

/-- There are no cycles on the way from an included file either. -/
theorem Acyclic.follow (h : Acyclic inclusions files v) (hpath : path ∈ inclusions v.text)
    (hopen : opened? files v.base path = some (target, text))
    (houtline : hasOutline target = true) :
    Acyclic inclusions files (v.follow target text) :=
  fun w path' target' hw => h w path' target' (hw.head hpath hopen (h.notMem hpath hopen) houtline)

/-- An included file can be expanded if the text that includes it can. -/
theorem Expandable.follow (h : Expandable inclusions tree? files v)
    (hpath : path ∈ inclusions v.text) (hopen : opened? files v.base path = some (target, text))
    (houtline : hasOutline target = true) :
    Expandable inclusions tree? files (v.follow target text) where
  isTree w hw := h.isTree w (hw.head hpath hopen (h.acyclic.notMem hpath hopen) houtline)
  opened w path' hw :=
    h.opened w path' (hw.head hpath hopen (h.acyclic.notMem hpath hopen) houtline)
  acyclic := h.acyclic.follow hpath hopen houtline

/-- Where there are no cycles, the value of a text is its expansion. -/
theorem textValue_of_expands (h : ReadsTrees sources.yaml inclusions tree?) {w : Value}
    (hexpands : Expands inclusions tree? sources.files base text w)
    (hacyclic : Acyclic inclusions sources.files ⟨chain, base, text⟩) :
    textValue sources chain base text = .ok w := by
  induction hexpands generalizing chain with
  | @fill base text tree targets texts content htree hopen _ htext ih =>
    rw [textValue_eq]
    refine (h.gives htree content).run_eq_ok fun path hasks => ?_
    have hpath := h.asks hasks
    have hnew := hacyclic.notMem hpath (hopen path hpath)
    rw [includedContent_of_opened? (hopen path hpath) hnew]
    cases houtline : hasOutline (targets path) with
    | true =>
      rw [if_pos rfl]
      exact ih path hpath houtline (hacyclic.follow hpath (hopen path hpath) houtline)
    | false => rw [if_neg nofun, htext path hpath houtline]

/-- A text has an expansion if all texts that are visited are trees, all files can be read and there
are no cycles. -/
theorem Expandable.exists_expands (h : Expandable inclusions tree? files v) :
    ∃ w, Expands inclusions tree? files v.base v.text w := by
  induction hn : Path.shortOff v.chain using Nat.strongRecOn generalizing v with
  | ind n ih =>
    subst hn
    obtain ⟨tree, htree⟩ := h.isTree v .start
    have hcontent : ∀ path, ∃ target text w, path ∈ inclusions v.text →
        opened? files v.base path = some (target, text) ∧
        (hasOutline target = true → Expands inclusions tree? files target.parent text w) ∧
        (hasOutline target = false → w = .text text) := by
      intro path
      by_cases hpath : path ∈ inclusions v.text
      · obtain ⟨target, text, hopen⟩ := h.opened v path .start hpath
        have hless := shortOff_lt_of_opened? hopen (h.acyclic.notMem hpath hopen)
        cases houtline : hasOutline target with
        | true =>
          obtain ⟨w, hw⟩ := ih _ hless (h.follow hpath hopen houtline) rfl
          refine ⟨target, text, w, fun _ => ⟨hopen, fun _ => hw, fun hfalse => ?_⟩⟩
          exact absurd (houtline.symm.trans hfalse) Bool.true_eq_false.mp
        | false =>
          refine ⟨target, text, .text text, fun _ => ⟨hopen, fun htrue => ?_, fun _ => rfl⟩⟩
          exact absurd (houtline.symm.trans htrue) Bool.false_ne_true
      · exact ⟨⟨"", []⟩, "", .null, fun h => absurd h hpath⟩
    choose targets texts content hcontent using hcontent
    refine ⟨tree.fill content, .fill htree (fun path hpath => (hcontent path hpath).1) ?_ ?_⟩
    · exact fun path hpath => (hcontent path hpath).2.1
    · exact fun path hpath => (hcontent path hpath).2.2

end

/-! ### Documents -/

/-- Reading a document comes to an end, whatever reads its texts as trees: there are finitely many
visits, along chains of different files. It reports a cycle only where a text that it visits
includes a file on its own chain. Where there are no cycles and everything can be read, the document
is the expansion of its text. -/
theorem read_expands_inclusions (sources : Sources) (inclusions : String → List String)
    (tree? : String → Option Tree) (h : ReadsTrees sources.yaml inclusions tree?)
    (directory : Option Path) (source : DocumentSource) :
    (∀ start, Starts sources directory source start →
      (∃ visits : List Visit, ∀ v, Reaches (Visit.Includes inclusions) sources.files start v →
        v ∈ visits) ∧
      ∀ v, Reaches (Visit.Includes inclusions) sources.files start v → v.chain.Nodup) ∧
    (∀ names, read sources directory source = .error (readFailure (.includeCycle names)) →
      ∃ start, Starts sources directory source start ∧
        Closes (Visit.Includes inclusions) sources.files start names) ∧
    ∀ start, Starts sources directory source start →
      Expandable inclusions tree? sources.files start →
      (∃ w, Expands inclusions tree? sources.files start.base start.text w) ∧
      ∀ entries, Expands inclusions tree? sources.files start.base start.text (.mapping entries) →
        read sources directory source = .ok entries := by
  refine ⟨?_, ?_, ?_⟩
  · intro start hstart
    refine ⟨?_, fun v hreach => hreach.nodup hstart.nodup⟩
    exact exists_visits sources.files (fun v => inclusions v.text) (fun _ _ => id) start
  · intro names hread
    cases source with
    | entries entries => cases hread
    | location location =>
      rcases read_eq_error hread with hunvisited | ⟨start, v, hstart, hv, hfails⟩ | ⟨_, hmapping⟩
      · cases hunvisited
      · exact ⟨start, hstart, (closes_of_visitFails hv hfails rfl).includes h⟩
      · cases hmapping
  · intro start hstart hexpandable
    refine ⟨hexpandable.exists_expands, ?_⟩
    intro entries hentries
    exact hstart.read_eq_ok (textValue_of_expands h hentries hexpandable.acyclic)

/-! ### A document that includes a file twice -/

section

variable {files : FileTree} {sources : Sources} {visits : List Visit} {v start : Visit}
  {chain : List Path} {base : Path} {path text : String}

/-- The keys and the paths of a mapping of inclusions. -/
def inclusionEntries? : Tree → Option (List (String × String))
  | .mapping entries => entries.mapM fun
    | (.text key, .inclusion path) => some (key, path)
    | _ => none
  | _ => none

/-- A tree with the keys and the paths of a mapping of inclusions is this mapping. -/
theorem eq_mapping_of_inclusionEntries? {tree : Tree} {es : List (String × String)}
    (h : inclusionEntries? tree = some es) :
    tree = .mapping (es.map fun e => (.text e.1, .inclusion e.2)) := by
  cases tree with
  | mapping entries =>
    unfold inclusionEntries? at h
    congr 1
    induction entries generalizing es with
    | nil =>
      obtain rfl : [] = es := Option.some.inj h
      rfl
    | cons e entries ih =>
      obtain ⟨b, rest, hb, hrest, rfl⟩ := Yaml.mapM_cons_eq_some.1 h
      split at hb
      · obtain rfl := Option.some.inj hb
        rw [ih hrest]
        rfl
      · cases hb
  | _ => cases h

/-- A text is a mapping of inclusions with certain keys and paths. -/
def IsInclusions (text : String) (es : List (String × String)) : Prop :=
  (treeOf? text).bind inclusionEntries? = some es ∧ inclusionsOf text = es.map (·.2)

instance (text : String) (es : List (String × String)) : Decidable (IsInclusions text es) :=
  inferInstanceAs (Decidable (_ ∧ _))

/-- The path that names lead to out of a directory, if there are no links and the working directory
is the root. -/
def plainTarget (base : Path) (path : String) : Path := (base ++ Path.ofText path).normalized []

/-- The text of the file at a resolved path, if it can be read. -/
def textAt? (files : FileTree) (target : Path) : Option String :=
  match files.readBytes target with
  | .error _ => none
  | .ok bytes => (decodeText? bytes).map plainLineEnds

/-- The names of a path out of a directory can stand in paths. -/
def PlainNames (base : Path) (path : String) : Prop :=
  ∀ n ∈ (base ++ Path.ofText path).parts, Path.defect? n = none

instance (base : Path) (path : String) : Decidable (PlainNames base path) :=
  inferInstanceAs (Decidable (∀ n ∈ _, _))

/-- A tree without links in which the working directory is the root. -/
structure IsPlain (files : FileTree) : Prop where
  /-- There are no links. -/
  noLinks : files.NoLinks
  /-- The working directory is the root. -/
  workingDir : files.workingDir = []

/-- In a plain tree a path is resolved to where its names lead. -/
theorem IsPlain.resolve_eq (h : IsPlain files) (hnames : PlainNames base path) :
    files.resolve (base ++ Path.ofText path) = .ok (plainTarget base path) := by
  have hdir : ∀ n ∈ files.workingDir, Path.defect? n = none := by
    rw [h.workingDir]
    exact fun _ hn => absurd hn List.not_mem_nil
  rw [h.noLinks.resolve_eq hdir hnames, h.workingDir, plainTarget]

/-- In a plain tree a file is opened where its names lead. -/
theorem IsPlain.opened?_eq (h : IsPlain files) (hnames : PlainNames base path) :
    opened? files base path =
      (textAt? files (plainTarget base path)).map (plainTarget base path, ·) := by
  rw [opened?, h.resolve_eq hnames, textAt?]
  dsimp only
  cases files.readBytes (plainTarget base path) with
  | error fault => rfl
  | ok bytes => exact (Option.map_map _ _ _).symm

/-- A path leads to a file with a text. -/
def LeadsTo (files : FileTree) (base : Path) (path : String) (target : Path) (text : String) :
    Prop :=
  PlainNames base path ∧ plainTarget base path = target ∧ textAt? files target = some text

/-- What a path leads to is opened. -/
theorem LeadsTo.opened? {target : Path} (h : LeadsTo files base path target text)
    (hplain : IsPlain files) :
    opened? files base path = some (target, text) := by
  obtain ⟨hnames, rfl, htext⟩ := h
  rw [hplain.opened?_eq hnames, htext]
  rfl

/-- The expansion of a mapping of inclusions. -/
theorem Expands.of_isInclusions {es : List (String × String)} (targets : String → Path)
    (texts : String → String) (content : String → Value) (h : IsInclusions text es)
    (hopen : ∀ e ∈ es, opened? files base e.2 = some (targets e.2, texts e.2))
    (houtline : ∀ e ∈ es, hasOutline (targets e.2) = true →
      Expands inclusionsOf treeOf? files (targets e.2).parent (texts e.2) (content e.2))
    (htext : ∀ e ∈ es, hasOutline (targets e.2) = false → content e.2 = .text (texts e.2)) :
    Expands inclusionsOf treeOf? files base text
      (.ofEntries (es.map fun e => (.text e.1, content e.2))) := by
  obtain ⟨hentries, hpaths⟩ := h
  obtain ⟨tree, htree, hes⟩ := Option.bind_eq_some_iff.1 hentries
  have hfill : tree.fill content = .ofEntries (es.map fun e => (.text e.1, content e.2)) := by
    rw [eq_mapping_of_inclusionEntries? hes, Tree.fill, Tree.fillEntries_eq_map, List.map_map]
    rfl
  have hforall {P : String → Prop} (h : ∀ e ∈ es, P e.2) : ∀ path ∈ inclusionsOf text, P path := by
    rw [hpaths]
    exact List.forall_mem_map.2 h
  rw [← hfill]
  exact .fill htree (hforall hopen) (hforall houtline) (hforall htext)

/-- A path leads to a file off the chain, and the visit of the file is one of some visits if it has
an outline. -/
def IsFollowed (files : FileTree) (visits : List Visit) (v : Visit) (path : String) : Prop :=
  ∃ target text, LeadsTo files v.base path target text ∧ target ∉ v.chain ∧
    (hasOutline target = true → v.follow target text ∈ visits)

section Closed

variable (hplain : IsPlain files)
  (hclosed : ∀ v ∈ visits, ∃ es, IsInclusions v.text es ∧ ∀ e ∈ es, IsFollowed files visits v e.2)

include hclosed

/-- What a text of closed visits includes is followed. -/
theorem isFollowed_of_mem (hv : v ∈ visits) (hpath : path ∈ inclusionsOf v.text) :
    IsFollowed files visits v path := by
  obtain ⟨es, ⟨-, hpaths⟩, hes⟩ := hclosed v hv
  rw [hpaths] at hpath
  obtain ⟨e, he, rfl⟩ := List.mem_map.1 hpath
  exact hes e he

include hplain

/-- Closed visits are all that one of them leads to. -/
theorem Reaches.mem (hstart : start ∈ visits)
    (h : Reaches (Visit.Includes inclusionsOf) files start v) : v ∈ visits := by
  induction h with
  | start => exact hstart
  | @follow v path text target _ hpath hopen _ houtline ih =>
    obtain ⟨target', text', hleads, -, hfollow⟩ := isFollowed_of_mem hclosed ih hpath
    cases (hleads.opened? hplain).symm.trans hopen
    exact hfollow houtline

/-- If no inclusion leads out of some visits, everything can be expanded from one of them on. -/
theorem expandable_of_closed (hstart : start ∈ visits) :
    Expandable inclusionsOf treeOf? files start where
  isTree v hv := by
    obtain ⟨es, ⟨hentries, -⟩, -⟩ := hclosed v (hv.mem hplain hclosed hstart)
    obtain ⟨tree, htree, -⟩ := Option.bind_eq_some_iff.1 hentries
    exact ⟨tree, htree⟩
  opened v path hv hpath := by
    obtain ⟨target, text, hleads, -⟩ :=
      isFollowed_of_mem hclosed (hv.mem hplain hclosed hstart) hpath
    exact ⟨target, text, hleads.opened? hplain⟩
  acyclic v path target hv hpath hresolve := by
    obtain ⟨target', text, ⟨hnames, rfl, -⟩, hnew, -⟩ :=
      isFollowed_of_mem hclosed (hv.mem hplain hclosed hstart) hpath
    rw [hplain.resolve_eq hnames] at hresolve
    exact Except.ok.inj hresolve ▸ hnew

end Closed

/-- A document in the directory it is read in. -/
theorem starts_api (hplain : IsPlain sources.files)
    (hfile : sources.files.HasFile ["api.raml"] text.toUTF8)
    (hs : decodeText? text.toUTF8 = some text) (hends : plainLineEnds text = text)
    (hheader : Text.startsWith (Text.trimLeft text) header = true) :
    Starts sources none (.location "api.raml") ⟨[pathOfPlace ["api.raml"]], ⟨"", []⟩, text⟩ := by
  have hname : Client.PlainName "api.raml" := ⟨by decide, by decide, by decide⟩
  have hplace : sources.files.findPlace true (Path.ofText "api.raml").text = .ok ["api.raml"] := by
    rw [hname.ofText, Client.PlainName.text_path]
    exact hname.findPlace_eq_ok (by decide) hplain.workingDir (hplain.noLinks _)
  have hnames : PlainNames ⟨"", []⟩ "api.raml" := by decide
  have hstart : Starts sources none (.location "api.raml")
      ⟨[plainTarget ⟨"", []⟩ "api.raml"], (Path.ofText "api.raml").parent, plainLineEnds text⟩ := by
    refine .file rfl (by decide) (FileTree.readBytes_of_hasFile hplace hfile) hs ?_
      (hplain.resolve_eq hnames)
    rwa [hends]
  rw [hends, hname.ofText] at hstart
  exact hstart

end

/-- A user. -/
def userText : String := "note: !include note.md\n"

/-- A list of users. -/
def usersText : String := "items: !include user.yml\n"

/-- A document in which a user stands alone and in a list of users. -/
def teamText : String := "#%RAML\nlead: !include team/user.yml\nall: !include team/users.yml\n"

/-- The files of the document. -/
def teamSources : Sources where
  files := ⟨[], [
    (["api.raml"], .file teamText.toUTF8 false),
    (["team"], .dir),
    (["team", "user.yml"], .file userText.toUTF8 false),
    (["team", "users.yml"], .file usersText.toUTF8 false),
    (["team", "note.md"], .file "A user.".toUTF8 false)]⟩
  fetch := fun _ => none
  yaml := Yaml.Outline.reader

/-- The directory of the included files. -/
def teamDirectory : Path := pathOfPlace ["team"]

/-- The path of an included file. -/
def teamPath (name : String) : Path := pathOfPlace ["team", name]

/-- The first visit of the document. -/
def teamStart : Visit := ⟨[pathOfPlace ["api.raml"]], ⟨"", []⟩, teamText⟩

/-- The visits of the document: the user is visited twice. -/
def teamVisits : List Visit :=
  let api := pathOfPlace ["api.raml"]
  let user := teamPath "user.yml"
  let users := teamPath "users.yml"
  [teamStart, ⟨[api, user], teamDirectory, userText⟩, ⟨[api, users], teamDirectory, usersText⟩,
    ⟨[api, users, user], teamDirectory, userText⟩]

/-- No links are in a tree if none are among its nodes. -/
theorem noLinks_of_forall {files : FileTree}
    (h : (files.nodes.all fun n => match n.2 with | .link _ => false | _ => true) = true) :
    files.NoLinks := by
  intro place target hnode
  rw [FileTree.node?] at hnode
  split at hnode
  · cases hnode
  · obtain ⟨n, hn, hlink⟩ := Option.map_eq_some_iff.1 hnode
    have hall := List.all_eq_true.1 h n (List.mem_of_find?_eq_some hn)
    rw [hlink] at hall
    cases hall

/-- The files of the document are in a plain tree. -/
theorem isPlain_team : IsPlain teamSources.files := ⟨noLinks_of_forall rfl, rfl⟩

/-- Reading the document starts with its own file. -/
theorem starts_team : Starts teamSources none (.location "api.raml") teamStart :=
  starts_api isPlain_team ⟨false, rfl⟩ (by decide) (by decide) (by decide)

/-- The value of the user. -/
def userValue : Value := .mapping [(.text "note", .text "A user.")]

/-- The value of the list of users. -/
def usersValue : Value := .mapping [(.text "items", userValue)]

/-- A name leads to a place in the directory of the included files. -/
theorem findPlace_teamPath {name : String}
    (hnames : FileTree.namesOf (teamPath name).text = ["", "team", name])
    (hordinary : name ∉ ["", ".", ".."])
    (hshort : (teamPath name).text.utf8ByteSize < FileTree.maxNameBytes)
    (hname : name.utf8ByteSize ≤ FileTree.maxNameBytes) :
    teamSources.files.findPlace true (teamPath name).text = .ok ["team", name] := by
  have hdir : teamSources.files.node? ["team"] = some .dir := rfl
  have htext : (teamPath name).text.toList = '/' :: ("team".toList ++ '/' :: name.toList) := by
    simp [teamPath, pathOfPlace, Path.text, Text.join]
  have hstart : Text.startsWith (teamPath name).text "/" = true := by
    simp [Text.startsWith, htext]
  have hteam : ¬FileTree.maxNameBytes < "team".utf8ByteSize := by decide
  simp only [List.mem_cons, List.not_mem_nil, or_false, not_or] at hordinary
  have hlong : ¬FileTree.pathBytes ≤ (teamPath name).text.utf8ByteSize := by
    simp only [FileTree.pathBytes, FileTree.maxNameBytes] at hshort ⊢
    omega
  have hempty : (teamPath name).text ≠ "" := by
    intro h
    simp [h] at htext
  rw [FileTree.findPlace, if_neg hlong, if_neg hempty, hnames, if_pos hstart]
  simp only [FileTree.walk, FileTree.node?_nil, decide_true, String.empty_eq_iff, String.reduceEq,
    decide_false, Bool.or_false, if_true, if_false, Bool.or_self, Bool.false_eq_true, hteam,
    List.nil_append, hdir, hordinary,
    Nat.not_lt.2 hname, List.cons_append, List.isEmpty_nil, Bool.not_true, Bool.and_false]
  split
  · rename_i target hlink
    exact absurd hlink (isPlain_team.noLinks _ target)
  · rfl

/-- Where the paths in the texts lead. -/
theorem leadsTo_team : LeadsTo teamSources.files teamDirectory "note.md"
    (teamPath "note.md") "A user." ∧
    LeadsTo teamSources.files teamDirectory "user.yml" (teamPath "user.yml") userText ∧
    LeadsTo teamSources.files teamStart.base "team/user.yml" (teamPath "user.yml") userText ∧
    LeadsTo teamSources.files teamStart.base "team/users.yml" (teamPath "users.yml") usersText := by
  have htext {name text : String}
    (hplace : teamSources.files.findPlace true (teamPath name).text = .ok ["team", name])
    (hfile : teamSources.files.HasFile ["team", name] text.toUTF8)
    (hs : (decodeText? text.toUTF8).map plainLineEnds = some text) :
      textAt? teamSources.files (teamPath name) = some text := by
    rw [textAt?, FileTree.readBytes_of_hasFile hplace hfile]
    exact hs
  have hnote : textAt? teamSources.files (teamPath "note.md") = some "A user." := by
    refine htext (findPlace_teamPath ?_ ?_ ?_ ?_) ⟨false, rfl⟩ ?_ <;> decide +kernel
  have huser : textAt? teamSources.files (teamPath "user.yml") = some userText := by
    refine htext (findPlace_teamPath ?_ ?_ ?_ ?_) ⟨false, rfl⟩ ?_ <;> decide
  have husers : textAt? teamSources.files (teamPath "users.yml") = some usersText := by
    refine htext (findPlace_teamPath ?_ ?_ ?_ ?_) ⟨false, rfl⟩ ?_ <;> decide +kernel
  exact ⟨⟨by decide +kernel, by decide +kernel, hnote⟩,
    ⟨by decide +kernel, by decide +kernel, huser⟩, ⟨by decide +kernel, by decide +kernel, huser⟩,
    ⟨by decide +kernel, by decide +kernel, husers⟩⟩

/-- Of the files that are read, those of users are outlines and the note is text. -/
theorem hasOutline_team : ¬hasOutline (teamPath "note.md") = true ∧
    hasOutline (teamPath "user.yml") = true ∧
    hasOutline (teamPath "users.yml") = true := by decide +kernel

/-- The texts are mappings of inclusions. -/
theorem isInclusions_team : IsInclusions userText [("note", "note.md")] ∧
    IsInclusions usersText [("items", "user.yml")] ∧
    IsInclusions teamText [("lead", "team/user.yml"), ("all", "team/users.yml")] := by
  decide +kernel

/-- Everything in the document can be expanded. -/
theorem expandable_team : Expandable inclusionsOf treeOf? teamSources.files teamStart := by
  obtain ⟨huser, husers, hteam⟩ := isInclusions_team
  obtain ⟨hnote, hitem, hlead, hall⟩ := leadsTo_team
  have hclosed : ∀ v ∈ teamVisits, ∃ es, IsInclusions v.text es ∧
      ∀ e ∈ es, IsFollowed teamSources.files teamVisits v e.2 := by
    refine List.forall_mem_cons.2
      ⟨⟨_, hteam, List.forall_mem_cons.2 ⟨?_, List.forall_mem_singleton.2 ?_⟩⟩, ?_⟩
    · exact ⟨_, _, hlead, by decide +kernel, by decide +kernel⟩
    · exact ⟨_, _, hall, by decide +kernel, by decide +kernel⟩
    refine List.forall_mem_cons.2 ⟨⟨_, huser, List.forall_mem_singleton.2 ?_⟩, ?_⟩
    · exact ⟨_, _, hnote, by decide +kernel, by decide +kernel⟩
    refine List.forall_mem_cons.2 ⟨⟨_, husers, List.forall_mem_singleton.2 ?_⟩, ?_⟩
    · exact ⟨_, _, hitem, by decide +kernel, by decide +kernel⟩
    refine List.forall_mem_singleton.2 ⟨_, huser, List.forall_mem_singleton.2 ?_⟩
    exact ⟨_, _, hnote, by decide +kernel, by decide +kernel⟩
  exact expandable_of_closed isPlain_team hclosed List.mem_cons_self

/-- The user has a note. -/
theorem expands_user :
    Expands inclusionsOf treeOf? teamSources.files teamDirectory userText userValue := by
  have hopen := leadsTo_team.1.opened? isPlain_team
  refine .of_isInclusions (fun _ => teamPath "note.md") (fun _ => "A user.")
    (fun _ => .text "A user.") isInclusions_team.1 (List.forall_mem_singleton.2 hopen) ?_
      (fun _ _ _ => rfl)
  exact fun _ _ h => absurd h hasOutline_team.1

/-- The list of users has the user. -/
theorem expands_users :
    Expands inclusionsOf treeOf? teamSources.files teamDirectory usersText usersValue := by
  have hopen := leadsTo_team.2.1.opened? isPlain_team
  refine .of_isInclusions (fun _ => teamPath "user.yml") (fun _ => userText) (fun _ => userValue)
    isInclusions_team.2.1 (List.forall_mem_singleton.2 hopen) (fun _ _ _ => expands_user) ?_
  exact fun _ _ h => absurd (hasOutline_team.2.1.symm.trans h) Bool.true_eq_false.mp

/-- The document has the user twice. -/
theorem expands_team : Expands inclusionsOf treeOf? teamSources.files teamStart.base teamText
    (.mapping [(.text "lead", userValue), (.text "all", usersValue)]) := by
  obtain ⟨-, -, huser, husers⟩ := leadsTo_team
  obtain ⟨-, huserOutline, husersOutline⟩ := hasOutline_team
  refine .of_isInclusions
    (fun path => if path = "team/user.yml" then teamPath "user.yml" else teamPath "users.yml")
    (fun path => if path = "team/user.yml" then userText else usersText)
    (fun path => if path = "team/user.yml" then userValue else usersValue)
    isInclusions_team.2.2 ?_ ?_ ?_
  · exact List.forall_mem_cons.2 ⟨huser.opened? isPlain_team,
      List.forall_mem_singleton.2 (husers.opened? isPlain_team)⟩
  · exact List.forall_mem_cons.2
      ⟨fun _ => expands_user, List.forall_mem_singleton.2 fun _ => expands_users⟩
  · exact List.forall_mem_cons.2 ⟨fun h => absurd (huserOutline.symm.trans h) Bool.true_eq_false.mp,
      List.forall_mem_singleton.2 fun h =>
        absurd (husersOutline.symm.trans h) Bool.true_eq_false.mp⟩

/-! ### A document that includes itself -/

/-- Where all steps are inclusions, loading fails with the first one. -/
theorem run_loading_eq_error {ε : Type} {o : Yaml.Outline} {file : Nat}
    {content : String → Except ε Value} {failure : Yaml.YamlError → ε} {steps : List Yaml.Step}
    {path : String} {rest : List String} {f : ε}
    (hsteps : (steps.all fun step => step.path?.isSome) = true)
    (hpaths : steps.filterMap Yaml.Step.path? = path :: rest) (h : content path = .error f)
    (included : List Value) : (o.loading file included steps).run content failure = .error f := by
  cases steps with
  | nil => cases hpaths
  | cons step steps =>
    cases step with
    | inclusion path' =>
      obtain rfl : path' = path := (List.cons.inj hpaths).1
      rw [Yaml.Outline.loading, Loading.run, h]
    | key n => cases hsteps

/-- A mapping of inclusions fails as the first one of them. -/
theorem textValue_of_isInclusions {sources : Sources} (hyaml : sources.yaml = Yaml.Outline.reader)
    {chain : List Path} {base : Path} {text key path : String} {es : List (String × String)}
    {f : Failure} (h : IsInclusions text ((key, path) :: es))
    (hf : readIncluded sources.files chain base path = .error f) :
    textValue sources chain base text = .error f := by
  obtain ⟨hentries, hpaths⟩ := h
  obtain ⟨tree, htree, -⟩ := Option.bind_eq_some_iff.1 hentries
  obtain ⟨o, root, ho, -, hsteps, -⟩ := Yaml.exists_of_treeOf? htree
  rw [inclusionsOf, ho] at hpaths
  have hcontent : includedContent sources chain base path = .error f := by
    rw [includedContent, hf]
  rw [textValue_eq, hyaml, Yaml.Outline.reader, ho]
  exact run_loading_eq_error hsteps hpaths hcontent []

/-- A document that includes itself. -/
def loopText : String := "#%RAML\nself: !include ./api.raml\n"

/-- The only file. -/
def loopSources : Sources where
  files := ⟨[], [(["api.raml"], .file loopText.toUTF8 false)]⟩
  fetch := fun _ => none
  yaml := Yaml.Outline.reader

/-- The only visit. -/
def loopStart : Visit := ⟨[pathOfPlace ["api.raml"]], ⟨"", []⟩, loopText⟩

/-- The document is reported with its file and once more with it. -/
theorem read_loop : read loopSources none (.location "api.raml") =
    .error (readFailure (.includeCycle ["/api.raml", "/api.raml"])) := by
  have hplain : IsPlain loopSources.files := ⟨noLinks_of_forall rfl, rfl⟩
  have hstart : Starts loopSources none (.location "api.raml") loopStart :=
    starts_api hplain ⟨false, rfl⟩ (by decide) (by decide) (by decide)
  have htext : IsInclusions loopText [("self", "./api.raml")] := by decide +kernel
  have hnames : PlainNames loopStart.base "./api.raml" := by decide +kernel
  have hmem : plainTarget loopStart.base "./api.raml" ∈ loopStart.chain := by decide +kernel
  have hread :=
    textValue_of_isInclusions rfl htext (readIncluded_of_mem (hplain.resolve_eq hnames) hmem)
  have hcycle : (loopStart.chain ++ [plainTarget loopStart.base "./api.raml"]).map Path.text =
      ["/api.raml", "/api.raml"] := by decide +kernel
  rw [hcycle] at hread
  exact hstart.read_eq_error hread

/-- A document is expanded in which a file is included in two places, and one is reported that
includes itself. -/
theorem read_expands_inclusions_team :
    read teamSources none (.location "api.raml") =
      .ok [(.text "lead", userValue), (.text "all", usersValue)] ∧
    ∃ start, Starts loopSources none (.location "api.raml") start ∧
      Closes (Visit.Includes inclusionsOf) loopSources.files start ["/api.raml", "/api.raml"] := by
  have hteam := read_expands_inclusions teamSources inclusionsOf treeOf? Yaml.readsTrees_reader none
    (.location "api.raml")
  have hloop := read_expands_inclusions loopSources inclusionsOf treeOf? Yaml.readsTrees_reader none
    (.location "api.raml")
  exact ⟨(hteam.2.2 teamStart starts_team expandable_team).2 _ expands_team, hloop.2.1 _ read_loop⟩

end RamlClient.Document
