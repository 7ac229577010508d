import RamlClient.Client.TreeHost
import RamlClient.Proofs.Resolving
import RamlClient.Proofs.Saving
/-!
# Writing into a file tree

A file that is written into a tree can be read afterwards at the same path, unless a later one is
written to the same place. Two names in a directory lead to the same place only if a link has one of
them.
-/

namespace RamlClient

/-! ### Paths in a directory -/

/-- A text ends with a name: it is the name, or a slash stands before it. -/
def EndsWithName (text name : String) : Prop :=
  text.toList = name.toList ∨ ∃ before, text.toList = before ++ '/' :: name.toList

/-- A text that ends with a name has it as the last one of its names. -/
theorem EndsWithName.getLast?_namesOf {text name : String} (h : EndsWithName text name)
    (hname : '/' ∉ name.toList) : (FileTree.namesOf text).getLast? = some name := by
  have hsingle := Text.splitAtChar_of_notMem hname
  rw [FileTree.namesOf]
  obtain h | ⟨before, h⟩ := h
  · simp [h, hsingle]
  · rw [Text.splitAtChar] at hsingle ⊢
    simp [h, Text.splitWhere_append, hsingle]

namespace Path

/-- The anchor of a text is empty, or one or two slashes. -/
theorem anchorOf_mem (cs : List Char) : anchorOf cs ∈ ["", "/", "//"] := by
  rw [anchorOf.eq_def]
  split <;> simp

/-- The path of a name in a directory ends with the name. -/
theorem endsWithName_text (p : Path) (name : String) (h : p.anchor ∈ ["", "/", "//"]) :
    EndsWithName (⟨p.anchor, p.parts ++ [name]⟩ : Path).text name := by
  have htext : (⟨p.anchor, p.parts ++ [name]⟩ : Path).text =
    p.anchor ++ Text.join "/" (p.parts ++ [name]) := by
    simp [text]
  rw [EndsWithName, htext, String.toList_append]
  cases hparts : p.parts with
  | nil =>
    simp only [List.mem_cons, List.not_mem_nil, or_false] at h
    rcases h with h | h | h
    · exact .inl (by simp [h, Text.join])
    · exact .inr ⟨[], by simp [h, Text.join]⟩
    · exact .inr ⟨['/'], by simp [h, Text.join]⟩
  | cons part rest =>
    refine .inr ⟨p.anchor.toList ++ part.toList ++ rest.flatMap fun t => '/' :: t.toList, ?_⟩
    simp [Client.toList_join_cons]

/-- A text is that of a path if its anchor and its parts are. -/
theorem isPathText_text_iff (p : Path) : Document.isPathText p.text = true ↔
    '\x00' ∉ p.anchor.toList ∧ ∀ part ∈ p.parts, '\x00' ∉ part.toList := by
  rw [Document.isPathText, Bool.not_eq_true', List.contains_eq_mem, decide_eq_false_iff_not,
    mem_text (by decide) (by decide)]
  simp

end Path

namespace Client

/-- A name is a path of one part that leads to no directory by itself. -/
structure PlainName (name : String) : Prop where
  /-- The name is the only part of its path. -/
  ofText : Path.ofText name = ⟨"", [name]⟩
  /-- The name has no slash. -/
  slash : '/' ∉ name.toList
  /-- The name stands for itself. -/
  ordinary : name ∉ ["", ".", ".."]

/-- The path of a plain name in a directory has the name as its last part. -/
theorem PlainName.pathIn_eq {name : String} (h : PlainName name) (directory : Path) :
    pathIn directory name = ⟨directory.anchor, directory.parts ++ [name]⟩ := by
  rw [pathIn, h.ofText]
  rfl

/-- A name in a directory leads to a place of this name, unless a link has it. -/
theorem PlainName.getLast?_of_findPlace {name : String} (h : PlainName name) {t : FileTree}
    (hlink : ¬t.HasLink name) {directory : String} {place : List String}
    (hplace : t.findPlace true (pathIn (Path.ofText directory) name).text = .ok place) :
    place.getLast? = some name := by
  rw [h.pathIn_eq] at hplace
  have hlast := (Path.endsWithName_text (Path.ofText directory) name
    (Path.anchorOf_mem directory.toList)).getLast?_namesOf h.slash
  rw [FileTree.findPlace] at hplace
  split at hplace
  · cases hplace
  split at hplace
  · cases hplace
  exact FileTree.getLast?_of_walk h.ordinary hlink hlast hplace

/-- The text of a path of one name is the name. -/
theorem PlainName.text_path {name : String} : (⟨"", [name]⟩ : Path).text = name := by
  simp [Path.text, Text.join]

/-- A plain name is the only one between slashes. -/
theorem PlainName.namesOf_eq {name : String} (h : PlainName name) :
    FileTree.namesOf name = [name] := by
  simp [FileTree.namesOf, Text.splitAtChar_of_notMem h.slash]

/-- A plain name leads to the place of this name in the root, if no link stands there. -/
theorem PlainName.findPlace_eq_ok {name : String} (hname : PlainName name)
    (hshort : name.utf8ByteSize ≤ FileTree.maxNameBytes) {t : FileTree} (h : t.workingDir = [])
    (hlink : ∀ target, t.node? [name] ≠ some (.link target)) :
    t.findPlace true name = .ok [name] := by
  have hordinary := hname.ordinary
  simp only [List.mem_cons, List.not_mem_nil, or_false, not_or] at hordinary
  have hlong : ¬FileTree.pathBytes ≤ name.utf8ByteSize := by
    simp only [FileTree.pathBytes, FileTree.maxNameBytes] at hshort ⊢
    omega
  rw [FileTree.findPlace, if_neg hlong, if_neg hordinary.1, hname.namesOf_eq, h, ite_self]
  simp only [FileTree.walk, FileTree.node?_nil, hordinary, decide_false, Bool.or_self,
    Bool.false_eq_true, if_false, Nat.not_lt.2 hshort, List.nil_append]

/-- A link with a plain name leads to the place of the plain name that it contains, if no link
stands there. -/
theorem PlainName.findPlace_link {name target : String} (hname : PlainName name)
    (htarget : PlainName target) (hshort : name.utf8ByteSize ≤ FileTree.maxNameBytes)
    (hshort' : target.utf8ByteSize ≤ FileTree.maxNameBytes) {t : FileTree} (h : t.workingDir = [])
    (hlink : t.node? [name] = some (.link target))
    (hend : ∀ other, t.node? [target] ≠ some (.link other)) :
    t.findPlace true name = .ok [target] := by
  have hordinary := hname.ordinary
  have hordinary' := htarget.ordinary
  simp only [List.mem_cons, List.not_mem_nil, or_false, not_or] at hordinary hordinary'
  have hlong : ¬FileTree.pathBytes ≤ name.utf8ByteSize := by
    simp only [FileTree.pathBytes, FileTree.maxNameBytes] at hshort ⊢
    omega
  rw [FileTree.findPlace, if_neg hlong, if_neg hordinary.1, hname.namesOf_eq, h, ite_self]
  simp only [FileTree.walk, FileTree.node?_nil, hordinary, hordinary', decide_false, Bool.or_self,
    Bool.false_eq_true, if_false, Nat.not_lt.2 hshort, Nat.not_lt.2 hshort', List.nil_append, hlink,
    List.isEmpty_nil, Bool.not_true,
    Bool.and_false, FileTree.maxLinks, ite_self, htarget.namesOf_eq, List.append_nil]

/-! ### Operations on a tree -/

/-- A host works on the files of a tree, and its tools leave them alone. -/
structure WorksOnTree (host : Host FileTree) : Prop where
  /-- Directories are made in the tree. -/
  makeDirs : ∀ p, host.makeDirs p = changeTree fun t => t.makeDirs p
  /-- Files are written into the tree as UTF-8. -/
  writeFile : ∀ p text, host.writeFile p text = changeTree fun t => t.writeBytes p text.toUTF8
  /-- Tools change nothing. -/
  runTool : ∀ tool args t result t', (host.runTool tool args).run t = .ok result t' → t' = t

/-- A change of the tree that succeeds. -/
theorem run_changeTree_eq_ok {change : FileTree → Except Fault FileTree} {t t' : FileTree}
    {u : Unit} :
    (changeTree change).run t = .ok u t' ↔ change t = .ok t' := by
  rw [EStateM.run, changeTree]
  cases change t <;> simp

namespace WorksOnTree

variable {host : Host FileTree} {t t' : FileTree} {place : List String}

/-- An operation on files keeps the ways of the tree. -/
theorem keepsWays_of_perform (h : WorksOnTree host) {step : FileStep}
    (hrun : (step.perform host).run t = .ok () t') : t.KeepsWays t' := by
  cases step with
  | makeDirs p =>
    rw [FileStep.perform, h.makeDirs, run_changeTree_eq_ok] at hrun
    exact (FileTree.addsDirs_of_makeDirs hrun).ways
  | writeFile p text =>
    rw [FileStep.perform, h.writeFile, run_changeTree_eq_ok] at hrun
    obtain ⟨_, -, hways, -⟩ := FileTree.writeBytes_eq_ok hrun
    exact hways

/-- Operations keep the ways of a tree. -/
theorem keepsWays (h : WorksOnTree host) {steps : List FileStep}
    (hrun : (performAll host steps).run t = .ok () t') : t.KeepsWays t' := by
  induction steps generalizing t with
  | nil =>
    cases hrun
    exact .refl _
  | cons step steps ih =>
    obtain ⟨t₁, hstep, hsteps⟩ := run_performAll_cons_eq_ok.1 hrun
    exact (h.keepsWays_of_perform hstep).trans (ih hsteps)

/-- A file keeps its bytes if nothing is written to its place. -/
theorem hasFile (h : WorksOnTree host) {steps : List FileStep} {content : ByteArray}
    (hrun : (performAll host steps).run t = .ok () t')
    (hother : ∀ p text, .writeFile p text ∈ steps → t'.findPlace true p.text ≠ .ok place)
    (hfile : t.HasFile place content) : t'.HasFile place content := by
  induction steps generalizing t with
  | nil =>
    cases hrun
    exact hfile
  | cons step steps ih =>
    obtain ⟨t₁, hstep, hsteps⟩ := run_performAll_cons_eq_ok.1 hrun
    refine ih hsteps (fun p text hmem => hother p text (List.mem_cons_of_mem _ hmem)) ?_
    obtain ⟨isProgram, hnode⟩ := hfile
    cases step with
    | makeDirs p =>
      rw [FileStep.perform, h.makeDirs, run_changeTree_eq_ok] at hstep
      exact ⟨isProgram, (FileTree.addsDirs_of_makeDirs hstep).node _ _ hnode⟩
    | writeFile p text =>
      rw [FileStep.perform, h.writeFile, run_changeTree_eq_ok] at hstep
      obtain ⟨written, hwritten, hways, -, hsame⟩ := FileTree.writeBytes_eq_ok hstep
      have hne : place ≠ written := by
        rintro rfl
        exact hother p text List.mem_cons_self ((h.keepsWays hsteps).findPlace_eq_ok
          (hways.findPlace_eq_ok hwritten))
      exact ⟨isProgram, (hsame place hne).trans hnode⟩

/-- A file that has been written can be read, unless a later one is written to the same place. -/
theorem readBytes_eq_ok (h : WorksOnTree host) (before : List FileStep) {later : List FileStep}
    {p : Path} {text : String}
    (hrun : (performAll host (before ++ .writeFile p text :: later)).run t = .ok () t')
    (hlater : ∀ place, t'.findPlace true p.text = .ok place →
      ∀ q other, .writeFile q other ∈ later →
      t'.findPlace true q.text ≠ .ok place) :
    t'.readBytes p = .ok text.toUTF8 := by
  obtain ⟨t₁, -, hrest⟩ := run_performAll_append_eq_ok.1 hrun
  obtain ⟨t₂, hwrite, hsteps⟩ := run_performAll_cons_eq_ok.1 hrest
  rw [FileStep.perform, h.writeFile, run_changeTree_eq_ok] at hwrite
  obtain ⟨place, hplace, hways, hfile, -⟩ := FileTree.writeBytes_eq_ok hwrite
  have hplace' := (h.keepsWays hsteps).findPlace_eq_ok (hways.findPlace_eq_ok hplace)
  exact FileTree.readBytes_of_hasFile hplace' (h.hasFile hsteps (hlater place hplace') hfile)

end WorksOnTree

end Client

end RamlClient
