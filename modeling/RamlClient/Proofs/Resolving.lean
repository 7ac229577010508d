import RamlClient.Files.Resolve
import RamlClient.Proofs.FileTrees
import RamlClient.Proofs.Identifiers
/-!
# Where resolving leads

The names of a resolved path come from the path itself, from the working directory, or from links of
the tree, and a name that cannot stand in a path is one of them. In a tree without links a resolved
path is the normalized one.
-/

namespace RamlClient

namespace Path

variable {p : Path} {name : String} {P : String → Prop}

/-! ### The characters of paths -/

/-- Joined texts have the characters of each of them, and slashes. -/
theorem mem_toList_join {c : Char} (hc : c ≠ '/') (parts : List String) :
    c ∈ (Text.join "/" parts).toList ↔ ∃ part ∈ parts, c ∈ part.toList := by
  cases parts with
  | nil => simp [Text.join]
  | cons part rest => simp [Client.toList_join_cons, hc]

/-- The text of a path has the characters of its anchor and of its names, besides slashes and
dots. -/
theorem mem_text {c : Char} (hslash : c ≠ '/') (hdot : c ≠ '.') (p : Path) :
    c ∈ p.text.toList ↔ c ∈ p.anchor.toList ∨ ∃ part ∈ p.parts, c ∈ part.toList := by
  rw [text]
  split
  · rename_i hempty
    simp only [Bool.and_eq_true, decide_eq_true_eq, List.isEmpty_iff] at hempty
    rw [hempty.1, hempty.2]
    simp [hdot]
  · rw [String.toList_append, List.mem_append, mem_toList_join hslash]

/-- The character is a half that is no byte. -/
def IsLoneHalf (c : Char) : Prop := ∃ code, Text.halfCode? c = some code ∧
    ¬(0xdc80 ≤ code ∧ code ≤ 0xdcff)

/-- A text cannot stand in a path if it has a half that is no byte, or else the character with code
0. -/
theorem defect?_eq_some {s : String} {d : Defect} : defect? s = some d ↔
    (∃ c ∈ s.toList, IsLoneHalf c) ∧ d = .halfCharacter ∨
      (¬∃ c ∈ s.toList, IsLoneHalf c) ∧ '\x00' ∈ s.toList ∧ d = .malformedPath := by
  have hhalf (c : Char) :
    (Text.halfCode? c).any (fun code => !(decide (0xdc80 ≤ code) && decide (code ≤ 0xdcff)))
      = true ↔ IsLoneHalf c := by
    rw [Option.any_eq_true, IsLoneHalf]
    simp only [Bool.not_eq_true', Bool.and_eq_false_iff, decide_eq_false_iff_not, not_and_or]
  have hany : (s.toList.any fun c => (Text.halfCode? c).any fun code =>
      !(decide (0xdc80 ≤ code) && decide (code ≤ 0xdcff))) = true ↔
        ∃ c ∈ s.toList, IsLoneHalf c := by
    simp only [List.any_eq_true, hhalf]
  rw [defect?]
  dsimp only
  by_cases h : ∃ c ∈ s.toList, IsLoneHalf c
  · rw [if_pos (hany.2 h)]
    simp [h, eq_comm]
  · rw [if_neg (fun h' => h (hany.1 h')), List.contains_eq_mem]
    by_cases hnul : '\x00' ∈ s.toList
    · simp [h, hnul, eq_comm]
    · simp [h, hnul]

/-- If the text of a path below the root cannot stand in a path, one of its names cannot. -/
theorem exists_defect?_of_text {parts : List String} {d : Defect}
    (h : defect? (text ⟨"/", parts⟩) = some d) :
    ∃ name ∈ parts, defect? name = some d := by
  have hmem {c : Char} (hslash : c ≠ '/') (hdot : c ≠ '.') :
      c ∈ (text ⟨"/", parts⟩).toList ↔ ∃ part ∈ parts, c ∈ part.toList := by
    rw [mem_text hslash hdot]
    simp [hslash]
  have hlone {c : Char} (hc : IsLoneHalf c) : c ≠ '/' ∧ c ≠ '.' := by
    obtain ⟨code, hcode, -⟩ := hc
    have hplain : Text.halfCode? '/' = none ∧ Text.halfCode? '.' = none := by decide
    constructor <;> rintro rfl
    · cases hplain.1.symm.trans hcode
    · cases hplain.2.symm.trans hcode
  rcases defect?_eq_some.1 h with ⟨⟨c, hc, hhalf⟩, rfl⟩ | ⟨hnone, hnul, rfl⟩
  · obtain ⟨part, hpart, hc⟩ := (hmem (hlone hhalf).1 (hlone hhalf).2).1 hc
    exact ⟨part, hpart, defect?_eq_some.2 (.inl ⟨⟨c, hc, hhalf⟩, rfl⟩)⟩
  · obtain ⟨part, hpart, hc⟩ := (hmem (by decide) (by decide)).1 hnul
    refine ⟨part, hpart, defect?_eq_some.2 (.inr ⟨?_, hc, rfl⟩)⟩
    rintro ⟨c, hc, hhalf⟩
    exact hnone ⟨c, (hmem (hlone hhalf).1 (hlone hhalf).2).2 ⟨part, hpart, hc⟩, hhalf⟩

/-! ### The names of paths -/

/-- A path one name deeper has that name and those of the path. -/
theorem forall_parts_child (h : ∀ n ∈ p.parts, P n) (hname : P name) :
    ∀ n ∈ (p.child name).parts, P n := by
  intro n hn
  rcases List.mem_append.1 hn with hn | hn
  · exact h n hn
  · rwa [List.mem_singleton.1 hn]

/-- Leading up adds no names but `..`. -/
theorem forall_parts_above (h : ∀ n ∈ p.parts, P n) (hup : P "..") : ∀ n ∈ p.above.parts, P n := by
  unfold above
  split
  · split
    · exact h
    · exact forall_parts_child h hup
  · split
    · exact forall_parts_child h hup
    · exact fun n hn => h n ((List.dropLast_sublist _).subset hn)

/-- The names that are left of a way are names of it. -/
theorem mem_of_mem_climb {parts : List String} (h : name ∈ climb parts) : name ∈ parts := by
  suffices hfold : ∀ up : List String,
      name ∈ parts.foldl (fun up name => if name = ".." then up.tail else name :: up) up →
        name ∈ up ∨ name ∈ parts by
    rw [climb, List.mem_reverse] at h
    exact (hfold [] h).resolve_left List.not_mem_nil
  clear h
  induction parts with
  | nil => exact fun up h => .inl h
  | cons n parts ih =>
    intro up h
    rcases ih _ h with h | h
    · dsimp only at h
      split at h
      · exact .inl (List.mem_of_mem_tail h)
      · rcases List.mem_cons.1 h with rfl | h
        · exact .inr List.mem_cons_self
        · exact .inl h
    · exact .inr (List.mem_cons_of_mem _ h)

/-- The names of a normalized path are those of the path and of the directory it is seen from. -/
theorem mem_parts_normalized {workingDir : List String}
    (h : name ∈ (p.normalized workingDir).parts) :
    name ∈ workingDir ∨ name ∈ p.parts := by
  have h := mem_of_mem_climb h
  split at h
  · exact .inr h
  · exact List.mem_append.1 h

/-! ### Normalized paths -/

/-- What a name changes on the way up that has been gone. -/
def climbStep (up : List String) (name : String) : List String :=
  if name = ".." then up.tail else name :: up

/-- More names go on from where the names before them have led. -/
theorem climb_append (parts more : List String) :
    climb (parts ++ more) = (more.foldl climbStep (climb parts).reverse).reverse := by
  rw [climb, climb, List.foldl_append, List.reverse_reverse]
  rfl

/-- Leading up is the same as one more `..` when the path is normalized. -/
theorem climb_above (before : List String) (h : p.isAbsolute = true → before = []) :
    climb (before ++ p.above.parts) = climb (before ++ (p.parts ++ [".."])) := by
  rw [above]
  split
  · rename_i hlast
    rw [List.getLast?_eq_none_iff.1 hlast]
    split
    · rename_i habsolute
      rw [h habsolute, List.getLast?_eq_none_iff.1 hlast]
      rfl
    · rw [child, List.getLast?_eq_none_iff.1 hlast]
  · rename_i name hlast
    split
    · rw [child]
    · rename_i hname
      obtain ⟨parts, hparts⟩ := List.getLast?_eq_some_iff.1 hlast
      rw [parent, hparts, List.dropLast_concat, List.append_assoc, ← List.append_assoc before,
        climb_append _ ([name] ++ [".."])]
      simp [climbStep, hname]

/-- The path that names lead to one by one is the path with all of them, when it is normalized. -/
theorem normalized_foldl (workingDir parts : List String) (p : Path) :
    (parts.foldl (fun path name => if name = ".." then path.above else path.child name)
      p).normalized workingDir = (⟨p.anchor, p.parts ++ parts⟩ : Path).normalized workingDir := by
  induction parts generalizing p with
  | nil => rw [List.append_nil, List.foldl_nil]
  | cons name parts ih =>
    rw [List.foldl_cons, ih]
    have hanchor : (if name = ".." then p.above else p.child name).anchor = p.anchor := by
      split
      · rw [above]
        split
        · split <;> rfl
        · split <;> rfl
      · rfl
    have hclimb (before : List String) (h : p.isAbsolute = true → before = []) :
        climb (before ++ (if name = ".." then p.above else p.child name).parts) =
          climb (before ++ (p.parts ++ [name])) := by
      split
      · rename_i hname
        rw [hname, climb_above before h]
      · rfl
    have happend (before : List String) (h : p.isAbsolute = true → before = []) :
        climb (before ++ ((if name = ".." then p.above else p.child name).parts ++ parts)) =
          climb (before ++ (p.parts ++ name :: parts)) := by
      rw [← List.append_assoc, climb_append, hclimb before h, ← climb_append, List.append_assoc,
        List.append_assoc]
      rfl
    rw [normalized, normalized, hanchor]
    by_cases habsolute : p.isAbsolute = true
    · have h := happend [] fun _ => rfl
      simpa [isAbsolute, hanchor, show p.anchor ≠ "" by simpa [isAbsolute] using habsolute] using h
    · have h := happend workingDir fun h => absurd h habsolute
      simpa [isAbsolute, hanchor, show p.anchor = "" by simpa [isAbsolute] using habsolute] using h

end Path

namespace FileTree

/-- A name is met on the way along a path: it is in the path, in the working directory, or in a
link. -/
inductive OnWay (t : FileTree) (p : Path) (name : String) : Prop where
  /-- The name is in the path. -/
  | path (h : name ∈ p.parts)
  /-- The name leads to the working directory. -/
  | workingDir (h : name ∈ t.workingDir)
  /-- The name is in what a link contains. -/
  | link {place : List String} {target : String} (hlink : t.node? place = some (.link target))
    (h : name ∈ (Path.ofText target).parts)

variable {t : FileTree} {p q : Path} {d : Defect}

/-- A link that stands where a path leads is a node of the tree. -/
theorem exists_node_of_linkAt? {target : String} (h : t.linkAt? p = some target) :
    ∃ place, t.node? place = some (.link target) := by
  unfold linkAt? at h
  split at h
  · rename_i place target' hfind
    obtain rfl : target' = target := Option.some.inj h
    unfold find at hfind
    cases hplace : t.findPlace false p.text with
    | error kind => simp [hplace, bind, Except.bind] at hfind
    | ok place' =>
      rw [hplace] at hfind
      simp only [bind, Except.bind] at hfind
      split at hfind
      · rename_i node hnode
        cases hfind
        exact ⟨_, hnode⟩
      · cases hfind
  · cases h

/-- What following a path comes to, if the names on it and in links have a property: all names of
the result have it, and so has a name that cannot stand in a path. -/
theorem follow_names {P : String → Prop} (hup : P "..")
    (hlinks : ∀ place target, t.node? place = some (.link target) →
      ∀ n ∈ (Path.ofText target).parts, P n)
    {begun : List Path} {ends : List (Path × Path)} {path : Path} {steps : List WayStep}
    (hpath : ∀ n ∈ path.parts, P n) (hends : ∀ e ∈ ends, ∀ n ∈ e.2.parts, P n)
    (hsteps : ∀ n, .name n ∈ steps → P n) :
    (∀ q, t.follow begun ends path steps = .ok q → ∀ n ∈ q.parts, P n) ∧
    ∀ d, t.follow begun ends path steps = .error d → ∃ n, P n ∧ Path.defect? n = some d := by
  fun_induction follow t begun ends path steps
  case case1 => exact ⟨fun q hq => Except.ok.inj hq ▸ hpath, nofun⟩
  case case2 path link rest ih =>
    refine ih hpath ?_ fun n hn => hsteps n (List.mem_cons_of_mem _ hn)
    exact List.forall_mem_cons.2 ⟨hpath, hends⟩
  case case3 path rest ih =>
    exact ih (Path.forall_parts_above hpath hup) hends fun n hn =>
      hsteps n (List.mem_cons_of_mem _ hn)
  case case4 path n rest _ d hd =>
    refine ⟨nofun, fun d' hd' => ⟨n, hsteps n List.mem_cons_self, ?_⟩⟩
    rw [hd, Except.error.inj hd']
  case case5 path n rest _ _ _ ih =>
    exact ih (Path.forall_parts_child hpath (hsteps n List.mem_cons_self)) hends
      fun m hm => hsteps m (List.mem_cons_of_mem _ hm)
  case case6 path n rest _ _ target _ link place hplace ih =>
    exact ih (hends _ (List.mem_of_find?_eq_some hplace)) hends
      fun m hm => hsteps m (List.mem_cons_of_mem _ hm)
  case case7 path n rest _ _ target _ _ _ =>
    refine ⟨fun q hq m hm => ?_, nofun⟩
    obtain rfl := Except.ok.inj hq
    have hparts : m ∈ (path.child n).parts ++ rest.filterMap WayStep.name? := by
      simpa [Path.append, Path.isAbsolute] using hm
    rcases List.mem_append.1 hparts with hm | hm
    · exact Path.forall_parts_child hpath (hsteps n List.mem_cons_self) m hm
    · obtain ⟨step, hstep, hname⟩ := List.mem_filterMap.1 hm
      cases step with
      | name k =>
        obtain rfl : k = m := Option.some.inj hname
        exact hsteps _ (List.mem_cons_of_mem _ hstep)
      | arrival _ => cases hname
  case case8 path n rest _ _ target hlink _ _ way ih =>
    obtain ⟨place, hnode⟩ := exists_node_of_linkAt? hlink
    refine ih ?_ hends fun m hm => ?_
    · split
      · exact fun _ hm => absurd hm List.not_mem_nil
      · exact hpath
    · rcases List.mem_append.1 hm with hm | hm
      · obtain ⟨k, hk, hkm⟩ := List.mem_map.1 hm
        obtain rfl : k = m := WayStep.name.inj hkm
        exact hlinks _ _ hnode _ hk
      · rcases List.mem_cons.1 hm with hm | hm
        · cases hm
        · exact hsteps m (List.mem_cons_of_mem _ hm)

/-- The names that a path begins with to be followed are its own. -/
theorem name_mem_map {parts : List String} {n : String} (h : WayStep.name n ∈ parts.map .name) :
    n ∈ parts := by
  obtain ⟨m, hm, hmn⟩ := List.mem_map.1 h
  exact WayStep.name.inj hmn ▸ hm

/-- Following a path meets names that are on the way along it. -/
theorem onWay_follow :
    (∀ q, t.follow [] [] p.start (p.parts.map .name) = .ok q → ∀ n ∈ q.parts, n = ".." ∨
      t.OnWay p n) ∧
    ∀ d, t.follow [] [] p.start (p.parts.map .name) = .error d →
      ∃ n, (n = ".." ∨ t.OnWay p n) ∧ Path.defect? n = some d := by
  refine follow_names (.inl rfl) (fun place target hlink n hn => .inr (.link hlink hn)) ?_ ?_ ?_
  · exact fun _ hn => absurd hn List.not_mem_nil
  · exact fun _ he => absurd he List.not_mem_nil
  · exact fun n hn => .inr (.path (name_mem_map hn))

/-- A path is resolved unless a name on the way cannot stand in a path, or links lead to links
without an end. -/
theorem resolve_eq_error (h : t.resolve p = .error d) :
    (∃ name, t.OnWay p name ∧ Path.defect? name = some d) ∨
      d = .linkLoop ∧ ∃ target : Path, t.find true target.text = .error .linkLoop := by
  have hup : Path.defect? ".." = none := by decide
  have honWay {n : String} (hn : n = ".." ∨ t.OnWay p n) (hd : Path.defect? n = some d) :
      ∃ name, t.OnWay p name ∧ Path.defect? name = some d := by
    rcases hn with rfl | hn
    · cases hup.symm.trans hd
    · exact ⟨n, hn, hd⟩
  obtain ⟨hok, herror⟩ := onWay_follow (t := t) (p := p)
  rw [resolve] at h
  cases hfollow : t.follow [] [] p.start (p.parts.map .name) with
  | error d' =>
    rw [hfollow] at h
    obtain rfl : d' = d := Except.error.inj h
    obtain ⟨n, hn, hd⟩ := herror _ hfollow
    exact .inl (honWay hn hd)
  | ok way =>
    rw [hfollow] at h
    simp only [bind, Except.bind] at h
    split at h
    · rename_i d' hd'
      obtain rfl : d' = d := Except.error.inj h
      obtain ⟨n, hn, hd⟩ := Path.exists_defect?_of_text hd'
      rcases Path.mem_parts_normalized hn with hn | hn
      · exact .inl ⟨n, .workingDir hn, hd⟩
      · exact .inl (honWay (hok way hfollow n hn) hd)
    · split at h
      · rename_i hloop
        cases h
        exact .inr ⟨rfl, _, hloop⟩
      · cases h

/-! ### Trees without links -/

/-- No links stand in the tree. -/
def NoLinks (t : FileTree) : Prop := ∀ place target, t.node? place ≠ some (.link target)

/-- No link stands where a path leads. -/
theorem NoLinks.linkAt? (h : t.NoLinks) (p : Path) : t.linkAt? p = none := by
  cases hlink : t.linkAt? p with
  | none => rfl
  | some target =>
    obtain ⟨place, hnode⟩ := exists_node_of_linkAt? hlink
    exact absurd hnode (h place target)

/-- Without links, a path is followed by its names: each one is added, and `..` leads up. -/
theorem NoLinks.follow_eq_ok (h : t.NoLinks) {path : Path} {parts : List String}
    (hfollow : t.follow [] [] path (parts.map .name) = .ok q) :
    q = parts.foldl (fun path name => if name = ".." then path.above else path.child name)
      path := by
  induction parts generalizing path with
  | nil =>
    rw [List.map_nil, follow] at hfollow
    exact (Except.ok.inj hfollow).symm
  | cons name parts ih =>
    rw [List.map_cons, follow] at hfollow
    rw [List.foldl_cons]
    split at hfollow
    · rename_i hup
      rw [if_pos hup]
      exact ih hfollow
    · rename_i hup
      rw [if_neg hup]
      split at hfollow
      · cases hfollow
      · split at hfollow
        · exact ih hfollow
        · rename_i target hlink
          cases (h.linkAt? _).symm.trans hlink

/-- Without links, a resolved path is the normalized one. -/
theorem NoLinks.resolve_eq_ok (h : t.NoLinks) (hresolve : t.resolve p = .ok q) :
    q = p.normalized t.workingDir := by
  rw [resolve] at hresolve
  cases hfollow : t.follow [] [] p.start (p.parts.map .name) with
  | error d =>
    rw [hfollow] at hresolve
    cases hresolve
  | ok way =>
    have hway : way.normalized t.workingDir = p.normalized t.workingDir := by
      rw [h.follow_eq_ok hfollow, Path.normalized_foldl]
      by_cases habsolute : p.isAbsolute = true
      · simp [Path.normalized, Path.start, Path.isAbsolute, show p.anchor ≠ "" by
          simpa [Path.isAbsolute] using habsolute]
      · simp [Path.normalized, Path.start, Path.isAbsolute, show p.anchor = "" by
          simpa [Path.isAbsolute] using habsolute]
    rw [hfollow] at hresolve
    simp only [bind, Except.bind] at hresolve
    split at hresolve
    · cases hresolve
    · split at hresolve
      · cases hresolve
      · rw [← hway]
        exact (Except.ok.inj hresolve).symm

/-- Without links, no way is given up for its links. -/
theorem NoLinks.walk_ne_linkLoop
    (h : t.NoLinks) {follow : Bool} {links : Nat} {place names : List String} :
    t.walk follow links place names ≠ .error .linkLoop := by
  fun_induction walk t follow links place names with
  | case6 place name r _ _ _ _ target hlink => exact absurd hlink (h _ target)
  | case7 place name r _ _ _ _ target hlink => exact absurd hlink (h _ target)
  | _ =>
    first
    | assumption
    | intro hgiven
      cases hgiven

/-- Without links, no path is given up for its links. -/
theorem NoLinks.find_ne_linkLoop (h : t.NoLinks) {follow : Bool} (path : String) :
    t.find follow path ≠ .error .linkLoop := by
  intro hfind
  cases hplace : t.findPlace follow path with
  | error kind =>
    obtain rfl : kind = .linkLoop := by simpa [find, hplace, bind, Except.bind] using hfind
    rw [findPlace] at hplace
    split at hplace
    · cases hplace
    split at hplace
    · cases hplace
    exact h.walk_ne_linkLoop hplace
  | ok place =>
    simp only [find, hplace, bind, Except.bind] at hfind
    split at hfind <;> cases hfind

/-- Without links, a path is resolved if all names on the way can stand in paths. -/
theorem NoLinks.resolve_eq (h : t.NoLinks) (hdir : ∀ n ∈ t.workingDir, Path.defect? n = none)
    (hparts : ∀ n ∈ p.parts, Path.defect? n = none) :
    t.resolve p = .ok (p.normalized t.workingDir) := by
  cases hresolve : t.resolve p with
  | ok q => rw [h.resolve_eq_ok hresolve]
  | error d =>
    rcases resolve_eq_error hresolve with ⟨name, honWay, hd⟩ | ⟨-, target, hloop⟩
    · cases honWay with
      | path hn => cases (hparts name hn).symm.trans hd
      | workingDir hn => cases (hdir name hn).symm.trans hd
      | link hlink => exact absurd hlink (h _ _)
    · exact absurd hloop (h.find_ne_linkLoop _)

end FileTree

end RamlClient
