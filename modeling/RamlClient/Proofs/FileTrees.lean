import RamlClient.Files.Tree
import RamlClient.Proofs.Steps
/-!
# What stays in a file tree

Making directories and writing files keeps the ways of a tree: what was a directory or a link stays
one, and no link is added. So a path leads to the same place afterwards, and a file keeps its bytes
until it is written again.
-/

namespace RamlClient.FileTree

variable {t t' t'' : FileTree} {place q : List String} {node : FileNode}

/-! ### Nodes -/

/-- Replacing what stands at a place leaves the places as they are. -/
theorem place_replace (place q : List String) (node : FileNode) :
    ((fun n : List String × FileNode => n.1 == q) ∘
      fun n => if (n.1 == place) = true then (place, node) else n) = fun n => n.1 == q := by
  funext n
  by_cases h : n.1 = place <;> simp [h]

/-- At the root stands a directory. -/
@[simp] theorem node?_nil (t : FileTree) : t.node? [] = some .dir := rfl

/-- At its own place stands what has been put there. -/
theorem node?_put_self (h : place ≠ []) : (t.put place node).node? place = some node := by
  have hempty : place.isEmpty = false := by simpa using h
  simp only [node?, put, hempty, Bool.false_eq_true, if_false]
  split
  · rename_i hany
    rw [List.find?_map, place_replace]
    obtain ⟨n, hn, hplace⟩ := List.any_eq_true.1 hany
    cases hfind : t.nodes.find? fun n => n.1 == place with
    | none => exact absurd hplace (List.find?_eq_none.1 hfind n hn)
    | some m =>
      have hm : m.1 = place := by simpa using List.find?_some hfind
      simp [hm]
  · rename_i hany
    have hnone : (t.nodes.find? fun n => n.1 == place) = none :=
      List.find?_eq_none.2 fun n hn hplace => hany (List.any_eq_true.2 ⟨n, hn, hplace⟩)
    simp [List.find?_append, hnone]

/-- At other places stands what stood there. -/
theorem node?_put_of_ne (h : q ≠ place) : (t.put place node).node? q = t.node? q := by
  simp only [node?, put]
  split
  · rfl
  split
  · rw [List.find?_map, place_replace, Option.map_map]
    cases hfind : t.nodes.find? fun n => n.1 == q with
    | none => rfl
    | some m =>
      have hm : m.1 = q := by simpa using List.find?_some hfind
      simp [hm, h]
  · simp [List.find?_append, Ne.symm h]

/-! ### Ways that stay -/

/-- A tree has the ways of another: its directories and exactly its links. -/
structure KeepsWays (t t' : FileTree) : Prop where
  /-- The working directory is the same. -/
  workingDir : t'.workingDir = t.workingDir
  /-- Directories stay. -/
  dir : ∀ place, t.node? place = some .dir → t'.node? place = some .dir
  /-- Links stay, and none is added. -/
  link : ∀ place target, t'.node? place = some (.link target) ↔ t.node? place = some (.link target)

/-- A tree keeps its own ways. -/
theorem KeepsWays.refl (t : FileTree) : t.KeepsWays t :=
  ⟨rfl, fun _ => id, fun _ _ => .rfl⟩

/-- Ways are kept over two changes if each keeps them. -/
theorem KeepsWays.trans (h : t.KeepsWays t') (h' : t'.KeepsWays t'') : t.KeepsWays t'' where
  workingDir := h'.workingDir.trans h.workingDir
  dir place hdir := h'.dir place (h.dir place hdir)
  link place target := (h'.link place target).trans (h.link place target)

/-- What is put where no directory and no link stands, and is no link, keeps the ways. -/
theorem KeepsWays.put (hdir : t.node? place ≠ some .dir)
    (hlink : ∀ target, t.node? place ≠ some (.link target))
    (hnode : ∀ target, node ≠ .link target) : t.KeepsWays (t.put place node) := by
  have hplace : place ≠ [] := by
    rintro rfl
    exact hdir rfl
  refine ⟨rfl, fun q hq => ?_, fun q target => ?_⟩
  · rw [node?_put_of_ne, hq]
    rintro rfl
    exact hdir hq
  · by_cases hq : q = place
    · subst hq
      simp [node?_put_self hplace, hnode target, hlink target]
    · rw [node?_put_of_ne hq]

/-- A path that can be followed leads to the same place afterwards. -/
theorem KeepsWays.walk_eq_ok (h : t.KeepsWays t') {follow : Bool} {links : Nat}
    {names : List String} (hwalk : t.walk follow links place names = .ok q) :
    t'.walk follow links place names = .ok q := by
  fun_induction walk t follow links place names
  case case1 => rwa [walk]
  case case2 hdir hname ih =>
    rw [walk, h.dir _ hdir]
    exact (if_pos hname).trans (ih hwalk)
  case case3 hdir hname ih =>
    rw [walk, h.dir _ hdir]
    exact (if_neg hname).trans (ih hwalk)
  case case5 hdir hname hup hshort target hlink hend =>
    rw [walk, h.dir _ hdir]
    simp only [if_neg hname, if_neg hup, if_neg hshort, (h.link _ _).2 hlink, if_pos hend]
    exact hwalk
  case case7 hdir hname hup hshort target hlink hend links ih =>
    rw [walk, h.dir _ hdir]
    simp only [if_neg hname, if_neg hup, if_neg hshort, (h.link _ _).2 hlink, if_neg hend]
    exact ih hwalk
  case case8 hdir hname hup hshort hnolink ih =>
    rw [walk, h.dir _ hdir]
    simp only [if_neg hname, if_neg hup, if_neg hshort]
    split
    · exact (hnolink _ ((h.link _ _).1 ‹_›)).elim
    · exact ih hwalk
  all_goals cases hwalk

/-- A path leads to the same place as before if the ways are kept. -/
theorem KeepsWays.findPlace_eq_ok (h : t.KeepsWays t') {follow : Bool} {path : String}
    (hplace : t.findPlace follow path = .ok q) : t'.findPlace follow path = .ok q := by
  rw [findPlace] at hplace ⊢
  split at hplace
  · cases hplace
  split at hplace
  · cases hplace
  rw [if_neg ‹_›, if_neg ‹_›, h.workingDir]
  exact h.walk_eq_ok hplace

/-! ### The name at the end of a way -/

/-- A link of a tree has a name. -/
def HasLink (t : FileTree) (name : String) : Prop :=
  ∃ place target, t.node? (place ++ [name]) = some (.link target)

/-- The last element of a row is its first one or the last one of the rest. -/
theorem eq_or_getLast?_of_cons {α : Type} {a b : α} {r : List α} (h : (a :: r).getLast? = some b) :
    r = [] ∧ a = b ∨ r.getLast? = some b := by
  cases r with
  | nil => exact .inl ⟨rfl, by simpa using h⟩
  | cons c r => exact .inr (by rwa [List.getLast?_cons_cons] at h)

/-- A way that ends with a name ends at a place of this name, unless a link has it. -/
theorem getLast?_of_walk {name : String} (hname : name ∉ ["", ".", ".."]) (hlink : ¬t.HasLink name)
    {follow : Bool} {links : Nat} {names : List String} (hlast : names.getLast? = some name)
    (hwalk : t.walk follow links place names = .ok q) : q.getLast? = some name := by
  simp only [List.mem_cons, List.not_mem_nil, or_false, not_or] at hname
  fun_induction walk t follow links place names
  case case1 => cases hlast
  case case2 hdir hblank ih =>
    obtain ⟨-, rfl⟩ | hlast := eq_or_getLast?_of_cons hlast
    · simp [hname] at hblank
    · exact ih hlast hwalk
  case case3 hdir hblank ih =>
    obtain ⟨-, rfl⟩ | hlast := eq_or_getLast?_of_cons hlast
    · exact absurd rfl hname.2.2
    · exact ih hlast hwalk
  case case5 hdir hblank hup hshort target hnode hend =>
    obtain ⟨-, rfl⟩ | hlast := eq_or_getLast?_of_cons hlast
    · exact (hlink ⟨_, _, hnode⟩).elim
    · simp_all
  case case7 hdir hblank hup hshort target hnode hend links ih =>
    obtain ⟨-, rfl⟩ | hlast := eq_or_getLast?_of_cons hlast
    · exact (hlink ⟨_, _, hnode⟩).elim
    · exact ih (by rw [List.getLast?_append, hlast, Option.some_or]) hwalk
  case case8 hdir hblank hup hshort hnolink ih =>
    obtain ⟨rfl, rfl⟩ | hlast := eq_or_getLast?_of_cons hlast
    · rw [walk] at hwalk
      cases hwalk
      exact List.getLast?_concat
    · exact ih hlast hwalk
  all_goals cases hwalk

/-! ### Directories -/

/-- A tree has all that another has and some more directories. -/
structure AddsDirs (t t' : FileTree) : Prop where
  /-- The ways stay. -/
  ways : t.KeepsWays t'
  /-- What stands at a place stays. -/
  node : ∀ place node, t.node? place = some node → t'.node? place = some node

/-- A tree with no more directories. -/
theorem AddsDirs.refl (t : FileTree) : t.AddsDirs t := ⟨.refl t, fun _ _ => id⟩

/-- Directories can be added in two portions. -/
theorem AddsDirs.trans (h : t.AddsDirs t') (h' : t'.AddsDirs t'') : t.AddsDirs t'' :=
  ⟨h.ways.trans h'.ways, fun place node hnode => h'.node place node (h.node place node hnode)⟩

/-- Making a directory only adds it. -/
theorem addsDirs_of_makeDir {p : Path} (h : t.makeDir p = .ok t') : t.AddsDirs t' := by
  rw [makeDir] at h
  split at h
  · cases h
  split at h
  · cases h
  · rename_i place _ hnone
    cases h
    refine ⟨.put (by simp [hnone]) (by simp [hnone]) nofun, fun q node hnode => ?_⟩
    rw [node?_put_of_ne, hnode]
    rintro rfl
    rw [hnone] at hnode
    cases hnode

/-- Making a directory and those above it only adds them. -/
theorem addsDirs_of_makeDirsFrom {depth : Nat} {p : Path} (h : t.makeDirsFrom depth p = .ok t') :
    t.AddsDirs t' := by
  fun_induction makeDirsFrom t depth p generalizing t'
  case case1 hmade =>
    cases h
    exact addsDirs_of_makeDir hmade
  case case3 p fault hfault habsent depth ih =>
    cases hparent : t.makeDirsFrom depth p.parent with
    | error fault => simp [hparent, bind, Except.bind] at h
    | ok t₁ =>
      simp only [hparent, bind, Except.bind] at h
      split at h
      · cases h
        exact (ih hparent).trans (addsDirs_of_makeDir ‹_›)
      · split at h
        · cases h
          exact ih hparent
        · cases h
  case case4 =>
    cases h
    exact .refl t
  all_goals cases h

/-- A working directory that is the root is there. -/
theorem makeDirs_workingDir (h : t.workingDir = []) : t.makeDirs ⟨"", []⟩ = .ok t := by
  have htext : (⟨"", []⟩ : Path).text = "." := rfl
  have hplace (follow : Bool) : t.findPlace follow "." = .ok [] := by
    have hnames : namesOf "." = ["."] := by decide +kernel
    have hlong : ¬pathBytes ≤ ".".utf8ByteSize := by decide +kernel
    rw [findPlace, if_neg hlong, if_neg (by decide), hnames, h, ite_self]
    simp [walk]
  simp [makeDirs, makeDirsFrom, makeDir, isDir, look, find, htext, hplace, bind, Except.bind, pure,
    Except.pure, Except.map, FileNode.isDir]

/-- Making directories changes nothing that was there. -/
theorem addsDirs_of_makeDirs {p : Path} (h : t.makeDirs p = .ok t') : t.AddsDirs t' :=
  addsDirs_of_makeDirsFrom h

/-! ### Files -/

/-- A file with some bytes stands at a place. -/
def HasFile (t : FileTree) (place : List String) (content : ByteArray) : Prop :=
  ∃ isProgram, t.node? place = some (.file content isProgram)

/-- A file is read where its path leads to it. -/
theorem readBytes_of_hasFile {p : Path} {content : ByteArray}
    (hplace : t.findPlace true p.text = .ok place) (h : t.HasFile place content) :
    t.readBytes p = .ok content := by
  obtain ⟨isProgram, hnode⟩ := h
  have hlook : t.look p = .ok (.file content isProgram) := by
    simp [look, find, hplace, hnode, bind, Except.bind, pure, Except.pure, Except.map]
  rw [readBytes, hlook]

/-- Writing a file leaves the ways and all other places as they are. -/
theorem writeBytes_eq_ok {p : Path} {content : ByteArray} (h : t.writeBytes p content = .ok t') :
    ∃ place, t.findPlace true p.text = .ok place ∧ t.KeepsWays t' ∧ t'.HasFile place content ∧
      ∀ q, q ≠ place → t'.node? q = t.node? q := by
  cases hplace : t.findPlace true p.text with
  | error kind =>
    rw [writeBytes, hplace] at h
    cases h
  | ok place =>
    have hfill : t.fill place content = .ok t' := by
      rw [writeBytes, hplace] at h
      exact Steps.mapError_eq_ok.1 h
    have hput (isProgram : Bool) (hdir : t.node? place ≠ some .dir)
        (hlink : ∀ target, t.node? place ≠ some (.link target))
        (ht : t' = t.put place (.file content isProgram)) :
        t.KeepsWays t' ∧ t'.HasFile place content ∧ ∀ q, q ≠ place → t'.node? q = t.node? q := by
      subst ht
      have hne : place ≠ [] := by
        rintro rfl
        exact hdir rfl
      exact ⟨.put hdir hlink (fun _ h => by cases h), ⟨isProgram, node?_put_self hne⟩, fun q =>
        node?_put_of_ne⟩
    refine ⟨place, rfl, ?_⟩
    rw [fill] at hfill
    split at hfill
    · cases hfill
    · rename_i hnode
      cases hfill
      exact hput _ (by simp [hnode]) (by simp [hnode]) rfl
    · cases hfill
    · rename_i hnode
      cases hfill
      exact hput _ (by simp [hnode]) (by simp [hnode]) rfl

/-- A file can be written at a place: one stands there already, or nothing does. -/
def IsFillable (t : FileTree) (place : List String) : Prop :=
  t.node? place = none ∨ ∃ content, t.HasFile place content

/-- A file can be written if its path leads to a place for it. -/
theorem exists_writeBytes_eq_ok {p : Path} (hplace : t.findPlace true p.text = .ok place)
    (hfill : t.IsFillable place) (content : ByteArray) : ∃ t', t.writeBytes p content = .ok t' := by
  have hfilled : ∃ t', t.fill place content = .ok t' := by
    rcases hfill with hnone | ⟨_, _, hfile⟩
    · exact ⟨_, by rw [fill, hnone]⟩
    · exact ⟨_, by rw [fill, hfile]⟩
  obtain ⟨t', hfilled⟩ := hfilled
  exact ⟨t', by rw [writeBytes, hplace]; exact Steps.mapError_eq_ok.2 hfilled⟩

/-- Two paths lead to one file. -/
def SameFile (t : FileTree) (p q : Path) : Prop :=
  ∃ place, t.findPlace true p.text = .ok place ∧ t.findPlace true q.text = .ok place

/-- Paths that lead to one file lead to the same bytes. -/
theorem SameFile.readBytes_eq_ok {p q : Path} {content : ByteArray} (h : t.SameFile p q)
    (hread : t.readBytes q = .ok content) : t.readBytes p = .ok content := by
  obtain ⟨place, hp, hq⟩ := h
  have hlook : t.look p = t.look q := by
    rw [look, look, find, find, hp, hq]
  rw [readBytes] at hread ⊢
  rw [hlook]
  split at hread
  · exact hread
  all_goals cases hread

end RamlClient.FileTree
