import RamlClient.Chain
import RamlClient.Defect
import RamlClient.Files.Tree
import RamlClient.Text.Half
/-!
# Resolving paths

A resolved path leads from the root to where a path leads, without `..` and without links. Its names
are met one after another: a link is followed at once, and `..` leads up from the place that has
been reached. A link that comes back to itself while it is followed is left in the path, and so is
what comes after it. If the path then still leads to links without an end, resolving it has failed.
-/

namespace RamlClient

/-! ### Short paths -/

/-- The lists of less than some number of elements. -/
def listsBelow {α : Type} (elements : List α) : Nat → List (List α)
  | 0 => []
  | bound + 1 => [] :: elements.flatMap fun a => (listsBelow elements bound).map (a :: ·)

/-- Lists of few enough elements are among those of some number. -/
theorem mem_listsBelow {α : Type} {elements : List α} {bound : Nat} {as : List α}
    (hlength : as.length < bound) (h : ∀ a ∈ as, a ∈ elements) :
    as ∈ listsBelow elements bound := by
  induction as generalizing bound with
  | nil =>
    obtain ⟨bound, rfl⟩ : ∃ b, bound = b + 1 := ⟨bound - 1, by omega⟩
    exact List.mem_cons_self
  | cons a as ih =>
    rw [List.length_cons] at hlength
    obtain ⟨bound, rfl⟩ : ∃ b, bound = b + 1 := ⟨bound - 1, by omega⟩
    refine List.mem_cons_of_mem _ (List.mem_flatMap.2 ⟨a, h a List.mem_cons_self, ?_⟩)
    exact List.mem_map_of_mem (ih (by omega) fun b hb => h b (List.mem_cons_of_mem _ hb))

/-- All characters. -/
noncomputable def allChars : List Char := (List.range 0x110000).map Char.ofNat

/-- Every character is among all characters. -/
theorem mem_allChars (c : Char) : c ∈ allChars := by
  refine List.mem_map.2 ⟨c.toNat, List.mem_range.2 ?_, Char.ofNat_toNat c⟩
  have hvalid : c.val.toNat.isValidChar := c.valid
  have hcode : c.toNat = c.val.toNat := rfl
  rcases hvalid with h | h <;> omega

/-- The texts with less than a number of characters. -/
noncomputable def textsBelow (bound : Nat) : List String :=
  (listsBelow allChars bound).map String.ofList

/-- Texts of few enough characters are among those of some number. -/
theorem mem_textsBelow {bound : Nat} {s : String} (h : s.length < bound) : s ∈ textsBelow bound :=
  List.mem_map.2 ⟨s.toList, mem_listsBelow (by rwa [String.length_toList]) fun c _ =>
    mem_allChars c, String.ofList_toList⟩

/-- A character has at least one byte. -/
theorem length_le_utf8ByteSize (s : String) : s.length ≤ s.utf8ByteSize := by
  induction s using String.push_induction with
  | empty => exact Nat.le_refl _
  | push s c ih =>
    have hchar := c.utf8Size_pos
    rw [String.length_push, String.utf8ByteSize_push]
    omega

/-- Joined texts have room for each of them and for what stands between them. -/
theorem le_length_join (parts : List String) :
    parts.length ≤ (Text.join "/" parts).length + 1 ∧ ∀ p ∈ parts,
    p.length ≤ (Text.join "/" parts).length := by
  induction parts with
  | nil => simp
  | cons p parts ih =>
    cases parts with
    | nil => simp [Text.join]
    | cons q parts =>
      have hjoin : (Text.join "/" (p :: q :: parts)).length =
          p.length + 1 + (Text.join "/" (q :: parts)).length := by
        have hslash : "/".length = 1 := by decide
        simp [Text.join, String.length_append, hslash]
      rw [hjoin]
      refine ⟨by simp only [List.length_cons] at ih ⊢; omega, ?_⟩
      intro r hr
      rcases List.mem_cons.1 hr with rfl | hr
      · omega
      · have := ih.2 r hr
        omega

namespace Path

/-- The paths whose texts are short enough for files to be found by them. -/
noncomputable def short : List Path :=
  (textsBelow FileTree.pathBytes).flatMap fun anchor =>
    (listsBelow (textsBelow FileTree.pathBytes) (FileTree.pathBytes + 1)).map fun parts =>
      ⟨anchor, parts⟩

/-- A path is short if files can be found by its text. -/
theorem mem_short {p : Path} (h : p.text.utf8ByteSize < FileTree.pathBytes) : p ∈ short := by
  obtain ⟨anchor, parts⟩ := p
  have hjoin := le_length_join parts
  have hlength := length_le_utf8ByteSize (text ⟨anchor, parts⟩)
  have htext : anchor.length ≤ (text ⟨anchor, parts⟩).length ∧
      (Text.join "/" parts).length ≤ (text ⟨anchor, parts⟩).length := by
    rw [text]
    split
    · rename_i hempty
      obtain ⟨rfl, hparts⟩ : anchor = "" ∧ parts = [] := by simpa using hempty
      subst hparts
      exact ⟨by decide, by decide⟩
    · dsimp only
      rw [String.length_append]
      omega
  have hparts : ∀ p ∈ parts, p ∈ textsBelow FileTree.pathBytes := fun p hp =>
    mem_textsBelow (by have := hjoin.2 p hp; omega)
  refine List.mem_flatMap.2 ⟨anchor, mem_textsBelow (by omega), List.mem_map.2 ⟨parts, ?_, rfl⟩⟩
  exact mem_listsBelow (by omega) hparts

/-- The number of short paths that are not on a chain of paths. -/
noncomputable def shortOff (chain : List Path) : Nat := short.countP fun p => decide (p ∉ chain)

/-- Each short path that is added to a chain leaves fewer of them off it. -/
theorem shortOff_lt {chain : List Path} {p : Path} (h : p.text.utf8ByteSize < FileTree.pathBytes)
    (hnew : p ∉ chain) : shortOff (chain ++ [p]) < shortOff chain :=
  countP_off_chain_lt (fun q => q) (mem_short h) hnew

/-! ### Names on a way -/

/-- What is wrong with a text as a name or a path, if anything is. Bytes that are not UTF-8 may be
written as second halves. -/
def defect? (s : String) : Option Defect :=
  let isByte (code : Nat) : Bool := 0xdc80 ≤ code && code ≤ 0xdcff
  if s.toList.any fun c => (Text.halfCode? c).any (!isByte ·) then some .halfCharacter
  else if s.toList.contains '\x00' then some .malformedPath
  else none

/-- The path with one more name. -/
def child (p : Path) (name : String) : Path := ⟨p.anchor, p.parts ++ [name]⟩

/-- The path that leads up from where a path leads. It cannot lead above the root. -/
def above (p : Path) : Path :=
  match p.parts.getLast? with
  | none => if p.isAbsolute then p else p.child ".."
  | some name => if name = ".." then p.child ".." else p.parent

/-- The path that the names of a path begin at. -/
def start (p : Path) : Path := ⟨if p.isAbsolute then "/" else "", []⟩

end Path

namespace FileTree

/-! ### Links on a way -/

/-- What a link contains that stands where a path leads, if one stands there. -/
def linkAt? (t : FileTree) (p : Path) : Option String :=
  match t.find false p.text with
  | .ok (_, .link target) => some target
  | _ => none

/-- A path by which something is found is short. -/
theorem utf8ByteSize_lt_of_find {t : FileTree} {follow : Bool} {s : String}
    {found : List String × FileNode} (h : t.find follow s = .ok found) :
    s.utf8ByteSize < pathBytes := by
  by_cases hlong : pathBytes ≤ s.utf8ByteSize
  · rw [find, findPlace, if_pos hlong] at h
    cases h
  · omega

/-- A path at which a link stands is short. -/
theorem utf8ByteSize_lt_of_linkAt? {t : FileTree} {p : Path} {target : String}
    (h : t.linkAt? p = some target) :
    p.text.utf8ByteSize < pathBytes := by
  unfold linkAt? at h
  split at h
  · rename_i hfind
    exact utf8ByteSize_lt_of_find hfind
  · cases h

/-- A path by which a file is read is short. -/
theorem utf8ByteSize_lt_of_readBytes {t : FileTree} {p : Path} {bytes : ByteArray}
    (h : t.readBytes p = .ok bytes) : p.text.utf8ByteSize < pathBytes := by
  unfold readBytes look at h
  split at h
  · rename_i hlook
    cases hfind : t.find true p.text with
    | ok found => exact utf8ByteSize_lt_of_find hfind
    | error kind =>
      rw [hfind] at hlook
      cases hlook
  all_goals cases h

/-- What is left to do while a path is resolved. -/
inductive WayStep where
  /-- To go on to a name. -/
  | name (name : String)
  /-- To note where a link has led. -/
  | arrival (link : Path)

/-- The name that a step goes on to. -/
def WayStep.name? : WayStep → Option String
  | .name n => some n
  | .arrival _ => none

/-- The path that steps lead to from a path. `begun` holds the links that have been met, and `ends`
where those of them have led that are not being followed any more. -/
def follow (t : FileTree) (begun : List Path) (ends : List (Path × Path)) (path : Path) :
    List WayStep → Except Defect Path
  | [] => .ok path
  | .arrival link :: rest => t.follow begun ((link, path) :: ends) path rest
  | .name name :: rest =>
    if name = ".." then t.follow begun ends path.above rest
    else match Path.defect? name with
    | some d => .error d
    | none =>
      match _hlink : t.linkAt? (path.child name) with
      | none => t.follow begun ends (path.child name) rest
      | some target =>
        match ends.find? (·.1 == path.child name) with
        | some (_, place) => t.follow begun ends place rest
        | none =>
          if hnew : path.child name ∈ begun then
            .ok ((path.child name).append ⟨"", rest.filterMap WayStep.name?⟩)
          else
            let way := Path.ofText target
            t.follow (begun ++ [path.child name]) ends (if way.isAbsolute then way.start else path)
              (way.parts.map .name ++ .arrival (path.child name) :: rest)
termination_by steps => (Path.shortOff begun, steps.length)
decreasing_by
  · exact Prod.Lex.right _ (by simp)
  · exact Prod.Lex.right _ (by simp)
  · exact Prod.Lex.right _ (by simp)
  · exact Prod.Lex.right _ (by simp)
  · exact Prod.Lex.left _ _ (Path.shortOff_lt (utf8ByteSize_lt_of_linkAt? ‹_›) hnew)

/-- The resolved path of where a path leads. It fails if links lead to links without an end. -/
def resolve (t : FileTree) (p : Path) : Except Defect Path := do
  let way ← t.follow [] [] p.start (p.parts.map .name)
  let target := way.normalized t.workingDir
  match Path.defect? target.text with
  | some d => throw d
  | none =>
    match t.find true target.text with
    | .error .linkLoop => throw .linkLoop
    | _ => pure target

end FileTree

end RamlClient
