import Mathlib.Data.List.Forall2
import Mathlib.Order.Basic
/-!
# What stands at places, in order

A list of what stands in a text or a document is right if it has what stands at every place, once
for each place and in the order of the places. With the places of a tree, which are lists of
positions in lexicographic order, this is the order in which parents come before children.
-/

namespace RamlClient

variable {ι κ α β : Type}

/-- What is related to a member of a list stands in the related list. -/
theorem exists_mem_of_forall₂ {α β : Type} {R : α → β → Prop} {as : List α} {bs : List β}
    (h : List.Forall₂ R as bs) {b : β} (hb : b ∈ bs) : ∃ a ∈ as, R a b := by
  induction h with
  | nil => cases hb
  | cons hab _ ih =>
    rcases List.mem_cons.1 hb with rfl | hb
    · exact ⟨_, List.mem_cons_self, hab⟩
    · obtain ⟨a, ha, hab⟩ := ih hb
      exact ⟨a, List.mem_cons_of_mem _ ha, hab⟩

/-- A list holds what stands at all places, and the places are in order. -/
structure InOrder [LT ι] (stands : ι → α → Prop) (places : List ι) (as : List α) : Prop where
  /-- The places are in order, so there is none twice. -/
  sorted : places.Pairwise (· < ·)
  /-- There is no other place where anything stands. -/
  complete : ∀ i, i ∈ places ↔ ∃ a, stands i a
  /-- The list holds what stands there. -/
  stands : List.Forall₂ stands places as

namespace InOrder

variable [LT ι] {R S : ι → α → Prop} {ps qs : List ι} {as bs : List α}

/-- What is in the order of one relation is in the order of one that is the same. -/
theorem congr (h : InOrder R ps as) (hiff : ∀ i a, R i a ↔ S i a) : InOrder S ps as where
  sorted := h.sorted
  complete i := by simp only [h.complete, hiff]
  stands := h.stands.imp fun i a => (hiff i a).1

/-- What is related to nothing is in order. -/
theorem nil (h : ∀ i a, ¬R i a) : InOrder R [] [] where
  sorted := .nil
  complete i := by simp [h]
  stands := .nil

/-- A single element is in order. -/
theorem singleton (i : ι) (a : α) : InOrder (fun j b => j = i ∧ b = a) [i] [a] where
  sorted := List.pairwise_singleton _ i
  complete j := by simp
  stands := .cons ⟨rfl, rfl⟩ .nil

/-- Two lists for places of which those of the first come before those of the second. -/
theorem append (hr : InOrder R ps as) (hs : InOrder S qs bs)
    (hlt : ∀ i j, (∃ a, R i a) → (∃ b, S j b) → i < j) :
    InOrder (fun i a => R i a ∨ S i a) (ps ++ qs) (as ++ bs) where
  sorted := by
    refine List.pairwise_append.2 ⟨hr.sorted, hs.sorted, fun i hi j hj => ?_⟩
    exact hlt i j ((hr.complete i).1 hi) ((hs.complete j).1 hj)
  complete i := by simp only [List.mem_append, hr.complete, hs.complete, exists_or]
  stands := List.rel_append (hr.stands.imp fun _ _ => .inl) (hs.stands.imp fun _ _ => .inr)

/-- The places moved and what stands there changed. -/
theorem map [LT κ] (h : InOrder R ps as) {f : ι → κ} (g : α → β)
    (hmono : ∀ i j, i < j → f i < f j) :
    InOrder (fun k b => ∃ i a, k = f i ∧ b = g a ∧ R i a) (ps.map f) (as.map g) where
  sorted := List.Pairwise.map f hmono h.sorted
  complete k := by
    simp only [List.mem_map, h.complete]
    constructor
    · rintro ⟨i, ⟨a, ha⟩, rfl⟩
      exact ⟨g a, i, a, rfl, rfl, ha⟩
    · rintro ⟨_, i, a, rfl, rfl, ha⟩
      exact ⟨i, ⟨a, ha⟩, rfl⟩
  stands := by
    rw [List.forall₂_map_left_iff, List.forall₂_map_right_iff]
    exact h.stands.imp fun i a ha => ⟨i, a, rfl, rfl, ha⟩

/-- Where two places never hold what looks the same, nothing in the list looks the same as anything
else in it. -/
theorem nodup_map (h : InOrder R ps as) (hirrefl : ∀ i : ι, ¬i < i) (f : α → β)
    (hinj : ∀ i j a b, R i a → R j b → f a = f b → i = j) : (as.map f).Nodup := by
  have hnodup : ps.Nodup := by
    refine h.sorted.imp ?_
    rintro i _ hlt rfl
    exact hirrefl i hlt
  have hstands := h.stands
  clear h
  induction hstands with
  | nil => exact List.nodup_nil
  | @cons i a ps as ha hrest ih =>
    obtain ⟨hi, hps⟩ := List.nodup_cons.1 hnodup
    rw [List.map_cons, List.nodup_cons]
    refine ⟨fun hmem => ?_, ih hps⟩
    obtain ⟨b, hb, heq⟩ := List.mem_map.1 hmem
    obtain ⟨j, hj, hstands⟩ := exists_mem_of_forall₂ hrest hb
    exact hi (hinj i j a b ha hstands heq.symm ▸ hj)

/-- Lists for several places, where all that stands within an earlier one comes first. -/
theorem flatten [LT κ] {within : ι → κ → β → Prop} {blocks : List (List κ × List β)}
    (hsorted : ps.Pairwise (· < ·))
    (hblocks : List.Forall₂ (fun i b => InOrder (within i) b.1 b.2) ps blocks)
    (hlt : ∀ i j k l, i < j → (∃ b, within i k b) → (∃ b, within j l b) → k < l) :
    InOrder (fun k b => ∃ i ∈ ps, within i k b) (blocks.flatMap (·.1)) (blocks.flatMap (·.2)) := by
  induction hblocks with
  | nil => exact .nil (by simp)
  | @cons i block ps blocks hblock _ ih =>
    obtain ⟨hi, hps⟩ := List.pairwise_cons.1 hsorted
    refine (hblock.append (ih hps) ?_).congr fun k b => by simp
    rintro k l hk ⟨b, j, hj, hb⟩
    exact hlt i j k l (hi j hj) hk ⟨b, hb⟩

/-! ### Positions in a list -/

variable {R : Nat → α → Prop} {S : Nat → α → Prop} {ps : List Nat}

/-- Nothing stands at the first position. -/
theorem skip (h : InOrder R ps as) (hzero : ∀ a, ¬S 0 a) (hsucc : ∀ i a, S (i + 1) a ↔ R i a) :
    InOrder S (ps.map (· + 1)) as := by
  have hmoved := h.map (f := (· + 1)) id fun _ _ => Nat.succ_lt_succ
  rw [List.map_id] at hmoved
  refine hmoved.congr fun i a => ⟨?_, fun ha => ?_⟩
  · rintro ⟨j, _, rfl, rfl, ha⟩
    exact (hsucc j _).2 ha
  · cases i with
    | zero => exact absurd ha (hzero a)
    | succ j => exact ⟨j, a, rfl, rfl, (hsucc j a).1 ha⟩

/-- One thing stands at the first position. -/
theorem cons (h : InOrder R ps as) {a : α} (hzero : ∀ b, S 0 b ↔ b = a)
    (hsucc : ∀ i b, S (i + 1) b ↔ R i b) : InOrder S (0 :: ps.map (· + 1)) (a :: as) := by
  have hrest : InOrder (fun i b => 0 < i ∧ S i b) (ps.map (· + 1)) as :=
    h.skip (by simp) fun i b => by simp [hsucc]
  refine ((InOrder.singleton 0 a).append hrest ?_).congr fun i b => ⟨?_, fun hb => ?_⟩
  · rintro i j ⟨_, rfl, -⟩ ⟨_, hj, -⟩
    exact hj
  · rintro (⟨rfl, rfl⟩ | ⟨-, hb⟩)
    · exact (hzero _).2 rfl
    · exact hb
  · cases i with
    | zero => exact .inl ⟨rfl, (hzero b).1 hb⟩
    | succ j => exact .inr ⟨Nat.succ_pos j, hb⟩

end InOrder

/-- What is kept of a list stands at the positions of what it is made from. -/
theorem inOrder_filterMap (f : α → Option β) (as : List α) :
    ∃ places, InOrder (fun (i : Nat) b => ∃ a, as[i]? = some a ∧ f a = some b) places
      (as.filterMap f) := by
  induction as with
  | nil => exact ⟨[], .nil (by simp)⟩
  | cons a rest ih =>
    obtain ⟨places, h⟩ := ih
    cases hb : f a with
    | none =>
      rw [List.filterMap_cons_none hb]
      exact ⟨_, h.skip (by simp [hb]) (by simp)⟩
    | some b =>
      rw [List.filterMap_cons_some hb]
      exact ⟨_, h.cons (by simp [hb, eq_comm]) (by simp)⟩

end RamlClient
