import RamlClient.Proofs.Trees
import RamlClient.Yaml.Outline
/-!
# Texts that are trees

In a YAML text a collection may stand in many places, and even in itself. What is in a collection is
therefore found out once and kept. A text is a tree if no collection of it contains itself and no
file is included as a key. Loading such a text by its outline gives its tree with the contents of
the included files in the places of the inclusions: keeping what is known makes no difference, and
no collection is cut short.
-/

namespace RamlClient.Yaml

/-! ### The tree of an outline -/

/-- The path that a step includes, if it includes one. -/
def Step.path? : Step → Option String
  | .inclusion path => some path
  | .key _ => none

/-- The trees of two parts. -/
def pairTree? (tree? : Part → Option Tree) (p : Part × Part) : Option (Tree × Tree) := do
  pure (← tree? p.1, ← tree? p.2)

/-- The tree of an entry, whose key has to be a value. -/
def entryTree? (tree? : Part → Option Tree) : Part × Part → Option (Value × Tree)
  | (.value key, p) => (tree? p).map fun t => (key, t)
  | _ => none

/-- The trees of two parts are the tree of each. -/
theorem pairTree?_eq_some {tree? : Part → Option Tree} {p : Part × Part} {ts : Tree × Tree} :
    pairTree? tree? p = some ts ↔ tree? p.1 = some ts.1 ∧ tree? p.2 = some ts.2 := by
  simp only [pairTree?, Option.bind_eq_bind, Option.bind_eq_some_iff]
  constructor
  · rintro ⟨a, ha, b, hb, ⟨⟩⟩
    exact ⟨ha, hb⟩
  · rintro ⟨ha, hb⟩
    exact ⟨_, ha, _, hb, rfl⟩

/-- The tree of an entry is its key with the tree of what stands under it. -/
theorem entryTree?_eq_some {tree? : Part → Option Tree} {e : Part × Part} {t : Value × Tree} :
    entryTree? tree? e = some t ↔ e.1 = .value t.1 ∧ tree? e.2 = some t.2 := by
  obtain ⟨key, p⟩ := e
  cases key with
  | value v =>
    rw [entryTree?, Option.map_eq_some_iff]
    constructor
    · rintro ⟨u, hu, rfl⟩
      exact ⟨rfl, hu⟩
    · rintro ⟨hv, hu⟩
      obtain rfl : v = t.1 := Part.value.inj hv
      exact ⟨_, hu, rfl⟩
  | inclusion n => exact ⟨nofun, nofun⟩
  | collection n => exact ⟨nofun, nofun⟩

/-- The tree of a collection, if `tree?` gives those of parts. -/
def Collection.tree? (tree? : Part → Option Tree) : Collection → Option Tree
  | .list items => (items.mapM tree?).map .list
  | .pairs ps => (ps.mapM (pairTree? tree?)).map .pairs
  | .mapping entries => (entries.mapM (entryTree? tree?)).map .mapping
  | .set entries => (entries.mapM (entryTree? tree?)).map .set

namespace Outline

/-- The paths of the included files, in the order in which they are met. -/
def inclusions (o : Outline) : List String := o.steps.filterMap Step.path?

/-- The tree of a part in which collections are nested at most `depth` deep. -/
def tree? (o : Outline) : Nat → Part → Option Tree
  | _, .value v => some (.value v)
  | _, .inclusion n => (o.inclusions[n]?).map .inclusion
  | 0, .collection _ => none
  | depth + 1, .collection n => ((o.collections[n]?).join).bind (Collection.tree? (o.tree? depth))

end Outline

/-- The tree of a text, if it is one. Collections that do not contain themselves are nested at most
as deep as there are nodes. -/
def treeOf? (text : String) : Option Tree :=
  match Outline.ofText text with
  | .ok o =>
    match o.root with
    | .ok root =>
      if o.steps.all fun step => step.path?.isSome then o.tree? (o.collections.size + 1) root
      else none
    | .error _ => none
  | .error _ => none

/-- The paths of the files that a text includes. -/
def inclusionsOf (text : String) : List String :=
  match Outline.ofText text with
  | .ok o => o.inclusions
  | .error _ => []

/-! ### Depths -/

section Depths

variable {f g : Part → Option Tree}

/-- What one function gives, another gives as well. -/
def Extends (g f : Part → Option Tree) : Prop := ∀ p t, f p = some t → g p = some t

/-- A row succeeds if the first of it does and then the rest. -/
theorem mapM_cons_eq_some {α β : Type} {f : α → Option β} {a : α} {as : List α} {bs : List β} :
    (a :: as).mapM f = some bs ↔ ∃ b rest, f a = some b ∧ as.mapM f = some rest ∧
    b :: rest = bs := by
  simp only [List.mapM_cons, Option.bind_eq_bind, Option.bind_eq_some_iff]
  constructor
  · rintro ⟨b, hb, rest, hrest, hbs⟩
    exact ⟨b, rest, hb, hrest, Option.some.inj hbs⟩
  · rintro ⟨b, rest, hb, hrest, rfl⟩
    exact ⟨b, hb, rest, hrest, rfl⟩

/-- What one function gives for a row, another gives that gives the same for each element. -/
theorem mapM_eq_some_of_forall {α β : Type} {f g : α → Option β}
    (h : ∀ a b, f a = some b → g a = some b) {as : List α} {bs : List β}
    (hf : as.mapM f = some bs) : as.mapM g = some bs := by
  induction as generalizing bs with
  | nil => exact hf
  | cons a as ih =>
    obtain ⟨b, rest, hb, hrest, rfl⟩ := mapM_cons_eq_some.1 hf
    exact mapM_cons_eq_some.2 ⟨b, rest, h a b hb, ih hrest, rfl⟩

/-- With more trees of parts, the trees of two parts stay the same. -/
theorem pairTree?_of_extends (h : Extends g f) (p : Part × Part) (ts : Tree × Tree)
    (hf : pairTree? f p = some ts) : pairTree? g p = some ts := by
  rw [pairTree?_eq_some] at hf ⊢
  exact ⟨h _ _ hf.1, h _ _ hf.2⟩

/-- With more trees of parts, the tree of an entry stays the same. -/
theorem entryTree?_of_extends (h : Extends g f) (e : Part × Part) (t : Value × Tree)
    (hf : entryTree? f e = some t) : entryTree? g e = some t := by
  rw [entryTree?_eq_some] at hf ⊢
  exact ⟨hf.1, h _ _ hf.2⟩

/-- With more trees of parts, the tree of a collection stays the same. -/
theorem Collection.tree?_of_extends (h : Extends g f) (c : Collection) (t : Tree)
    (hf : c.tree? f = some t) : c.tree? g = some t := by
  cases c with
  | list items =>
    obtain ⟨ts, hts, ht⟩ := Option.map_eq_some_iff.1 hf
    exact Option.map_eq_some_iff.2 ⟨ts, mapM_eq_some_of_forall h hts, ht⟩
  | pairs ps =>
    obtain ⟨ts, hts, ht⟩ := Option.map_eq_some_iff.1 hf
    exact Option.map_eq_some_iff.2 ⟨ts, mapM_eq_some_of_forall (pairTree?_of_extends h) hts, ht⟩
  | mapping entries =>
    obtain ⟨ts, hts, ht⟩ := Option.map_eq_some_iff.1 hf
    exact Option.map_eq_some_iff.2 ⟨ts, mapM_eq_some_of_forall (entryTree?_of_extends h) hts, ht⟩
  | set entries =>
    obtain ⟨ts, hts, ht⟩ := Option.map_eq_some_iff.1 hf
    exact Option.map_eq_some_iff.2 ⟨ts, mapM_eq_some_of_forall (entryTree?_of_extends h) hts, ht⟩

/-- A greater depth gives the same trees. -/
theorem Outline.tree?_succ (o : Outline) (depth : Nat) :
    Extends (o.tree? (depth + 1)) (o.tree? depth) := by
  induction depth with
  | zero =>
    intro p t ht
    cases p with
    | value v => exact ht
    | inclusion n => exact ht
    | collection n => cases ht
  | succ depth ih =>
    intro p t ht
    cases p with
    | value v => exact ht
    | inclusion n => exact ht
    | collection n =>
      obtain ⟨c, hc, ht⟩ := Option.bind_eq_some_iff.1 ht
      exact Option.bind_eq_some_iff.2 ⟨c, hc, c.tree?_of_extends ih t ht⟩

/-- A part without a tree at one depth has none at a smaller one. -/
theorem Outline.tree?_eq_none_of_succ (o : Outline) {d : Nat} {p : Part}
    (h : o.tree? (d + 1) p = none) : o.tree? d p = none := by
  cases ht : o.tree? d p with
  | none => rfl
  | some t => exact absurd ((o.tree?_succ d p t ht).symm.trans h) nofun

/-- A part that has a tree at one depth has it at each greater one. -/
theorem Outline.tree?_of_le (o : Outline) {d e : Nat} (h : d ≤ e) :
    Extends (o.tree? e) (o.tree? d) := by
  induction h with
  | refl => exact fun _ _ => id
  | step _ ih => exact fun p t ht => o.tree?_succ _ p t (ih p t ht)

/-- The tree of a part does not depend on the depth. -/
theorem Outline.tree?_unique (o : Outline) {d e : Nat} {p : Part} {t u : Tree}
    (ht : o.tree? d p = some t) (hu : o.tree? e p = some u) : t = u := by
  rcases Nat.le_total d e with h | h
  · exact Option.some.inj ((o.tree?_of_le h p t ht).symm.trans hu)
  · exact Option.some.inj (ht.symm.trans (o.tree?_of_le h p u hu))

end Depths

/-! ### Steps that keep a property of the state -/

section Gives

variable {σ α β γ : Type} {P : σ → Prop}

/-- From a state with a property, steps give a certain result and a state with the property. -/
def Gives (P : σ → Prop) (x : StateM σ α) (a : α) : Prop :=
  ∀ s, P s → ∃ s', x.run s = pure (a, s') ∧ P s'

/-- A result that is there is given. -/
theorem Gives.pure (a : α) : Gives P (pure a : StateM σ α) a := fun s hs => ⟨s, rfl, hs⟩

/-- What is given for a result is given for both steps. -/
theorem Gives.bind {x : StateM σ α} {f : α → StateM σ β} {a : α} {b : β} (hx : Gives P x a)
    (hf : Gives P (f a) b) : Gives P (x >>= f) b := by
  intro s hs
  obtain ⟨s', hx, hs'⟩ := hx s hs
  obtain ⟨s'', hf, hs''⟩ := hf s' hs'
  refine ⟨s'', ?_, hs''⟩
  rw [StateT.run_bind, hx, pure_bind, hf]

/-- Steps for each element give a result for each one. -/
theorem Gives.mapM {spec : α → Option β} {val : β → γ} {f : α → StateM σ γ}
    (h : ∀ a b, spec a = some b → Gives P (f a) (val b)) {as : List α} {bs : List β}
    (hbs : as.mapM spec = some bs) : Gives P (as.mapM f) (bs.map val) := by
  induction as generalizing bs with
  | nil =>
    obtain rfl : [] = bs := Option.some.inj hbs
    exact .pure []
  | cons a as ih =>
    obtain ⟨b, rest, hb, hrest, rfl⟩ := mapM_cons_eq_some.1 hbs
    rw [List.mapM_cons]
    exact (h a b hb).bind ((ih hrest).bind (.pure _))

end Gives

/-! ### The value of a tree -/

namespace Outline

/-- A value whose parts are closed is closed. -/
theorem OpenValue.ofParts_closed (v : Value) (vs : List Value) :
    OpenValue.ofParts v (vs.map .closed) = .closed v := by
  induction vs with
  | nil => rfl
  | cons w vs ih =>
    have hcons : OpenValue.ofParts v ((w :: vs).map .closed) =
        ⟨(OpenValue.ofParts v (vs.map .closed)).value,
          OpenValue.joinLabels [] (OpenValue.ofParts v (vs.map .closed)).labels,
          OpenValue.joinLabels [] (OpenValue.ofParts v (vs.map .closed)).knots⟩ := rfl
    rw [hcons, ih]
    rfl

section Content

variable {P : Array (Option OpenValue) → Prop} {part : Part → Known OpenValue}
  {tree? : Part → Option Tree} {content : String → Value}

/-- Where the parts have trees, the values of pairs are those of their trees. -/
theorem pairValues_gives (h : ∀ p t, tree? p = some t → Gives P (part p) (.closed (t.fill content)))
    {pairs : List (Part × Part)} {ts : List (Tree × Tree)}
    (hts : pairs.mapM (pairTree? tree?) = some ts) :
    Gives P (pairValues part pairs)
      (ts.map fun t => (.closed (t.1.fill content), .closed (t.2.fill content))) := by
  refine Gives.mapM (fun p t ht => ?_) hts
  obtain ⟨ha, hb⟩ := pairTree?_eq_some.1 ht
  exact (h _ _ ha).bind ((h _ _ hb).bind (.pure _))

/-- Where the parts have trees, the values of entries are those of their trees. -/
theorem entryValues_gives
    (h : ∀ p t, tree? p = some t → Gives P (part p) (.closed (t.fill content)))
    (hvalue : ∀ v, Gives P (part (.value v)) (.closed v)) {entries : List (Part × Part)}
    {ts : List (Value × Tree)} (hts : entries.mapM (entryTree? tree?) = some ts) :
    Gives P (pairValues part entries)
      (ts.map fun t => (.closed t.1, .closed (t.2.fill content))) := by
  refine Gives.mapM (fun e t ht => ?_) hts
  obtain ⟨hkey, ht⟩ := entryTree?_eq_some.1 ht
  have hfirst : Gives P (part e.1) (.closed t.1) := by
    rw [hkey]
    exact hvalue t.1
  exact hfirst.bind ((h _ _ ht).bind (.pure _))

/-- The content of a collection has the value of its tree if the parts in it have those of
theirs. -/
theorem contentValue_gives
    (h : ∀ p t, tree? p = some t → Gives P (part p) (.closed (t.fill content)))
    (hvalue : ∀ v, Gives P (part (.value v)) (.closed v)) {c : Collection} {t : Tree}
    (ht : c.tree? tree? = some t) :
    Gives P (contentValue part (some c)) (.closed (t.fill content)) := by
  cases c with
  | list items =>
    obtain ⟨ts, hts, rfl⟩ := Option.map_eq_some_iff.1 ht
    refine (Gives.mapM h hts).bind ?_
    rw [Tree.fill, Tree.fillItems_eq_map, ← OpenValue.ofParts_closed _ (ts.map (Tree.fill content)),
      List.map_map, List.map_map]
    exact .pure _
  | pairs ps =>
    obtain ⟨ts, hts, rfl⟩ := Option.map_eq_some_iff.1 ht
    refine (pairValues_gives h hts).bind ?_
    rw [Tree.fill, Tree.fillPairs_eq_map,
      ← OpenValue.ofParts_closed _ (ts.flatMap fun t => [t.1.fill content, t.2.fill content]),
      List.map_flatMap, List.map_map, List.flatMap_map]
    exact .pure _
  | mapping entries =>
    obtain ⟨ts, hts, rfl⟩ := Option.map_eq_some_iff.1 ht
    refine (entryValues_gives h hvalue hts).bind ?_
    rw [Tree.fill, Tree.fillEntries_eq_map,
      ← OpenValue.ofParts_closed _ (ts.map fun t => t.2.fill content), List.map_map, List.map_map,
      List.map_map]
    exact .pure _
  | set entries =>
    obtain ⟨ts, hts, rfl⟩ := Option.map_eq_some_iff.1 ht
    refine (entryValues_gives h hvalue hts).bind ?_
    rw [Tree.fill, List.map_map]
    exact .pure _

end Content

variable {o : Outline} {content : String → Value} {file : Nat}

/-- What is known is the values of collections that are trees. -/
def KnowsTrees (o : Outline) (content : String → Value) (known : Array (Option OpenValue)) : Prop :=
  ∀ n v, (known[n]?).join = some v → ∃ d t, o.tree? d (.collection n) = some t ∧
    v = .closed (t.fill content)

/-- The value of a tree can be kept for its collection. -/
theorem KnowsTrees.set {known : Array (Option OpenValue)} (h : KnowsTrees o content known)
    {d n : Nat} {t : Tree} (ht : o.tree? d (.collection n) = some t) :
    KnowsTrees o content (known.setIfInBounds n (some (.closed (t.fill content)))) := by
  intro m v hv
  rw [Array.getElem?_setIfInBounds] at hv
  split at hv
  · rename_i hnm
    subst hnm
    split at hv
    · obtain rfl : OpenValue.closed (t.fill content) = v := Option.some.inj hv
      exact ⟨d, t, ht, rfl⟩
    · cases hv
  · exact h m v hv

/-- Where nothing is kept yet, all that is kept are the values of trees. -/
theorem KnowsTrees.replicate (size : Nat) : KnowsTrees o content (Array.replicate size none) := by
  intro n v hv
  rw [Array.getElem?_replicate] at hv
  split at hv <;> cases hv

/-- A value is given as it is. -/
theorem partValue_value_gives {P : Array (Option OpenValue) → Prop} (depth : Nat)
    (around : List NodeId) (included : List Value) (v : Value) :
    Gives P (o.partValue file included depth around (.value v)) (.closed v) := by
  rw [partValue]
  exact .pure _

/-- For an inclusion the content of its file is given. -/
theorem partValue_inclusion_gives {P : Array (Option OpenValue) → Prop} (depth : Nat)
    (around : List NodeId) {n : Nat} {t : Tree}
    (ht : (o.inclusions[n]?).map Tree.inclusion = some t) :
    Gives P (o.partValue file (o.inclusions.map content) depth around (.inclusion n))
      (.closed (t.fill content)) := by
  obtain ⟨path, hpath, rfl⟩ := Option.map_eq_some_iff.1 ht
  rw [partValue, List.getElem?_map, hpath]
  exact .pure _

/-- A collection that is a tree has the value of the tree if the parts in it have those of theirs.
It is looked up if it is known, and it is kept if not. -/
theorem partValue_collection_gives {d depth n : Nat} {around : List NodeId} {t : Tree}
    (ht : o.tree? (d + 1) (.collection n) = some t) (hn : n ∉ around)
    (hparts : ∀ p u, o.tree? d p = some u → Gives (KnowsTrees o content)
      (o.partValue file (o.inclusions.map content) depth (n :: around) p)
      (.closed (u.fill content))) :
    Gives (KnowsTrees o content) (o.partValue file (o.inclusions.map content) (depth + 1) around
      (.collection n)) (.closed (t.fill content)) := by
  intro known hknown
  rw [partValue, StateT.run_bind, StateT.run_get, pure_bind]
  dsimp only
  cases hv : (known[n]?).join with
  | some v =>
    obtain ⟨e, u, hu, rfl⟩ := hknown n v hv
    obtain rfl : u = t := o.tree?_unique hu ht
    exact ⟨known, rfl, hknown⟩
  | none =>
    obtain ⟨c, hc, hct⟩ := Option.bind_eq_some_iff.1 ht
    have hcontent := contentValue_gives hparts (partValue_value_gives _ _ _) hct
    obtain ⟨known', hrun, hknown'⟩ := hcontent known hknown
    rw [if_neg (by simpa using hn), hc, StateT.run_bind, hrun, pure_bind]
    exact ⟨_, rfl, hknown'.set ht⟩

/-- A part that is a tree has the value of the tree, whatever is known. The induction is on the
depth of the tree. A collection around the part is deeper than the part, so the part is none of
them. -/
theorem partValue_gives {d : Nat} : ∀ {depth : Nat} {around : List NodeId} {p : Part} {t : Tree},
    d ≤ depth → o.tree? d p = some t → (∀ m ∈ around, o.tree? d (.collection m) = none) →
      Gives (KnowsTrees o content) (o.partValue file (o.inclusions.map content) depth around p)
        (.closed (t.fill content)) := by
  induction d with
  | zero =>
    intro depth around p t _ ht _
    cases p with
    | value v =>
      obtain rfl : .value v = t := Option.some.inj ht
      exact partValue_value_gives _ _ _ _
    | inclusion n => exact partValue_inclusion_gives _ _ ht
    | collection n => cases ht
  | succ d ih =>
    intro depth around p t hdepth ht haround
    cases p with
    | value v =>
      obtain rfl : .value v = t := Option.some.inj ht
      exact partValue_value_gives _ _ _ _
    | inclusion n => exact partValue_inclusion_gives _ _ ht
    | collection n =>
      have hbelow : ∀ m ∈ around, o.tree? d (.collection m) = none :=
        fun m hm => o.tree?_eq_none_of_succ (haround m hm)
      cases hlower : o.tree? d (.collection n) with
      | some u =>
        obtain rfl : u = t := o.tree?_unique hlower ht
        exact ih (by omega) hlower hbelow
      | none =>
        obtain ⟨depth, rfl⟩ : ∃ e, depth = e + 1 := ⟨depth - 1, by omega⟩
        have hn : n ∉ around := by
          intro hn
          rw [haround n hn] at ht
          cases ht
        refine partValue_collection_gives ht hn fun p u hu => ih (by omega) hu ?_
        intro m hm
        rcases List.mem_cons.1 hm with rfl | hm
        · exact hlower
        · exact hbelow m hm

/-- The value of an outline that is a tree is the tree with the contents of the included files in
it. -/
theorem value_eq_fill {root : Part} {t : Tree}
    (ht : o.tree? (o.collections.size + 1) root = some t) :
    o.value root file (o.inclusions.map content) = t.fill content := by
  have hgives : Gives (KnowsTrees o content)
      (o.partValue file (o.inclusions.map content) (o.collections.size + 1) [] root)
        (.closed (t.fill content)) :=
    partValue_gives (Nat.le_refl _) ht nofun
  obtain ⟨known, hrun, -⟩ := hgives _ (KnowsTrees.replicate o.collections.size)
  rw [value, hrun]
  rfl

/-! ### Loading by outlines -/

/-- Loading asks for the files that the steps of an outline include. -/
theorem mem_of_asks_loading {steps : List Step} {included : List Value} {path : String}
    (h : (o.loading file included steps).Asks path) : .inclusion path ∈ steps := by
  induction steps generalizing included with
  | nil =>
    rw [loading] at h
    split at h <;> cases h
  | cons step steps ih =>
    cases step with
    | inclusion path' =>
      rw [loading] at h
      cases h with
      | now => exact List.mem_cons_self
      | later v h => exact List.mem_cons_of_mem _ (ih h)
    | key n =>
      rw [loading] at h
      split at h
      · exact List.mem_cons_of_mem _ (ih h)
      · cases h

/-- Where all steps are inclusions, loading gives the value of the outline with their contents. -/
theorem gives_loading {root : Part} (hroot : o.root = .ok root) {steps : List Step}
    (hsteps : steps.all (fun step => step.path?.isSome) = true) (included : List Value) :
    (o.loading file included steps).Gives content
      (o.value root file (included ++ (steps.filterMap Step.path?).map content)) := by
  induction steps generalizing included with
  | nil =>
    rw [loading, hroot, List.filterMap_nil, List.map_nil, List.append_nil]
    exact .done
  | cons step steps ih =>
    rw [List.all_cons, Bool.and_eq_true] at hsteps
    cases step with
    | inclusion path =>
      have hrest := ih hsteps.2 (included ++ [content path])
      rw [List.append_assoc] at hrest
      exact .inclusion hrest
    | key n => cases hsteps.1

end Outline

/-- The outline of a text that is a tree. -/
theorem exists_of_treeOf? {text : String} {tree : Tree} (h : treeOf? text = some tree) :
    ∃ o root, Outline.ofText text = .ok o ∧ o.root = .ok root ∧
      (o.steps.all fun step => step.path?.isSome) = true ∧
        o.tree? (o.collections.size + 1) root = some tree := by
  unfold treeOf? at h
  split at h
  · rename_i o ho
    split at h
    · rename_i root hroot
      split at h
      · exact ⟨o, root, ho, hroot, by assumption, h⟩
      · cases h
    · cases h
  · cases h

/-- Loading texts by their outlines reads them as trees. -/
theorem readsTrees_reader : ReadsTrees Outline.reader inclusionsOf treeOf? where
  asks {file text path} h := by
    rw [Outline.reader] at h
    rw [inclusionsOf]
    cases ho : Outline.ofText text with
    | ok o =>
      rw [ho] at h
      exact List.mem_filterMap.2 ⟨_, Outline.mem_of_asks_loading h, rfl⟩
    | error e =>
      rw [ho] at h
      cases h
  gives {file text tree} h content := by
    obtain ⟨o, root, ho, hroot, hsteps, htree⟩ := exists_of_treeOf? h
    have hgives : (o.loading file [] o.steps).Gives content
        (o.value root file ([] ++ o.inclusions.map content)) :=
      Outline.gives_loading hroot hsteps []
    rw [List.nil_append, Outline.value_eq_fill htree] at hgives
    rw [Outline.reader, ho]
    exact hgives

end RamlClient.Yaml
