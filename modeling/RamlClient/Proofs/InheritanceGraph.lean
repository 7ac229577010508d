import Mathlib.Data.List.Chain
import Mathlib.Data.List.Nodup
import RamlClient.Proofs.Lineage
/-!
# The graph of inheritance

A declaration inherits from those of its supertypes that are declared, and through them from theirs.
The walk that makes up a lineage follows these edges. It visits nothing but what can be reached, and
it finds its way back to itself exactly if a cycle can be reached; if it does not, it visits all
that can be reached.
-/

namespace RamlClient.Client

open Api Relation

/-! ### Edges and ways -/

/-- The declared types that a declaration inherits from directly, in the order of its supertypes. -/
def parents (api : Model) (d : TypeDeclaration) : List TypeDeclaration :=
  d.supertypes.filterMap api.findType?

/-- A declaration inherits from a declared type directly. -/
def InheritsFrom (api : Model) (d e : TypeDeclaration) : Prop := e ∈ parents api d

/-- A declared type is the declaration itself, or the declaration inherits from it. -/
abbrev Reaches (api : Model) : TypeDeclaration → TypeDeclaration → Prop :=
  ReflTransGen (InheritsFrom api)

/-- A declaration inherits from a declared type, directly or through others. -/
abbrev Derives (api : Model) : TypeDeclaration → TypeDeclaration → Prop :=
  TransGen (InheritsFrom api)

/-- A declaration is or inherits from a type that inherits from itself. -/
def ReachesCycle (api : Model) (d : TypeDeclaration) : Prop :=
  ∃ e, Reaches api d e ∧ Derives api e e

/-- No declared type inherits from itself. -/
def Acyclic (api : Model) : Prop := ∀ t ∈ api.types, ¬Derives api t t

/-- A declaration is the one that is found under its name. -/
def Declared (api : Model) (d : TypeDeclaration) : Prop := api.findType? d.name = some d

section

variable {api : Model} {d e : TypeDeclaration}

/-- What is inherited from is what the supertypes find. -/
theorem inheritsFrom_iff : InheritsFrom api d e ↔ ∃ s ∈ d.supertypes, api.findType? s = some e :=
  List.mem_filterMap

/-- Where all names are different, each declared type is found under its name. -/
theorem declared_of_mem (hnames : (api.types.map (·.name)).Nodup) (h : d ∈ api.types) :
    Declared api d := by
  have hfound : (api.findType? d.name).isSome := List.find?_isSome.2 ⟨d, h, by simp⟩
  obtain ⟨e, he⟩ := Option.isSome_iff_exists.1 hfound
  obtain rfl : e = d :=
    List.inj_on_of_nodup_map hnames (mem_types_of_findType? he) h (name_of_findType? he)
  exact he

/-- What is inherited from is declared. -/
theorem InheritsFrom.declared (h : InheritsFrom api d e) : Declared api e := by
  obtain ⟨s, -, hs⟩ := inheritsFrom_iff.1 h
  rw [Declared, name_of_findType? hs, hs]

/-- What is found under its name is among the types. -/
theorem Declared.mem_types (h : Declared api d) : d ∈ api.types := mem_types_of_findType? h

/-- There is one declaration under a name. -/
theorem Declared.eq (hd : Declared api d) (he : Declared api e) (h : d.name = e.name) : d = e := by
  rw [Declared, h, he] at hd
  exact (Option.some.inj hd).symm

/-- What is reached from a declared type is declared. -/
theorem Reaches.declared (h : Reaches api d e) (hd : Declared api d) : Declared api e := by
  cases h with
  | refl => exact hd
  | tail _ hedge => exact hedge.declared

/-- What is inherited from, directly or through others, is declared. -/
theorem Derives.declared (h : Derives api d e) : Declared api e := by
  obtain ⟨c, -, hedge⟩ := TransGen.tail'_iff.1 h
  exact hedge.declared

/-- An API has no cycle exactly if no declared type reaches one. -/
theorem acyclic_iff : Acyclic api ↔ ∀ t ∈ api.types, ¬ReachesCycle api t := by
  constructor
  · rintro h t - ⟨e, -, hcycle⟩
    exact h e hcycle.declared.mem_types hcycle
  · intro h t ht hcycle
    exact h t ht ⟨t, .refl, hcycle⟩

end

/-! ### Walks -/

section

variable {f : TypeDeclaration → List TypeDeclaration × Option (List String)}
  {ds : List TypeDeclaration}

/-- A row of lineages leads back to itself if one of them does. -/
theorem exists_of_lineagesInTurn_eq_some {cycle : List String}
    (h : (lineagesInTurn f ds).2 = some cycle) : ∃ d ∈ ds, (f d).2 = some cycle := by
  induction ds with
  | nil => cases h
  | cons d rest ih =>
    rw [lineagesInTurn] at h
    split at h
    · rename_i heq
      exact ⟨d, List.mem_cons_self, by rw [heq]; exact h⟩
    · obtain ⟨e, he, hcycle⟩ := ih h
      exact ⟨e, List.mem_cons_of_mem d he, hcycle⟩

/-- A type of several lineages is one of some lineage. -/
theorem exists_of_mem_lineagesInTurn {t : TypeDeclaration} (h : t ∈ (lineagesInTurn f ds).1) :
    ∃ d ∈ ds, t ∈ (f d).1 := by
  induction ds with
  | nil => cases h
  | cons d rest ih =>
    have hlater (hmem : t ∈ (lineagesInTurn f rest).1) : ∃ e ∈ d :: rest, t ∈ (f e).1 := by
      obtain ⟨e, he, hmem⟩ := ih hmem
      exact ⟨e, List.mem_cons_of_mem d he, hmem⟩
    rw [lineagesInTurn] at h
    split at h
    · rename_i heq
      exact ⟨d, List.mem_cons_self, by rw [heq]; exact h⟩
    · rename_i heq
      rcases List.mem_append.1 h with h | h
      · exact ⟨d, List.mem_cons_self, by rw [heq]; exact h⟩
      · exact hlater h

/-- A row of lineages that does not lead back to itself has all of them in full. -/
theorem lineagesInTurn_eq_none (h : (lineagesInTurn f ds).2 = none) :
    (∀ d ∈ ds, (f d).2 = none) ∧ (lineagesInTurn f ds).1 = ds.flatMap fun d => (f d).1 := by
  induction ds with
  | nil => exact ⟨nofun, rfl⟩
  | cons d rest ih =>
    rw [lineagesInTurn] at h ⊢
    split at h
    · cases h
    · rename_i heq
      obtain ⟨hnone, hall⟩ := ih h
      simp only [heq, List.flatMap_cons, hall, and_true]
      exact List.forall_mem_cons.2 ⟨by rw [heq], hnone⟩

end

variable {api : Model} {chain : List String} {current : TypeDeclaration}

/-- The lineage of supertypes is that of each of the declared ones in turn. -/
theorem lineageOfAll_eq (hnew : current.name ∉ chain) (supertypes : List String) :
    lineageOfAll api chain current hnew supertypes =
      lineagesInTurn (lineageFrom api (chain ++ [current.name]))
        (supertypes.filterMap api.findType?) := by
  induction supertypes with
  | nil => rw [lineageOfAll_nil, List.filterMap_nil, lineagesInTurn]
  | cons s rest ih =>
    cases hs : api.findType? s with
    | none => rw [lineageOfAll_of_none hs, List.filterMap_cons_none hs, ih]
    | some parent => rw [lineageOfAll_of_some hs, List.filterMap_cons_some hs, lineagesInTurn, ih]

/-- The lineage of a type on its own chain is a cycle. -/
theorem lineageFrom_of_mem (h : current.name ∈ chain) :
    lineageFrom api chain current = ([], some (chain ++ [current.name])) := by
  rw [lineageFrom, dif_pos h]

/-- A lineage is a declaration, followed by the lineages of what it inherits from directly. -/
theorem lineageFrom_of_notMem (h : current.name ∉ chain) :
    lineageFrom api chain current =
      (current :: (lineagesInTurn (lineageFrom api (chain ++ [current.name]))
        (parents api current)).1,
        (lineagesInTurn (lineageFrom api (chain ++ [current.name])) (parents api current)).2) := by
  rw [lineageFrom, dif_neg h, lineageOfAll_eq, parents]

/-- Induction along a walk: a declaration is on its way already, or the walk goes on to all that it
inherits from directly. -/
theorem walk_induction (api : Model) {motive : List String → TypeDeclaration → Prop}
    (seen : ∀ chain current, current.name ∈ chain → motive chain current)
    (fresh : ∀ chain current, current.name ∉ chain →
      (∀ parent ∈ parents api current, motive (chain ++ [current.name]) parent) →
      motive chain current)
    (chain : List String) (current : TypeDeclaration) : motive chain current := by
  generalize hbound : remaining api chain current.name = bound
  induction bound using Nat.strong_induction_on generalizing chain current with
  | h bound ih =>
    by_cases hmem : current.name ∈ chain
    · exact seen chain current hmem
    · refine fresh chain current hmem fun parent hparent => ?_
      obtain ⟨s, -, hs⟩ := inheritsFrom_iff.1 hparent
      exact ih _ (hbound ▸ remaining_lt hmem hs) _ _ rfl

/-- Whatever a walk visits can be reached. -/
theorem reaches_of_mem_lineageFrom {t : TypeDeclaration}
    (h : t ∈ (lineageFrom api chain current).1) :
    Reaches api current t := by
  induction chain, current using walk_induction api with
  | seen chain current hmem =>
    rw [lineageFrom_of_mem hmem] at h
    cases h
  | fresh chain current hmem ih =>
    rw [lineageFrom_of_notMem hmem] at h
    rcases List.mem_cons.1 h with rfl | h
    · exact .refl
    · obtain ⟨parent, hparent, ht⟩ := exists_of_mem_lineagesInTurn h
      exact (ih parent hparent ht).head hparent

/-- A walk that does not lead back to itself goes on to what it inherits from directly, and none of
these walks does either. -/
theorem lineageFrom_eq_none (h : (lineageFrom api chain current).2 = none) :
    current.name ∉ chain ∧
      (∀ parent ∈ parents api current,
        (lineageFrom api (chain ++ [current.name]) parent).2 = none) ∧
      (lineageFrom api chain current).1 =
        current :: (parents api current).flatMap fun p =>
          (lineageFrom api (chain ++ [current.name]) p).1 := by
  by_cases hmem : current.name ∈ chain
  · rw [lineageFrom_of_mem hmem] at h
    cases h
  · rw [lineageFrom_of_notMem hmem] at h ⊢
    obtain ⟨hnone, hall⟩ := lineagesInTurn_eq_none h
    exact ⟨hmem, hnone, by rw [hall]⟩

/-- A walk that does not lead back to itself visits all that can be reached. -/
theorem mem_lineageFrom_of_reaches {t : TypeDeclaration}
    (h : (lineageFrom api chain current).2 = none) (ht : Reaches api current t) :
    t ∈ (lineageFrom api chain current).1 := by
  induction ht using ReflTransGen.head_induction_on generalizing chain with
  | refl =>
    rw [(lineageFrom_eq_none h).2.2]
    exact List.mem_cons_self
  | head hedge _ ih =>
    obtain ⟨-, hparents, hall⟩ := lineageFrom_eq_none h
    rw [hall]
    exact List.mem_cons_of_mem _ (List.mem_flatMap.2 ⟨_, hedge, ih (hparents _ hedge)⟩)

/-! ### Cycles -/

/-- A walk that does not lead back to itself comes to whatever it inherits from with its own name on
the way, and does not lead back from there either. -/
theorem exists_walk_of_derives {t : TypeDeclaration} (h : (lineageFrom api chain current).2 = none)
    (ht : Derives api current t) :
    ∃ longer, current.name ∈ longer ∧ (lineageFrom api longer t).2 = none := by
  induction ht with
  | single hedge =>
    obtain ⟨-, hparents, -⟩ := lineageFrom_eq_none h
    exact ⟨_, List.mem_append_right _ List.mem_cons_self, hparents _ hedge⟩
  | tail _ hedge ih =>
    obtain ⟨longer, hmem, hnone⟩ := ih
    obtain ⟨-, hparents, -⟩ := lineageFrom_eq_none hnone
    exact ⟨_, List.mem_append_left _ hmem, hparents _ hedge⟩

/-- A walk that does not lead back to itself reaches no cycle. -/
theorem not_reachesCycle_of_lineageFrom (h : (lineageFrom api chain current).2 = none) :
    ¬ReachesCycle api current := by
  rintro ⟨e, hreach, hcycle⟩
  have hnone : ∃ longer, (lineageFrom api longer e).2 = none := by
    obtain rfl | hderives := reflTransGen_iff_eq_or_transGen.1 hreach
    · exact ⟨chain, h⟩
    · obtain ⟨longer, -, hnone⟩ := exists_walk_of_derives h hderives
      exact ⟨longer, hnone⟩
  obtain ⟨longer, hnone⟩ := hnone
  obtain ⟨longest, hmem, hnone⟩ := exists_walk_of_derives hnone hcycle
  exact (lineageFrom_eq_none hnone).1 hmem

/-- A walk does not lead back to itself if no cycle can be reached and the names on the way belong
to declarations that the walk has come from. -/
theorem lineageFrom_eq_none_of_not_reachesCycle (hdeclared : Declared api current)
    (hchain : ∀ n ∈ chain, ∃ d, Declared api d ∧ d.name = n ∧ Derives api d current)
    (h : ¬ReachesCycle api current) : (lineageFrom api chain current).2 = none := by
  induction chain, current using walk_induction api with
  | seen chain current hmem =>
    obtain ⟨d, hd, hname, hderives⟩ := hchain _ hmem
    obtain rfl := hd.eq hdeclared hname
    exact absurd ⟨d, .refl, hderives⟩ h
  | fresh chain current hmem ih =>
    rw [lineageFrom_of_notMem hmem]
    refine Option.eq_none_iff_forall_ne_some.2 fun cycle hcycle => ?_
    obtain ⟨parent, hparent, hback⟩ := exists_of_lineagesInTurn_eq_some hcycle
    have hedge : InheritsFrom api current parent := hparent
    have hway : ∀ n ∈ chain ++ [current.name], ∃ d, Declared api d ∧ d.name = n ∧
      Derives api d parent := by
      intro n hn
      rcases List.mem_append.1 hn with hn | hn
      · obtain ⟨d, hd, hname, hderives⟩ := hchain n hn
        exact ⟨d, hd, hname, hderives.tail hedge⟩
      · exact ⟨current, hdeclared, (List.mem_singleton.1 hn).symm, .single hedge⟩
    have hnone := ih parent hparent hedge.declared hway fun ⟨e, hreach, hcycle⟩ =>
      h ⟨e, hreach.head hedge, hcycle⟩
    rw [hnone] at hback
    cases hback

/-- The lineage of a declared type leads back to itself exactly if a cycle can be reached. -/
theorem lineage_eq_none_iff {d : TypeDeclaration} (hd : Declared api d) :
    (lineage api d).2 = none ↔ ¬ReachesCycle api d :=
  ⟨not_reachesCycle_of_lineageFrom, lineageFrom_eq_none_of_not_reachesCycle hd nofun⟩

/-- A chain of names leads from a declaration along supertypes back to a name on it, and no other
name is on it twice. -/
structure LeadsBack (api : Model) (d : TypeDeclaration) (chain : List String) : Prop where
  /-- The names are those of declarations on a way that starts with the declaration. -/
  way : ∃ rest, (d :: rest).IsChain (InheritsFrom api) ∧ chain = (d :: rest).map (·.name)
  /-- No name is there twice before the last one. -/
  nodup : chain.dropLast.Nodup
  /-- The last name is there before. -/
  last : ∃ n, chain.getLast? = some n ∧ n ∈ chain.dropLast

/-- A cycle is a chain of inheritance that leads back to a name on it, met for the first time. -/
theorem exists_way_of_lineageFrom {cycle : List String}
    (h : (lineageFrom api chain current).2 = some cycle) (hchain : chain.Nodup) :
    (∃ rest, (current :: rest).IsChain (InheritsFrom api) ∧
      cycle = chain ++ (current :: rest).map (·.name)) ∧ cycle.dropLast.Nodup ∧
      ∃ n, cycle.getLast? = some n ∧ n ∈ cycle.dropLast := by
  induction chain, current using walk_induction api with
  | seen chain current hmem =>
    rw [lineageFrom_of_mem hmem, Option.some.injEq] at h
    subst h
    exact ⟨⟨[], .singleton _, rfl⟩, by
      simpa using hchain, current.name, by simp, by simpa using hmem⟩
  | fresh chain current hmem ih =>
    rw [lineageFrom_of_notMem hmem] at h
    obtain ⟨parent, hparent, hback⟩ := exists_of_lineagesInTurn_eq_some h
    have hnodup : (chain ++ [current.name]).Nodup := List.nodup_append.2 ⟨hchain, by simp, by
      rintro a ha b hb rfl
      exact hmem (List.mem_singleton.1 hb ▸ ha)⟩
    obtain ⟨⟨rest, hway, rfl⟩, hrest⟩ := ih parent hparent hback hnodup
    exact ⟨⟨parent :: rest, hway.cons_cons hparent, by simp⟩, hrest⟩

/-- Where a lineage leads back to itself, it names a chain that does. -/
theorem leadsBack_of_lineage {d : TypeDeclaration} {cycle : List String}
    (h : (lineage api d).2 = some cycle) : LeadsBack api d cycle := by
  obtain ⟨⟨rest, hway, hcycle⟩, hnodup, hlast⟩ := exists_way_of_lineageFrom h List.nodup_nil
  exact ⟨⟨rest, hway, hcycle⟩, hnodup, hlast⟩

/-! ### Declarations that describe objects -/

/-- A declared type whose kind can be told describes an object exactly if a declaration that can be
reached does so by itself. -/
theorem isObjectType_eq_ok {d : TypeDeclaration} {b : Bool} (h : isObjectType api d = .ok b) :
    b = true ↔ ∃ t, Reaches api d t ∧ isObjectByItself t = true := by
  unfold isObjectType at h
  dsimp only at h
  split at h
  · rename_i hany
    cases h
    obtain ⟨t, ht, hobject⟩ := List.any_eq_true.1 hany
    exact iff_of_true rfl ⟨t, reaches_of_mem_lineageFrom ht, hobject⟩
  · rename_i hany
    split at h
    · cases h
    · rename_i hnone
      cases h
      refine iff_of_false (by simp) ?_
      rintro ⟨t, ht, hobject⟩
      exact hany (List.any_eq_true.2 ⟨t, mem_lineageFrom_of_reaches hnone ht, hobject⟩)

/-- It cannot be told whether a declared type describes an object only if its lineage leads back to
itself. -/
theorem isObjectType_eq_error {d : TypeDeclaration} {e : Error}
    (h : isObjectType api d = .error e) :
    ∃ cycle, (lineage api d).2 = some cycle ∧ e = .model (.inheritanceCycle cycle) := by
  unfold isObjectType at h
  dsimp only at h
  split at h
  · cases h
  · split at h
    · rename_i cycle hcycle
      cases h
      exact ⟨cycle, hcycle, rfl⟩
    · cases h

/-- If it is told that a declared type describes no object, its lineage does not lead back to
itself. -/
theorem lineage_of_isObjectType_eq_false {d : TypeDeclaration}
    (h : isObjectType api d = .ok false) :
    (lineage api d).2 = none := by
  unfold isObjectType at h
  dsimp only at h
  split at h
  · cases h
  · split at h
    · cases h
    · assumption

end RamlClient.Client
