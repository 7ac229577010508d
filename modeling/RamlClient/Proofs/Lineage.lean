import RamlClient.Client.Inheritance
/-!
# Lineages

The declarations of a lineage are the one that it starts from and declared types. A lineage depends
on an API only through the declarations that are found under the names of supertypes.
-/

namespace RamlClient.Client

open Api

section

variable {api : Model} {chain : List String} {current : TypeDeclaration}
  {hnew : current.name ∉ chain}

/-! ### Supertypes one after another -/

/-- Without supertypes nothing is inherited. -/
@[simp] theorem lineageOfAll_nil : lineageOfAll api chain current hnew [] = ([], none) := by
  rw [lineageOfAll.eq_def]

/-- A supertype that is not declared is passed over. -/
theorem lineageOfAll_of_none {supertype : String} {rest : List String}
    (h : api.findType? supertype = none) :
    lineageOfAll api chain current hnew (supertype :: rest) =
      lineageOfAll api chain current hnew rest := by
  rw [lineageOfAll.eq_def]
  split
  · rename_i heq
    cases heq
  · rename_i heq
    cases heq
    split
    · rfl
    · rename_i parent hparent
      rw [h] at hparent
      cases hparent

/-- The lineage of a declared supertype comes before those of the others, unless it leads back to
itself. -/
theorem lineageOfAll_of_some {supertype : String} {rest : List String} {parent : TypeDeclaration}
    (h : api.findType? supertype = some parent) :
    lineageOfAll api chain current hnew (supertype :: rest) =
      match lineageFrom api (chain ++ [current.name]) parent with
      | (visited, some cycle) => (visited, some cycle)
      | (visited, none) =>
        (visited ++ (lineageOfAll api chain current hnew rest).1,
          (lineageOfAll api chain current hnew rest).2) := by
  rw [lineageOfAll.eq_def]
  split
  · rename_i heq
    cases heq
  · rename_i heq
    cases heq
    split
    · rename_i hnone
      rw [h] at hnone
      cases hnone
    · rename_i parent' hparent
      rw [h, Option.some.injEq] at hparent
      subst hparent
      rfl

end

/-! ### Members -/

/-- A type that is found is declared. -/
theorem mem_types_of_findType? {api : Model} {name : String} {t : TypeDeclaration}
    (h : api.findType? name = some t) : t ∈ api.types := List.mem_of_find?_eq_some h

/-- The members of a lineage are the first declaration and declared types. -/
theorem mem_lineageFrom (api : Model) (t : TypeDeclaration) (chain : List String)
    (current : TypeDeclaration) :
    t ∈ (lineageFrom api chain current).1 → t = current ∨ t ∈ api.types := by
  refine lineageFrom.induct api
    (fun chain current => t ∈ (lineageFrom api chain current).1 → t = current ∨ t ∈ api.types)
    (fun chain current hnew supertypes =>
      t ∈ (lineageOfAll api chain current hnew supertypes).1 → t ∈ api.types)
    ?_ ?_ ?_ ?_ ?_ ?_ chain current
  · intro chain current hmem h
    rw [lineageFrom, dif_pos hmem] at h
    cases h
  · intro chain current hnew ih h
    rw [lineageFrom, dif_neg hnew] at h
    exact (List.mem_cons.1 h).imp_right ih
  · intro chain current hnew h
    rw [lineageOfAll_nil] at h
    cases h
  · intro chain current hnew supertype rest hnone ih h
    rw [lineageOfAll_of_none hnone] at h
    exact ih h
  · intro chain current hnew supertype rest parent hparent _ visited cycle hvisited ih h
    rw [lineageOfAll_of_some hparent, hvisited] at h
    rw [hvisited] at ih
    obtain rfl | hmem := ih h
    · exact mem_types_of_findType? hparent
    · exact hmem
  · intro chain current hnew supertype rest parent hparent _ visited hvisited ih ihrest h
    rw [lineageOfAll_of_some hparent, hvisited] at h
    rw [hvisited] at ih
    rcases List.mem_append.1 h with h | h
    · obtain rfl | hmem := ih h
      · exact mem_types_of_findType? hparent
      · exact hmem
    · exact ihrest h

/-- A lineage has the declaration itself and declared types. -/
theorem mem_lineage {api : Model} {t s : TypeDeclaration} (h : s ∈ (lineage api t).1) :
    s = t ∨ s ∈ api.types := mem_lineageFrom api s [] t h

/-! ### APIs that declare the same -/

/-- APIs that find the same declarations under all names have the same lineages. -/
theorem lineageFrom_congr {api other : Model} (h : api.findType? = other.findType?)
    (chain : List String) (current : TypeDeclaration) :
    lineageFrom api chain current = lineageFrom other chain current := by
  refine lineageFrom.induct api
    (fun chain current => lineageFrom api chain current = lineageFrom other chain current)
    (fun chain current hnew supertypes =>
      lineageOfAll api chain current hnew supertypes =
        lineageOfAll other chain current hnew supertypes)
    ?_ ?_ ?_ ?_ ?_ ?_ chain current
  · intro chain current hmem
    rw [lineageFrom, lineageFrom, dif_pos hmem, dif_pos hmem]
  · intro chain current hnew ih
    rw [lineageFrom, lineageFrom, dif_neg hnew, dif_neg hnew, ih]
  · intro chain current hnew
    rw [lineageOfAll_nil, lineageOfAll_nil]
  · intro chain current hnew supertype rest hnone ih
    rw [lineageOfAll_of_none hnone, lineageOfAll_of_none (h ▸ hnone), ih]
  · intro chain current hnew supertype rest parent hparent _ visited cycle hvisited ih
    rw [lineageOfAll_of_some hparent, lineageOfAll_of_some (h ▸ hparent), ← ih, hvisited]
  · intro chain current hnew supertype rest parent hparent _ visited hvisited ih ihrest
    rw [lineageOfAll_of_some hparent, lineageOfAll_of_some (h ▸ hparent), ← ih, hvisited, ihrest]

/-- A lineage depends on the types that are found. -/
theorem lineage_congr {api other : Model} (h : api.findType? = other.findType?) :
    lineage api = lineage other := funext (lineageFrom_congr h [])

/-- Whether a declaration is an object type depends on the types that are found. -/
theorem isObjectType_congr {api other : Model} (h : api.findType? = other.findType?) :
    isObjectType api = isObjectType other := by
  funext t
  simp only [isObjectType, lineage_congr h]

/-! ### Lineages of bounded depth -/

/-- The lineages of some declarations one after another, up to the first that leads back to
itself. -/
def lineagesInTurn (lineageOf : TypeDeclaration → List TypeDeclaration × Option (List String)) :
    List TypeDeclaration → List TypeDeclaration × Option (List String)
  | [] => ([], none)
  | d :: rest =>
    match lineageOf d with
    | (visited, some cycle) => (visited, some cycle)
    | (visited, none) =>
      (visited ++ (lineagesInTurn lineageOf rest).1, (lineagesInTurn lineageOf rest).2)

/-- The lineage of a declaration as far as it does not go deeper than a bound. -/
def lineageUpTo (api : Model) : Nat → List String → TypeDeclaration →
    List TypeDeclaration × Option (List String)
  | 0, _, _ => ([], none)
  | depth + 1, chain, current =>
    if current.name ∈ chain then ([], some (chain ++ [current.name]))
    else
      let rest := lineagesInTurn (lineageUpTo api depth (chain ++ [current.name]))
        (current.supertypes.filterMap api.findType?)
      (current :: rest.1, rest.2)

/-- The way from a declaration goes no deeper than there are declared types to go to. -/
theorem lineageFrom_eq_upTo (api : Model) (chain : List String) (current : TypeDeclaration)
    (depth : Nat) (h : remaining api chain current.name < depth) :
    lineageFrom api chain current = lineageUpTo api depth chain current := by
  refine lineageFrom.induct api
    (fun chain current => ∀ depth, remaining api chain current.name < depth →
      lineageFrom api chain current = lineageUpTo api depth chain current)
    (fun chain current hnew supertypes => ∀ depth, remaining api chain current.name ≤ depth →
      lineageOfAll api chain current hnew supertypes =
        lineagesInTurn (lineageUpTo api depth (chain ++ [current.name]))
          (supertypes.filterMap api.findType?))
    ?_ ?_ ?_ ?_ ?_ ?_ chain current depth h
  · intro chain current hmem depth h
    obtain ⟨depth, rfl⟩ := Nat.exists_eq_add_one_of_ne_zero (Nat.ne_zero_of_lt h)
    rw [lineageFrom, dif_pos hmem, lineageUpTo, if_pos hmem]
  · intro chain current hnew ih depth h
    obtain ⟨depth, rfl⟩ := Nat.exists_eq_add_one_of_ne_zero (Nat.ne_zero_of_lt h)
    rw [lineageFrom, dif_neg hnew, lineageUpTo, if_neg hnew, ih depth (Nat.le_of_lt_succ h)]
  · intro chain current hnew depth _
    rw [lineageOfAll_nil, List.filterMap_nil, lineagesInTurn]
  · intro chain current hnew supertype rest hnone ih depth h
    rw [lineageOfAll_of_none hnone, List.filterMap_cons_none hnone, ih depth h]
  · intro chain current hnew supertype rest parent hparent hlt visited cycle hvisited ih depth h
    rw [lineageOfAll_of_some hparent, List.filterMap_cons_some hparent, lineagesInTurn,
      ← ih depth (Nat.lt_of_lt_of_le hlt h), hvisited]
  · intro chain current hnew supertype rest parent hparent hlt visited hvisited ih ihrest depth h
    rw [lineageOfAll_of_some hparent, List.filterMap_cons_some hparent, lineagesInTurn,
      ← ih depth (Nat.lt_of_lt_of_le hlt h), hvisited, ihrest depth h]

/-- A lineage goes at most one type deeper than there are declared types. The recursion of a lineage
is not on its structure, so it computes only in this form. -/
theorem lineage_eq_upTo (api : Model) (d : TypeDeclaration) :
    lineage api d = lineageUpTo api (api.types.length + 2) [] d := by
  refine lineageFrom_eq_upTo api [] d _ ?_
  have hcount : api.types.countP (fun t => decide (t.name ∉ [])) ≤ api.types.length :=
    List.countP_le_length
  unfold remaining
  split <;> omega

end RamlClient.Client
