import RamlClient.Proofs.Descriptors
/-!
# Optional types

Whether a value may be missing is written in three ways: by a question mark after the name of a
property or parameter, by the facet `required` of its declaration, and by a union with `nil`. The
union may stand where the type is written as a text, in the declaration or under its type. The same
text in a mapping under the type has no say in it, because the facets of the outer declaration are
put in place of what it decides.
-/

namespace RamlClient.Api

/-! ### Unions with nil -/

namespace TypeExpression

/-- The text is a union of which one alternative is left at most when `nil` is dropped, perhaps in
parentheses. -/
inductive OptionalUnion : List Char → Prop where
  /-- The bars stand outside parentheses. -/
  | union {cs : List Char} (hopen : (Text.trimChars cs).head? ≠ some '\x7b')
      (hangle : (Text.trimChars cs).head? ≠ some '<')
      (hmany : 1 < (alternatives (Text.trimChars cs)).length)
      (hkept : ((alternatives (Text.trimChars cs)).filter (· != nilName)).length ≤ 1) :
      OptionalUnion cs
  /-- There are parentheses around all of the text. -/
  | group {cs : List Char} (hone : ¬ 1 < (alternatives (Text.trimChars cs)).length)
      (hopen : (Text.trimChars cs).head? = some '(')
        (hclose : (Text.trimChars cs).getLast? = some ')')
      (h : OptionalUnion (Text.trimChars cs).tail.dropLast) : OptionalUnion cs

/-- Whether a text is a union with `nil`, step by step. -/
theorem optionalUnion_iff {cs : List Char} : OptionalUnion cs ↔
    ((Text.trimChars cs).head? ≠ some '\x7b' ∧ (Text.trimChars cs).head? ≠ some '<' ∧
      1 < (alternatives (Text.trimChars cs)).length ∧
        ((alternatives (Text.trimChars cs)).filter (· != nilName)).length ≤ 1) ∨
    (¬ 1 < (alternatives (Text.trimChars cs)).length ∧ (Text.trimChars cs).head? = some '(' ∧
      (Text.trimChars cs).getLast? = some ')' ∧
      OptionalUnion (Text.trimChars cs).tail.dropLast) := by
  constructor
  · rintro (⟨hopen, hangle, hmany, hkept⟩ | ⟨hone, hopen, hclose, h⟩)
    · exact .inl ⟨hopen, hangle, hmany, hkept⟩
    · exact .inr ⟨hone, hopen, hclose, h⟩
  · rintro (⟨hopen, hangle, hmany, hkept⟩ | ⟨hone, hopen, hclose, h⟩)
    · exact .union hopen hangle hmany hkept
    · exact .group hone hopen hclose h

/-- The type that a text stands for is optional if the reader is told so, or if the text is a union
with `nil`. -/
theorem required_of_descriptorWithin {n : Nat} {cs : List Char} {required : Bool}
    (h : cs.length ≤ n) :
    (descriptorWithin n cs required).required = false ↔ required = false ∨ OptionalUnion cs := by
  induction n generalizing cs required with
  | zero =>
    have hone : (alternatives []).length = 0 := by decide
    rw [List.length_eq_zero_iff.1 (Nat.le_zero.1 h), optionalUnion_iff]
    simp [descriptorWithin, TypeDescriptor.named, Text.trimChars, Text.dropRightWhile, hone]
  | succ n ih =>
    rw [optionalUnion_iff, descriptorWithin]
    have hread := readOnce_descriptorBy (descriptorWithin n) cs required
    have hlength := (length_trimChars_le cs).trans h
    generalize Text.trimChars cs = text at hread hlength ⊢
    generalize descriptorBy (descriptorWithin n) cs required = d at hread ⊢
    change d.required = false ↔
      required = false ∨ (_ ∧ _ ∧ _ ∧ (keptAlternatives text).length ≤ 1) ∨ _
    cases hread with
    | blank hnil =>
      have hone : (alternatives []).length = 0 := by decide
      simp [hnil, hone, TypeDescriptor.named]
    | schema hschema =>
      rcases hschema with hopen | hangle
      · simp [hopen, TypeDescriptor.named]
      · simp [hangle, TypeDescriptor.named]
    | onlyNil hschema hmany hkept =>
      obtain ⟨hopen, hangle⟩ := not_or.1 hschema
      simp [hopen, hangle, hmany, hkept, TypeDescriptor.named]
    | optional hschema hmany hkept =>
      obtain ⟨hopen, hangle⟩ := not_or.1 hschema
      have hshorter := length_lt_of_keptAlternatives hmany hkept
      have hoptional : (descriptorWithin n _ false).required = false ↔ false = false ∨ _ :=
        ih (Nat.le_of_lt_succ (hshorter.trans_le hlength))
      simp [hopen, hangle, hmany, hkept, hoptional]
    | union hmany hkept =>
      simp [hmany, Nat.not_le.2 hkept, TypeDescriptor.unionOf]
    | array hone hbrackets =>
      have hlast : text.getLast? ≠ some ')' := by
        obtain ⟨rest, hrest⟩ := hbrackets
        rw [← List.head?_reverse, ← hrest]
        simp
      simp [hone, hlast, TypeDescriptor.arrayOf]
    | group hone hgroup =>
      have hshorter := length_tail_dropLast_lt hgroup.1
      rw [ih (Nat.le_of_lt_succ (hshorter.trans_le hlength))]
      simp [hone, hgroup]
    | name hone hgroup =>
      have hgroup' : text.head? = some '(' → text.getLast? ≠ some ')' := fun hopen hclose =>
        hgroup ⟨hopen, hclose⟩
      simp +contextual [hone, hgroup', TypeDescriptor.named]

/-- An expression stands for an optional type if the reader is told so, or if it is a union with
`nil`. -/
theorem required_parse (s : String) (required : Bool) :
    (parse s required).required = false ↔ required = false ∨ OptionalUnion s.toList :=
  required_of_descriptorWithin (Nat.le_refl _)

end TypeExpression

/-! ### The text of a type -/

/-- What a declaration gives as its type; of a list, the first type. -/
def givenType? (entries : List (Value × Value)) : Option Value :=
  match (declaredType entries).opened with
  | .null => none
  | .list [] => none
  | .list (v :: _) => some v
  | _ => some (declaredType entries)

/-- The text that a declaration is, or that it gives as its type. -/
def ownText? (raw : Value) : Option String :=
  match raw.opened with
  | .text s => some s
  | .mapping entries =>
    match givenType? entries with
    | some (.text s) => some s
    | _ => none
  | _ => none

/-- The text that is reached from a declaration through the mappings that stand as its type. -/
inductive TypeText : Value → String → Prop where
  /-- The declaration has the text itself. -/
  | own {raw : Value} {s : String} (h : ownText? raw = some s) : TypeText raw s
  /-- The type of the declaration is a mapping. -/
  | nested {raw v : Value} {entries : List (Value × Value)} {s : String}
      (hraw : raw.opened = .mapping entries) (hgiven : givenType? entries = some v)
      (hv : v.isMapping = true) (h : TypeText v s) : TypeText raw s

/-- A declaration that has a text itself has no other. -/
theorem typeText_iff_of_ownText? {raw : Value} {s t : String} (h : ownText? raw = some s) :
    TypeText raw t ↔ t = s := by
  constructor
  · intro ht
    cases ht with
    | own ht => exact Option.some.inj (ht.symm.trans h)
    | nested hraw hgiven hv ht =>
      rename_i v entries
      simp only [ownText?, hraw, hgiven] at h
      cases v <;> simp_all [Value.isMapping]
  · rintro rfl
    exact .own h

/-- The type of a declaration is the one that it gives. -/
theorem typeFacet_of_givenType? {entries : List (Value × Value)} {v : Value}
    (h : givenType? entries = some v) : typeFacet entries = v := by
  rw [givenType?] at h
  rw [typeFacet]
  split at h <;> simp_all

/-- The type of a declaration that gives none. -/
theorem typeFacet_of_none {entries : List (Value × Value)} (h : givenType? entries = none) :
    ∃ s ∈ ["object", "array", "string"], typeFacet entries = .text s := by
  unfold givenType? at h
  unfold typeFacet
  cases hopened : (declaredType entries).opened with
  | null =>
    by_cases hproperties : hasFacet entries "properties" = true
    · exact ⟨"object", by simp, by simp [hproperties]⟩
    by_cases hitems : hasFacet entries "items" = true
    · exact ⟨"array", by simp, by simp [hproperties, hitems]⟩
    · exact ⟨"string", by simp, by simp [hproperties, hitems]⟩
  | list vs =>
    cases vs with
    | nil => exact ⟨"object", by simp, rfl⟩
    | cons v rest => simp [hopened] at h
  | _ => simp [hopened] at h

/-- The default types are no unions. -/
theorem not_optionalUnion_of_mem {s : String} (h : s ∈ ["object", "array", "string"]) :
    ¬ TypeExpression.OptionalUnion s.toList := by
  intro hs
  have hread : ∀ t ∈ ["object", "array", "string"],
    TypeExpression.parse t true = .named t true := by
    decide
  have := (TypeExpression.required_parse s true).2 (.inr hs)
  rw [hread s h] at this
  cases this

/-! ### Declarations -/

/-- A text that a declaration gives as its type is the text of the declaration. -/
theorem ownText?_of_typeFacet {raw : Value} {entries : List (Value × Value)} {s : String}
    (hraw : raw.opened = .mapping entries) (hs : typeFacet entries = .text s) :
    (∃ t, ownText? raw = some t ∧ TypeExpression.OptionalUnion t.toList) ↔
      TypeExpression.OptionalUnion s.toList := by
  simp only [ownText?, hraw]
  cases hgiven : givenType? entries with
  | none =>
    obtain ⟨t, ht, hfacet⟩ := typeFacet_of_none hgiven
    cases hfacet.symm.trans hs
    simp [not_optionalUnion_of_mem ht]
  | some v =>
    obtain rfl : v = .text s := (typeFacet_of_givenType? hgiven).symm.trans hs
    simp

/-- The type of a declaration is optional if no value is asked for, or if its own text is a union
with `nil`. -/
theorem required_of_describeWithin {depth : Nat} {raw : Value} {required : Bool}
    {d : TypeDescriptor} (h : describeWithin depth raw required = .ok d) :
    d.required = false ↔
      required = false ∨ ∃ s, ownText? raw = some s ∧ TypeExpression.OptionalUnion s.toList := by
  have harray : ¬ TypeExpression.OptionalUnion "array".toList := not_optionalUnion_of_mem (by simp)
  cases depth with
  | zero => cases h
  | succ depth =>
    cases describedOnce_of_describeWithin h with
    | null hraw => simp [ownText?, hraw, TypeDescriptor.named]
    | text hraw =>
      rw [TypeExpression.required_parse]
      simp [ownText?, hraw]
    | anyArray hraw hfacet _ =>
      rw [ownText?_of_typeFacet hraw hfacet, or_iff_left harray]
      rfl
    | array hraw hfacet _ _ =>
      rw [ownText?_of_typeFacet hraw hfacet, or_iff_left harray]
      rfl
    | expression hraw hfacet _ =>
      rw [ownText?_of_typeFacet hraw hfacet, TypeExpression.required_parse]
    | @nested entries _ hraw hmapping _ =>
      have hnone : ownText? raw = none := by
        simp only [ownText?, hraw]
        split
        · rename_i t hgiven
          rw [typeFacet_of_givenType? hgiven] at hmapping
          cases hmapping
        · rfl
      simp [hnone]

/-! ### Sections -/

/-- The entry of a section asks for a value: its facet `required` says so, or it has no such facet
and there is no question mark at the end of the name. -/
def AsksForValue (name : String) (declaration : Value) : Prop :=
  match declaration.get? "required" with
  | some v => v.isTrue = true
  | none => Text.endsWith name "?" = false

/-- A value is required if the entry asks for it. -/
theorem isRequired_iff {name : String} {declaration : Value} :
    isRequired (unmarkedName name).2 declaration = true ↔ AsksForValue name declaration := by
  unfold isRequired AsksForValue
  cases declaration.get? "required" with
  | some v => rfl
  | none =>
    by_cases hmark : Text.endsWith name "?" = true
    · simp [unmarkedName, hmark]
    · simp [unmarkedName, hmark]

/-- The type is optional exactly if the entry does not ask for a value or the text that is reached
from the declaration is a union with `nil`. -/
def FollowsText (name : String) (declaration : Value) (type : TypeDescriptor) : Prop :=
  type.required = false ↔ ¬ AsksForValue name declaration ∨
    ∃ s, TypeText declaration s ∧ TypeExpression.OptionalUnion s.toList

/-- The entry asks for a value, and a union with `nil` stands in a mapping under its type. -/
def HidesOption (name : String) (declaration : Value) : Prop :=
  AsksForValue name declaration ∧ ownText? declaration = none ∧
    ∃ s, TypeText declaration s ∧ TypeExpression.OptionalUnion s.toList

/-- What decides whether the type of an entry is optional. -/
structure Decides (entry : Value × Value) (type : TypeDescriptor) (name : String) : Prop where
  /-- The entry has the name. -/
  named : textOf entry.1 = .ok name
  /-- Only a text that the declaration has itself counts. -/
  own : type.required = false ↔ ¬ AsksForValue name entry.2 ∨
    ∃ s, ownText? entry.2 = some s ∧ TypeExpression.OptionalUnion s.toList
  /-- The text that is reached through mappings would decide the same, unless it hides an option. -/
  text : FollowsText name entry.2 type ↔ ¬ HidesOption name entry.2

/-- What is described for an entry is optional exactly as the entry decides. -/
theorem decides_of_describe {entry : Value × Value} {name : String} {type : TypeDescriptor}
    (hname : textOf entry.1 = .ok name)
    (h : describe entry.2 (isRequired (unmarkedName name).2 entry.2) = .ok type) :
    Decides entry type name := by
  have hasks : isRequired (unmarkedName name).2 entry.2 = false ↔ ¬ AsksForValue name entry.2 := by
    rw [← isRequired_iff, Bool.not_eq_true]
  have hown := required_of_describeWithin h
  rw [hasks] at hown
  refine ⟨hname, hown, ?_⟩
  unfold FollowsText HidesOption
  rw [hown]
  cases htext : ownText? entry.2 with
  | some s => simp [typeText_iff_of_ownText? htext]
  | none =>
    by_cases hasked : AsksForValue name entry.2
    · simp [hasked]
    · simp [hasked]

/-- The types that a section of properties or parameters is read as. -/
def ReadAs (raw : Value) (types : List TypeDescriptor) : Prop :=
  (∃ properties, buildProperties raw = .ok properties ∧ types = properties.map (·.type)) ∨
    ∃ parameters, buildParameters raw = .ok parameters ∧ types = parameters.map (·.type)

/-- Each entry of a section of properties or parameters has an optional type exactly if it does not
ask for a value or the text of its own type is a union with `nil`. The text that is reached through
mappings under the type decides the same for all entries but those that hide an option in such a
mapping. -/
theorem readAs_decides {raw : Value} {types : List TypeDescriptor} (h : ReadAs raw types) :
    ∃ entries, sectionEntries "properties" raw = .ok entries ∧
      List.Forall₂ (fun entry type => ∃ name, Decides entry type name) entries types := by
  have hproperties : ∃ properties, buildProperties raw = .ok properties ∧
    types = properties.map (·.type) := by
    rcases h with h | ⟨parameters, h, rfl⟩
    · exact h
    · obtain ⟨properties, hproperties, h⟩ := Building.bind_eq_ok.1 h
      cases h
      exact ⟨properties, hproperties, by simp⟩
  obtain ⟨properties, hproperties, rfl⟩ := hproperties
  obtain ⟨entries, hentries, hmap⟩ := Building.bind_eq_ok.1 hproperties
  refine ⟨entries, hentries, ?_⟩
  rw [List.forall₂_map_right_iff]
  refine (Building.forall₂_of_mapM hmap).imp ?_
  intro entry p hp
  obtain ⟨name, hname, hp⟩ := Building.bind_eq_ok.1 hp
  obtain ⟨type, htype, hp⟩ := Building.bind_eq_ok.1 hp
  cases hp
  exact ⟨name, decides_of_describe hname htype⟩

/-- A declaration with its type in a mapping. -/
def mappedType (type : Value) : Value := .mapping [(.text "type", type)]

/-- Properties whose types are optional in all ways, and one that hides an option. -/
def optionalProperties : Value :=
  .mapping [(.text "id", .text "integer"), (.text "note?", .text "string"),
    (.text "owner", .text "(User | nil)"),
    (.text "editor", mappedType (.list [.text "User | nil"])),
    (.text "reviewer", mappedType (mappedType (.text "User | nil")))]

/-- Types that are optional in all ways, one that is not, and one that hides an option. -/
theorem readAs_decides_optionalProperties :
    ReadAs optionalProperties [.named "integer" true, .named "string" false, .named "User" false,
        .named "User" false, .named "User" true] ∧
      ∃ entries, sectionEntries "properties" optionalProperties = .ok entries ∧
        List.Forall₂ (fun entry type => ∃ name, Decides entry type name) entries
          [.named "integer" true, .named "string" false, .named "User" false, .named "User" false,
            .named "User" true] := by
  have hread : buildProperties optionalProperties = .ok [⟨"id", .named "integer" true, "id"⟩,
      ⟨"note", .named "string" false, "note"⟩, ⟨"owner", .named "User" false, "owner"⟩,
      ⟨"editor", .named "User" false, "editor"⟩, ⟨"reviewer", .named "User" true, "reviewer"⟩] :=
        rfl
  have h : ReadAs optionalProperties [.named "integer" true, .named "string" false,
      .named "User" false, .named "User" false, .named "User" true] := .inl ⟨_, hread, rfl⟩
  exact ⟨h, readAs_decides h⟩

/-- A property that is declared by `type: \x7btype: "User | nil"\x7d` asks for a value although its
text is a union with `nil`. -/
theorem not_followsText_mappedType :
    buildProperties (.mapping [(.text "reviewer", mappedType (mappedType (.text "User | nil")))]) =
        .ok [⟨"reviewer", .named "User" true, "reviewer"⟩] ∧
      ¬ FollowsText "reviewer" (mappedType (mappedType (.text "User | nil")))
        (.named "User" true) := by
  refine ⟨rfl, ?_⟩
  have htext : TypeText (mappedType (mappedType (.text "User | nil"))) "User | nil" :=
    .nested rfl rfl rfl (.own rfl)
  have hunion : TypeExpression.OptionalUnion "User | nil".toList :=
    .union (by decide) (by decide) (by decide) (by decide)
  intro hfollows
  have hrequired := hfollows.2 (.inr ⟨_, htext, hunion⟩)
  cases hrequired

end RamlClient.Api
