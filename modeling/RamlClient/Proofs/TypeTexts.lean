import RamlClient.Client.Operations
import RamlClient.Proofs.Identifiers
import RamlClient.Proofs.WellFormed
/-!
# What type texts refer to

The text of a Go type may begin with the marks of pointers and slices. What is left without them
refers to a type: one of the language, one of another package, or one of the package itself. For the
text of a descriptor that is the type of the innermost kind, or the empty interface for a union.
-/

namespace RamlClient.Client

open Api Go

/-! ### Type texts -/

/-- The texts of types in a definition. -/
def typeTexts : Definition → List String
  | .typeDef d => [d.type]
  | .struct s => s.fields.map (·.type)
  | .func g => g.args.map (·.type) ++ g.results

/-- The texts of types in a package. -/
def packageTypeTexts (p : Package) : List String := p.definitions.flatMap typeTexts

/-- The Go types that need no declaration. -/
def predeclaredTypes : List String :=
  ["any", "bool", "byte", "comparable", "complex64", "complex128", "error", "float32", "float64",
   "int", "int8", "int16", "int32", "int64", "rune", "string", "uint", "uint8", "uint16", "uint32",
   "uint64", "uintptr"]

/-- The composite types that stand for values of any kind and for objects. -/
def generalTypes : List String := ["map[string]interface\x7b\x7d", "interface\x7b\x7d"]

/-- The types of other packages. -/
def qualifiedTypes : List String := ["io.Reader", "time.Time", "http.Response"]

/-- The types that are there in every package. -/
def knownTypes : List String := predeclaredTypes ++ generalTypes ++ qualifiedTypes

/-- A text without the marks of pointers and slices at its start. -/
def stripMarks : List Char → List Char
  | '*' :: r => stripMarks r
  | '[' :: ']' :: r => stripMarks r
  | cs => cs

/-- The type that a type text is about. -/
def baseType (text : String) : String := String.ofList (stripMarks text.toList)

/-- What a type text is about is known or declared in the package. -/
def Resolves (p : Package) (text : String) : Prop :=
  baseType text ∈ knownTypes ∨ refersToType p (baseType text) = true

instance (p : Package) (text : String) : Decidable (Resolves p text) :=
  inferInstanceAs (Decidable (baseType text ∈ knownTypes ∨ refersToType p (baseType text) = true))

/-! ### Marks -/

/-- A text does not begin with a mark. -/
def Unmarked (cs : List Char) : Prop := cs.head? ≠ some '*' ∧ cs.head? ≠ some '['

instance (cs : List Char) : Decidable (Unmarked cs) :=
  inferInstanceAs (Decidable (cs.head? ≠ some '*' ∧ cs.head? ≠ some '['))

/-- The mark of a pointer is taken off. -/
@[simp] theorem stripMarks_pointer (cs : List Char) : stripMarks ('*' :: cs) = stripMarks cs := by
  rw [stripMarks]

/-- The mark of a slice is taken off. -/
@[simp] theorem stripMarks_slice (cs : List Char) :
    stripMarks ('[' :: ']' :: cs) = stripMarks cs := by
  rw [stripMarks]

/-- A text without marks at its start stays as it is. -/
theorem stripMarks_of_unmarked {cs : List Char} (h : Unmarked cs) : stripMarks cs = cs := by
  unfold stripMarks
  split
  · exact absurd rfl h.1
  · exact absurd rfl h.2
  · rfl

/-- Letters and digits begin with no mark. -/
theorem Unmarked.of_alphanumeric {cs : List Char} (h : Alphanumeric cs) : Unmarked cs := by
  have hhead {c : Char} (hc : cs.head? = some c) : c.isAlphanum = true :=
    h c (List.mem_of_head? hc)
  have hstar : '*'.isAlphanum = false := by decide
  have hbracket : '['.isAlphanum = false := by decide
  constructor
  · intro hc
    rw [hhead hc] at hstar
    cases hstar
  · intro hc
    rw [hhead hc] at hbracket
    cases hbracket

/-- A type text without marks at its start is about itself. -/
theorem baseType_of_unmarked {s : String} (h : Unmarked s.toList) : baseType s = s := by
  rw [baseType, stripMarks_of_unmarked h, String.ofList_toList]

example : baseType "*[]User" = "User" ∧ baseType "User[]" = "User[]" := by decide +kernel

/-! ### Characters -/

/-- The characters of type texts besides letters and digits. -/
def typeMarks : List Char := ['*', '[', ']', '\x7b', '\x7d', '.']

/-- The type of a value that is present has letters, digits and marks only. -/
theorem mem_presentType (d : TypeDescriptor) :
    ∀ c ∈ (presentType d).toList, c.isAlphanum = true ∨ c ∈ typeMarks := by
  induction d using presentType.induct with
  | case1 kind required items members hunion =>
    simp only [presentType, if_pos hunion]
    exact List.forall_iff_forall_mem.1 (by decide +kernel)
  | case2 kind required items members hunion ih =>
    simp only [presentType, if_neg hunion, String.toList_append]
    exact List.forall_mem_append.2 ⟨List.forall_iff_forall_mem.1 (by decide), ih⟩
  | case3 kind required members hunion =>
    simp only [presentType, if_pos hunion]
    exact List.forall_iff_forall_mem.1 (by decide +kernel)
  | case4 kind required members hunion =>
    have hscalars : ∀ s ∈ scalarTypes, s.2.toList.Forall fun c => c.isAlphanum = true ∨
      c ∈ typeMarks := by
      decide +kernel
    simp only [presentType, if_neg hunion, kindType]
    cases hscalar : scalarType? kind with
    | none =>
      rw [Option.getD_none]
      exact fun c hc => .inl (alphanumeric_exportedName kind c hc)
    | some type =>
      obtain ⟨s, hs, rfl⟩ := Option.map_eq_some_iff.1 hscalar
      rw [Option.getD_some]
      exact List.forall_iff_forall_mem.1 (hscalars s (List.mem_of_find?_eq_some hs))

/-- A type text has letters, digits and marks only. -/
theorem mem_typeText (d : TypeDescriptor) : ∀ c ∈ (typeText d).toList, c.isAlphanum = true ∨
    c ∈ typeMarks := by
  unfold typeText
  split
  · exact mem_presentType d
  · rw [String.toList_append]
    exact List.forall_mem_append.2 ⟨List.forall_iff_forall_mem.1 (by decide), mem_presentType d⟩

/-! ### Texts of descriptors -/

/-- The innermost kind of a descriptor, unless it is a union. -/
def leafKind : TypeDescriptor → Option String
  | ⟨_, _, some items, members⟩ => if 1 < members.length then none else leafKind items
  | ⟨kind, _, none, members⟩ => if 1 < members.length then none else some kind

/-- The type of the innermost kind of a descriptor. -/
def leafType (d : TypeDescriptor) : String := ((leafKind d).map kindType).getD anyType

/-- The types of scalars are known and begin with no mark. -/
theorem mem_knownTypes_of_scalarType? {kind type : String} (h : scalarType? kind = some type) :
    type ∈ knownTypes ∧ Unmarked type.toList := by
  have hall : ∀ s ∈ scalarTypes, s.2 ∈ knownTypes ∧ Unmarked s.2.toList := by decide +kernel
  obtain ⟨s, hs, rfl⟩ := Option.map_eq_some_iff.1 h
  exact hall s (List.mem_of_find?_eq_some hs)

/-- The types of kinds begin with no mark. -/
theorem unmarked_kindType (kind : String) : Unmarked (kindType kind).toList := by
  rw [kindType]
  cases h : scalarType? kind with
  | none =>
    rw [Option.getD_none]
    exact .of_alphanumeric (alphanumeric_exportedName kind)
  | some type =>
    rw [Option.getD_some]
    exact (mem_knownTypes_of_scalarType? h).2

/-- Without its marks, a type is that of the innermost kind. -/
theorem stripMarks_presentType (d : TypeDescriptor) :
    stripMarks (presentType d).toList = (leafType d).toList := by
  induction d using presentType.induct with
  | case1 kind required items members hunion =>
    simp only [presentType, leafType, leafKind, if_pos hunion]
    exact stripMarks_of_unmarked (by decide)
  | case2 kind required items members hunion ih =>
    simp only [presentType, leafType, leafKind, if_neg hunion, String.toList_append]
    exact (stripMarks_slice _).trans ih
  | case3 kind required members hunion =>
    simp only [presentType, leafType, leafKind, if_pos hunion]
    exact stripMarks_of_unmarked (by decide)
  | case4 kind required members hunion =>
    simp only [presentType, leafType, leafKind, if_neg hunion]
    exact stripMarks_of_unmarked (unmarked_kindType kind)

/-- The text of a descriptor is about the type of its innermost kind. -/
theorem baseType_typeText (d : TypeDescriptor) : baseType (typeText d) = leafType d := by
  rw [baseType, typeText]
  split
  · rw [stripMarks_presentType, String.ofList_toList]
  · rw [String.toList_append]
    exact (congrArg String.ofList ((stripMarks_pointer _).trans (stripMarks_presentType d))).trans
      String.ofList_toList

/-- What a method returns besides the response is the text of a descriptor. -/
theorem resultType_eq_some_iff {response : Option Response} {type : String} :
    resultType response = some type ↔
      ∃ d, resultDescriptor response = some d ∧ typeText d = type ∧ type ≠ "" := by
  rw [resultType, Option.filter_eq_some_iff, Option.map_eq_some_iff, decide_eq_true_eq]
  constructor
  · rintro ⟨⟨d, hd, htext⟩, hne⟩
    exact ⟨d, hd, htext, hne⟩
  · rintro ⟨d, hd, htext, hne⟩
    exact ⟨⟨d, hd, htext⟩, hne⟩

/-! ### Types of a package -/

/-- A name refers to a type if it is that of a struct or a type definition. -/
theorem refersToType_iff {p : Package} (hp : p.WellFormed) {name : String} :
    refersToType p name = true ↔ ∃ d ∈ p.definitions, d.kind ≠ .func ∧ d.name = name := by
  have hkind : refersToType p name = true ↔ ∃ d, p.lookup name = some d ∧ d.kind ≠ .func := by
    rw [refersToType]
    split
    · rename_i s hs
      simp [hs]
    · rename_i t ht
      simp [ht]
    · rename_i hs ht
      refine ⟨fun h => absurd h (by decide), ?_⟩
      rintro ⟨d, hd, hne⟩
      cases d with
      | struct s => exact absurd hd (hs s)
      | typeDef t => exact absurd hd (ht t)
      | func g => exact absurd rfl hne
  rw [hkind]
  constructor
  · rintro ⟨d, hd, hne⟩
    obtain ⟨hmem, hname⟩ := hp.lookup_eq_some_iff.1 hd
    exact ⟨d, hmem, hne, hname⟩
  · rintro ⟨d, hmem, hne, hname⟩
    exact ⟨d, hp.lookup_eq_some_iff.2 ⟨hmem, hname⟩, hne⟩

end RamlClient.Client
