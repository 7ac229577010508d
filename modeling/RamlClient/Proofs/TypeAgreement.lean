import RamlClient.Proofs.ArgumentNames
import RamlClient.Proofs.Capitals
import RamlClient.Proofs.Descriptors
/-!
# Statements that agree with types

The Go type of a parameter and the statements that use it are made from its descriptor independently
of each other. As the descriptors of a built model are regular, they agree: the verb that formats an
argument of the path is the one for its type, and the statements that set a query parameter look at
the pointer and at the elements exactly if its field has them.
-/

namespace RamlClient.Client

open Api Go

/-! ### The marks of a type -/

/-- A type without the mark of a pointer at its start. -/
def pointee (type : String) : String :=
  if Text.startsWith type "*" then String.ofList type.toList.tail else type

/-- A text starts with another if the characters of the other are the first ones. -/
theorem startsWith_eq {s start : String} :
    Text.startsWith s start = true ↔ start.toList <+: s.toList := by
  simp [Text.startsWith]

/-- The type of a value that is present does not begin with the mark of a pointer. -/
theorem startsWith_star_presentType (d : TypeDescriptor) :
    Text.startsWith (presentType d) "*" = false := by
  have hstar {s : String} (h : s.toList.head? ≠ some '*') : Text.startsWith s "*" = false := by
    rw [Bool.eq_false_iff, ne_eq, startsWith_eq]
    rintro ⟨r, hr⟩
    rw [← hr] at h
    exact h rfl
  obtain ⟨kind, required, items, members⟩ := d
  by_cases hunion : 1 < members.length
  · cases items <;> exact hstar (by simp [presentType, hunion, anyType])
  · cases items with
    | none => exact hstar (by simpa [presentType, hunion] using (unmarked_kindType kind).1)
    | some items => exact hstar (by simp [presentType, hunion])

/-- A type is a pointer exactly if the value need not be present. -/
theorem startsWith_star_typeText (d : TypeDescriptor) :
    Text.startsWith (typeText d) "*" = !d.required := by
  unfold typeText
  split
  · rename_i hrequired
    rw [startsWith_star_presentType, hrequired]
    rfl
  · rename_i hoptional
    simp [Text.startsWith, hoptional]

/-- Without the mark of a pointer, the text of a type is that of a value that is present. -/
theorem pointee_typeText (d : TypeDescriptor) : pointee (typeText d) = presentType d := by
  rw [pointee, startsWith_star_typeText]
  by_cases hrequired : d.required = true
  · simp [hrequired, typeText]
  · simp [hrequired, typeText]

/-- The type of a value that is present is a slice exactly if the value is an array. -/
theorem startsWith_slice_presentType {d : TypeDescriptor} (h : Regular d) :
    Text.startsWith (presentType d) "[]" = d.isArray := by
  obtain ⟨kind, required, items, members⟩ := d
  cases items with
  | some items =>
    obtain ⟨-, rfl, -⟩ := h
    simp [presentType, TypeDescriptor.isArray, Text.startsWith]
  | none =>
    by_cases hunion : 1 < members.length
    · have hany : Text.startsWith anyType "[]" = false := by decide
      simpa [presentType, hunion, TypeDescriptor.isArray] using hany
    · have hkind := (unmarked_kindType kind).2
      rw [Bool.eq_iff_iff, startsWith_eq]
      simp only [presentType, if_neg hunion, TypeDescriptor.isArray, Option.isSome_none,
        Bool.false_eq_true, iff_false]
      rintro ⟨r, hr⟩
      rw [← hr] at hkind
      exact hkind rfl

/-! ### Arguments of the path -/

/-- The verb that formats values of a Go type. -/
def verbOf (type : String) : String :=
  if type = "int" ∨ type = "uint" then "%d"
  else if type = "bool" then "%t"
  else if type = "string" then "%s"
  else "%v"

/-- The type of an argument is no pointer, and a verb is the one for the type. -/
structure VerbAgrees (type verb : String) : Prop where
  /-- The type is no pointer. -/
  pointer : Text.startsWith type "*" = false
  /-- Numbers are formatted as such. -/
  number : verb = "%d" ↔ type = "int" ∨ type = "uint"
  /-- Truth values are formatted as such. -/
  truth : verb = "%t" ↔ type = "bool"
  /-- Texts are formatted as such. -/
  text : verb = "%s" ↔ type = "string"
  /-- All else is formatted as a value of any kind. -/
  other : verb = "%v" ↔ type ∉ ["int", "uint", "bool", "string"]

/-- The verb for a type that is no pointer agrees with it. -/
theorem verbAgrees_verbOf {type : String} (h : Text.startsWith type "*" = false) :
    VerbAgrees type (verbOf type) := by
  by_cases hint : type = "int"
  · subst hint
    exact ⟨h, by decide, by decide, by decide, by decide⟩
  by_cases huint : type = "uint"
  · subst huint
    exact ⟨h, by decide, by decide, by decide, by decide⟩
  by_cases hbool : type = "bool"
  · subst hbool
    exact ⟨h, by decide, by decide, by decide, by decide⟩
  by_cases hstring : type = "string"
  · subst hstring
    exact ⟨h, by decide, by decide, by decide, by decide⟩
  have hverb : verbOf type = "%v" := by simp [verbOf, hint, huint, hbool, hstring]
  rw [hverb]
  exact ⟨h, by simp [hint, huint], by simp [hbool], by simp [hstring],
    by simp [hint, huint, hbool, hstring]⟩

/-- The verb for a kind is the one for its type. A kind without a type of its own is none of those
with a verb, and its name is no Go type in lower case. -/
theorem pathVerb_named (kind : String) (required : Bool) :
    pathVerb (.named kind required) = verbOf (kindType kind) := by
  have hall : ∀ s ∈ scalarTypes, pathVerb (.named s.1 true) = verbOf s.2 := by decide +kernel
  rw [kindType]
  cases hscalar : scalarType? kind with
  | some type =>
    obtain ⟨s, hs, rfl⟩ := Option.map_eq_some_iff.1 hscalar
    have hkind : s.1 = kind := by simpa using List.find?_some hs
    rw [← hkind]
    exact hall s (List.mem_of_find?_eq_some hs)
  | none =>
    have hkinds : ∀ k ∈ ["integer", "number", "uint", "boolean", "string"],
      (scalarType? k).isSome := by
      decide +kernel
    have hne (k : String) (hk : k ∈ ["integer", "number", "uint", "boolean", "string"]) :
      kind ≠ k := by
      rintro rfl
      have hsome := hkinds kind hk
      rw [hscalar] at hsome
      cases hsome
    have hlower : ∀ s ∈ ["int", "uint", "bool", "string"], ¬Unlowered s.toList := by decide +kernel
    have hname (s : String) (hs : s ∈ ["int", "uint", "bool", "string"]) :
      exportedName kind ≠ s := by
      intro heq
      exact hlower s hs (heq ▸ unlowered_exportedName kind)
    simp only [List.forall_mem_cons] at hne hname
    simp [pathVerb, TypeDescriptor.named, verbOf, hne, hname]

/-- The verb for a regular descriptor is the one for its type. -/
theorem pathVerb_eq_verbOf {d : TypeDescriptor} (h : Regular d) :
    pathVerb d = verbOf (presentType d) := by
  obtain ⟨kind, required, items, members⟩ := d
  cases items with
  | some items =>
    obtain ⟨rfl, rfl, -⟩ := h
    have hslice (s : String) (hs : s.toList.head? ≠ some '[') :
        presentType ⟨"array", required, some items, []⟩ ≠ s := by
      rintro rfl
      simp [presentType] at hs
    have hverb : verbOf (presentType ⟨"array", required, some items, []⟩) = "%v" := by
      simp [verbOf, hslice "int" (by decide), hslice "uint" (by decide), hslice "bool" (by decide),
        hslice "string" (by decide)]
    rw [hverb]
    simp [pathVerb]
  | none =>
    obtain rfl | ⟨rfl, hunion⟩ := h
    · exact pathVerb_named kind required
    · have hany : verbOf anyType = "%v" := by decide
      simp [presentType, hunion, hany, pathVerb]

/-- The verb for a parameter of a path agrees with the type of its argument. -/
theorem verbAgrees_pathVerb {p : Parameter} (h : RegularPathParameter p) :
    VerbAgrees (typeText p.type) (pathVerb p.type) := by
  obtain ⟨hregular, hrequired⟩ := h
  have htype : typeText p.type = presentType p.type := by rw [typeText, if_pos hrequired]
  rw [htype, pathVerb_eq_verbOf hregular]
  exact verbAgrees_verbOf (startsWith_star_presentType p.type)

/-! ### Statements for the query -/

/-- Statements that are run only if a field of the query is there. -/
def guardStatements (field inner : String) : String :=
  "\tif query." ++ field ++ " != nil \x7b\n" ++ Text.indentLines inner ++ "\t\x7d\n"

/-- Statements range over a value. -/
def RangesOver (value statements : String) : Prop :=
  Text.startsWith statements ("\tfor _, item := range " ++ value ++ " \x7b\n") = true

/-- A statement sets a parameter from a value. -/
def SetsFrom (value statements : String) : Prop :=
  ∃ key, statements = "\tv.Set(" ++ literal key ++ ", fmt.Sprint(" ++ value ++ "))\n"

/-- The statements that set a parameter of the query look at what the type of its field has. -/
structure SetterAgrees (type field setter : String) : Prop where
  /-- The type is a pointer exactly if the statements are guarded. -/
  guarded : Text.startsWith type "*" = true ↔ ∃ inner, setter = guardStatements field inner
  /-- The type is a pointer exactly if the guarded statements use what it points to. -/
  dereferenced : Text.startsWith type "*" = true ↔ ∃ inner, setter = guardStatements field inner ∧
    (RangesOver ("*query." ++ field) inner ∨ SetsFrom ("*query." ++ field) inner)
  /-- The type is no pointer exactly if the statements use the field itself. -/
  plain : Text.startsWith type "*" = false ↔
    RangesOver ("query." ++ field) setter ∨ SetsFrom ("query." ++ field) setter
  /-- The type that is pointed to, or the type itself, is a slice exactly if the statements range
  over the value. -/
  ranges : Text.startsWith (pointee type) "[]" = true ↔ RangesOver ("query." ++ field) setter ∨
    ∃ inner, setter = guardStatements field inner ∧ RangesOver ("*query." ++ field) inner

/-- The statements that set a parameter stand in a guard unless it is required. -/
theorem querySetter_eq (p : Parameter) (field : String) :
    querySetter p field =
      if p.type.required then valueSetter (literal p.name) ("query." ++ field) p.type.isArray
      else
        guardStatements field (valueSetter (literal p.name) ("*query." ++ field) p.type.isArray) :=
  rfl

/-! Statements of different kinds begin with different letters. -/

/-- What ranges over a value begins with `for`. -/
theorem RangesOver.begins {value statements : String} (h : RangesOver value statements) :
    ∃ r, statements.toList = '\t' :: 'f' :: r := by
  obtain ⟨r, hr⟩ := startsWith_eq.1 h
  simp [← hr]

/-- What sets a parameter begins with the name of the values. -/
theorem SetsFrom.begins {value statements : String} (h : SetsFrom value statements) :
    ∃ r, statements.toList = '\t' :: 'v' :: r := by
  obtain ⟨key, rfl⟩ := h
  simp

/-- The characters of a guard and of what stands in it. -/
theorem toList_guardStatements (field inner : String) :
    (guardStatements field inner).toList = "\tif query.".toList ++ field.toList ++
      " != nil \x7b\n".toList ++ (Text.indentLines inner).toList ++ "\t\x7d\n".toList := by
  change ("\tif query." ++ field ++ " != nil \x7b\n" ++ Text.indentLines inner ++
    "\t\x7d\n").toList = _
  simp only [String.toList_append]

/-- A guard begins with `if`. -/
theorem guardStatements_begins (field inner : String) :
    ∃ r, (guardStatements field inner).toList = '\t' :: 'i' :: r := by
  simp [toList_guardStatements]

/-- What ranges over a value is no guard, and neither is what sets a parameter from a value. -/
theorem not_rangesOver_or_setsFrom_guard (value field inner : String) :
    ¬(RangesOver value (guardStatements field inner) ∨
      SetsFrom value (guardStatements field inner)) := by
  obtain ⟨r, hguard⟩ := guardStatements_begins field inner
  rintro (h | h)
  · obtain ⟨r', hr⟩ := h.begins
    simp [hguard] at hr
  · obtain ⟨r', hr⟩ := h.begins
    simp [hguard] at hr

/-- The statement for a value ranges over it exactly if it is an array. -/
theorem rangesOver_valueSetter (key value : String) (isArray : Bool) :
    RangesOver value (valueSetter key value isArray) ↔ isArray = true := by
  cases isArray with
  | true =>
    have hprefix : RangesOver value (valueSetter key value true) := by
      refine startsWith_eq.2 ⟨("\t\tv.Add(" ++ key ++ ", fmt.Sprint(item))\n\t\x7d\n").toList, ?_⟩
      simp [valueSetter]
    exact iff_of_true hprefix rfl
  | false =>
    refine iff_of_false ?_ (by simp)
    intro h
    obtain ⟨r, hr⟩ := h.begins
    simp [valueSetter] at hr

/-- The statement for a value sets a parameter from it exactly if it is no array. -/
theorem setsFrom_valueSetter (name value : String) (isArray : Bool) :
    SetsFrom value (valueSetter (literal name) value isArray) ↔ isArray = false := by
  cases isArray with
  | true =>
    refine iff_of_false ?_ (by simp)
    intro h
    obtain ⟨r, hr⟩ := h.begins
    simp [valueSetter] at hr
  | false => exact iff_of_true ⟨name, rfl⟩ rfl

/-- A line that begins with a tab and a letter is indented once more. -/
theorem indentLines_begins {s : String} {c : Char} (hs : ∃ r, s.toList = '\t' :: c :: r)
    (hend : Text.isLineEnd c = false) (hblank : Text.isBlank c = false) :
    ∃ r, (Text.indentLines s).toList = '\t' :: '\t' :: c :: r := by
  obtain ⟨r, hr⟩ := hs
  have hfirst : ∃ line rest, Text.lines (c :: r) = (c :: line) :: rest := by
    rw [Text.lines]
    simp only [hend, Bool.false_and, Bool.false_eq_true, if_false]
    split
    · exact ⟨[], [], rfl⟩
    · exact ⟨_, _, rfl⟩
  obtain ⟨line, rest, hlines⟩ := hfirst
  have htab : Text.isLineEnd '\t' = false := by decide
  rw [Text.indentLines, String.toList_ofList, hr, Text.lines]
  simp [htab, hlines, hblank]

/-- Whether guarded statements range over a value can be told from the guard. -/
theorem rangesOver_of_guard {field key value inner : String} {isArray : Bool}
    (h : guardStatements field (valueSetter key value isArray) = guardStatements field inner)
    (hinner : RangesOver value inner) : isArray = true := by
  have hindent : Text.indentLines (valueSetter key value isArray) = Text.indentLines inner := by
    have htexts := congrArg String.toList h
    simp only [toList_guardStatements, List.append_cancel_right_eq,
      List.append_cancel_left_eq] at htexts
    exact String.toList_inj.1 htexts
  obtain ⟨r, hr⟩ := indentLines_begins hinner.begins (by decide) (by decide)
  cases isArray with
  | true => rfl
  | false =>
    have hsets : ∃ r, (valueSetter key value false).toList = '\t' :: 'v' :: r := by
      simp [valueSetter]
    obtain ⟨r', hr'⟩ := indentLines_begins hsets (by decide) (by decide)
    rw [hindent, hr] at hr'
    simp at hr'

/-- The statements for a regular parameter agree with the type of its field. -/
theorem setterAgrees_querySetter {p : Parameter} (h : Regular p.type) (field : String) :
    SetterAgrees (typeText p.type) field (querySetter p field) := by
  have hslice : Text.startsWith (pointee (typeText p.type)) "[]" = p.type.isArray := by
    rw [pointee_typeText, startsWith_slice_presentType h]
  have hranges (value : String) := rangesOver_valueSetter (literal p.name) value p.type.isArray
  have hsets (value : String) := setsFrom_valueSetter p.name value p.type.isArray
  have hvalue (value : String) :
    RangesOver value (valueSetter (literal p.name) value p.type.isArray) ∨
      SetsFrom value (valueSetter (literal p.name) value p.type.isArray) := by
    rw [hranges, hsets]
    cases p.type.isArray <;> simp
  have hstar := startsWith_star_typeText p.type
  rw [querySetter_eq]
  by_cases hrequired : p.type.required = true
  · rw [hrequired] at hstar
    rw [if_pos hrequired]
    have hnot (inner : String) :
        valueSetter (literal p.name) ("query." ++ field) p.type.isArray ≠
          guardStatements field inner := by
      intro heq
      have hset := hvalue ("query." ++ field)
      rw [heq] at hset
      exact not_rangesOver_or_setsFrom_guard _ _ _ hset
    refine ⟨by simp [hstar, hnot], by simp [hstar, hnot], by simp [hstar, hvalue], ?_⟩
    rw [hslice, hranges]
    simp [hnot]
  · rw [Bool.not_eq_true] at hrequired
    rw [hrequired] at hstar
    rw [if_neg (by simp [hrequired])]
    have hnot := not_rangesOver_or_setsFrom_guard ("query." ++ field) field
      (valueSetter (literal p.name) ("*query." ++ field) p.type.isArray)
    refine ⟨iff_of_true hstar ⟨_, rfl⟩, iff_of_true hstar ⟨_, rfl, hvalue _⟩,
      iff_of_false (by simp [hstar]) hnot, ?_⟩
    rw [not_or] at hnot
    rw [hslice]
    constructor
    · intro harray
      exact .inr ⟨_, rfl, (hranges _).2 harray⟩
    · rintro (hplain | ⟨inner, heq, hinner⟩)
      · exact absurd hplain hnot.1
      · exact rangesOver_of_guard heq hinner

/-! ### Methods -/

/-- The statements for the parameters of the query stand one after another in the body of a
method. -/
theorem exists_concat_methodBody (r : Resource) (m : Method) (response : Option Response)
    (contentType : Option String) :
    ∃ before after, Text.concat (methodBody r m response contentType) = before ++
      Text.concat (m.allQueryParameters.map fun p => querySetter p (exportedName p.name)) ++
        after := by
  have hquery : ∃ before after, queryStatements m.allQueryParameters = before ++
      Text.concat (m.allQueryParameters.map fun p => querySetter p (exportedName p.name)) ++
        after := by
    unfold queryStatements
    split
    · rename_i hnil
      rw [List.isEmpty_iff.1 hnil]
      exact ⟨"\tq := \x22\x22\n", "", rfl⟩
    · exact ⟨_, _, rfl⟩
  obtain ⟨before, after, hquery⟩ := hquery
  refine ⟨resultStatement (resultType response) ++ before, after ++
    payloadStatements contentType (resultType response) ++
      Text.concat (methodBody r m response contentType).tail, ?_⟩
  rw [← String.toList_inj]
  simp only [methodBody, hquery, String.toList_append, toList_concat, List.flatMap_cons,
    List.tail_cons, List.append_assoc]

/-- The verbs for parameters of a path agree with the types of their arguments. -/
theorem forall₂_pathArgs {parameters : List Parameter}
    (h : ∀ p ∈ parameters, VerbAgrees (typeText p.type) (pathVerb p.type)) :
    List.Forall₂ (fun p a => a.name = pathArgName p.name ∧ VerbAgrees a.type (pathVerb p.type))
      parameters (pathArgs parameters) := by
  rw [pathArgs, List.forall₂_map_right_iff, List.forall₂_same]
  intro p hp
  dsimp only
  exact ⟨rfl, h p hp⟩

/-- The fields for query parameters have the exported names of the parameters. -/
theorem map_name_queryField (parameters : List Parameter) :
    (parameters.map queryField).map (·.name) = parameters.map fun p => exportedName p.name := by
  simp only [List.map_map, Function.comp_def, queryField]

/-- The statements for query parameters agree with the types of their fields. -/
theorem forall₂_querySetters {parameters : List Parameter}
    (h : ∀ p ∈ parameters,
      SetterAgrees (typeText p.type) (exportedName p.name) (querySetter p (exportedName p.name))) :
    List.Forall₂ (fun f s => SetterAgrees f.type f.name s) (parameters.map queryField)
      (parameters.map fun p => querySetter p (exportedName p.name)) := by
  rw [List.forall₂_map_left_iff, List.forall₂_map_right_iff, List.forall₂_same]
  intro p hp
  dsimp only [queryField]
  exact h p hp

/-- The Go types and the statements of all operations agree. Take any document that describes an
API, and any operation of it. The type of the argument for each parameter of its path is no pointer,
and the verb for the parameter is the one for this type. The statements that set each parameter of
the query are guarded and use what the field points to exactly if the type of the field is a
pointer, and they range over the value exactly if the type without the mark of a pointer is a slice.
Whenever a client is drafted for the document, these are the arguments of the method for the
operation, the fields of its struct and the statements in its body. -/
theorem operationTypes_agree {entries : List (Value × Value)} {api : Model}
    (hapi : buildModel entries = .ok api) :
    (∀ o ∈ api.operations,
      (∀ p ∈ o.1.uriParameters, VerbAgrees (typeText p.type) (pathVerb p.type)) ∧
      ∀ p ∈ o.2.allQueryParameters,
        SetterAgrees (typeText p.type) (exportedName p.name)
          (querySetter p (exportedName p.name))) ∧
    ∀ names notes depth u d', (draftDefinitions depth api).run
      ⟨(Package.empty.reserve names).1, notes⟩ = .ok u d' → ∀ o ∈ api.operations,
      ∃ name g args fixed fields setters before after, configuredName o.1 o.2 depth = .ok name ∧
        d'.package.lookup name = some (.func g) ∧
        g.args = args ++ fixed ∧ (fixed.map (·.name)).Sublist ["query", "payload"] ∧
        List.Forall₂ (fun p a => a.name = pathArgName p.name ∧ VerbAgrees a.type (pathVerb p.type))
          o.1.uriParameters args ∧
        (o.2.allQueryParameters ≠ [] →
          d'.package.lookup (name ++ "Params") = some (.struct ⟨name ++ "Params", fields⟩)) ∧
        fields.map (·.name) = o.2.allQueryParameters.map (fun p => exportedName p.name) ∧
        Text.concat g.body = before ++ Text.concat setters ++ after ∧
        List.Forall₂ (fun f s => SetterAgrees f.type f.name s) fields setters := by
  have hagree (o : Resource × Method) (ho : o ∈ api.operations) :
      (∀ p ∈ o.1.uriParameters, VerbAgrees (typeText p.type) (pathVerb p.type)) ∧
      ∀ p ∈ o.2.allQueryParameters,
        SetterAgrees (typeText p.type) (exportedName p.name)
          (querySetter p (exportedName p.name)) := by
    obtain ⟨hpath, hmethod⟩ := regular_of_mem_operations hapi ho
    exact ⟨fun p hp => verbAgrees_pathVerb (hpath p hp),
      fun p hp => setterAgrees_querySetter (hmethod.queryParameters p hp) _⟩
  refine ⟨hagree, ?_⟩
  intro names notes depth u d' h o ho
  obtain ⟨hpath, hquery⟩ := hagree o ho
  obtain ⟨c, hc⟩ := draftDefinitions_reserved_eq_ok h
  obtain ⟨x, hx, rfl, _, _, hdrafted⟩ := hc.methods.exists_drafted ho
  obtain ⟨before, after, hbody⟩ :=
    exists_concat_methodBody x.resource x.method x.response x.contentType
  refine ⟨x.name, x.func, pathArgs x.resource.uriParameters, x.queryArgs ++ x.payloadArgs,
    x.method.allQueryParameters.map queryField, _, before, after, hdrafted.name, hc.lookup_func hx,
    List.append_assoc _ _ _, hdrafted.fixedNames, ?_, ?_, ?_, hbody, ?_⟩
  · exact forall₂_pathArgs hpath
  · intro hne
    have hmem := (hc.isNew x hx).params_mem hne
    have hthere : Definition.struct (paramsStruct x.name x.method.allQueryParameters) ∈
        d'.package.definitions :=
      hc.mem_definitions.2 (.inr (List.mem_cons_of_mem _ (List.mem_flatMap.2 ⟨x, hx, hmem⟩)))
    exact (hc.wellFormed_end.lookup_eq_some_iff).2 ⟨hthere, rfl⟩
  · exact map_name_queryField x.method.allQueryParameters
  · exact forall₂_querySetters hquery

/-- A document with a numeric parameter of a path, an optional array and a required number in the
query. -/
def searchDocument : List (Value × Value) :=
  [(.text "title", .text "T"),
   (.text "/items/\x7bid\x7d", .mapping
     [(.text "uriParameters", .mapping [(.text "id", .text "integer")]),
      (.text "get", .mapping [(.text "queryParameters", .mapping
        [(.text "tags?", .text "string[]"), (.text "limit", .text "integer")])])])]

/-- An optional array is looked at through its pointer, and a required number is set at once. -/
theorem operationTypes_agree_search : ∃ api d' fields setters, buildModel searchDocument = .ok api ∧
    (draftDefinitions (some 0) api).run ⟨(Package.empty.reserve ["Client"]).1, []⟩ = .ok () d' ∧
    d'.package.lookup "GetItemsParams" = some (.struct ⟨"GetItemsParams", fields⟩) ∧
    fields = [⟨"Tags", "*[]string", none⟩, ⟨"Limit", "int", none⟩] ∧
    List.Forall₂ (fun f s => SetterAgrees f.type f.name s) fields setters ∧
    ∃ o ∈ api.operations, o.1.uriParameters ≠ [] ∧
      ∀ p ∈ o.1.uriParameters, VerbAgrees (typeText p.type) (pathVerb p.type) := by
  have hany : (draftedPackage? ["Client"] (some 0) searchDocument).any (fun p =>
      decide (p.lookup "GetItemsParams" =
        some (.struct ⟨"GetItemsParams", [⟨"Tags", "*[]string", none⟩, ⟨"Limit", "int", none⟩]⟩))) =
      true := by
    decide +kernel
  obtain ⟨p, hp, hparams⟩ := (Option.any_eq_true _ _).1 hany
  obtain ⟨api, d', hapi, hrun, rfl⟩ := draftedPackage?_eq_some hp
  have hparams := of_decide_eq_true hparams
  have hoperation : (buildModel searchDocument).toOption.any (fun api => api.operations.any fun o =>
      !o.1.uriParameters.isEmpty && !o.2.allQueryParameters.isEmpty &&
        decide ((configuredName o.1 o.2 (some 0)).toOption = some "GetItems")) = true := by
    decide +kernel
  simp only [hapi, Except.toOption, Option.any_some, List.any_eq_true, Bool.and_eq_true,
    Bool.not_eq_true', List.isEmpty_eq_false_iff] at hoperation
  obtain ⟨o, ho, ⟨hpath, hquery⟩, hname⟩ := hoperation
  obtain ⟨hagree, hclient⟩ := operationTypes_agree hapi
  obtain ⟨name, g, _, _, fields, setters, _, _, hconfigured, -, -, -, -, hstruct, -, -, hsetters⟩ :=
    hclient _ _ _ _ _ hrun o ho
  rw [hconfigured] at hname
  obtain rfl : name = "GetItems" := Option.some.inj (of_decide_eq_true hname)
  have hlookup := hstruct hquery
  have hfields : fields = [⟨"Tags", "*[]string", none⟩, ⟨"Limit", "int", none⟩] := by
    have hsame := hlookup.symm.trans hparams
    simpa using hsame
  exact ⟨api, d', fields, setters, hapi, hrun, hlookup, hfields, hsetters, o, ho, hpath,
    (hagree o ho).1⟩

end RamlClient.Client
