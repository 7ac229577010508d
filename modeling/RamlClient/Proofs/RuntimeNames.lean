import RamlClient.Proofs.Capitals
import RamlClient.Proofs.ClientDraft
import RamlClient.Proofs.CodeReader
/-!
# The names of the runtime

The runtime declares names in the package, methods of the client, and fields of the client. They are
read off the lines of its file. No generated definition has a name of the package, and no generated
method has that of a method; but nothing keeps a method from having the name of a field.
-/

namespace RamlClient.Client

open Api Go

/-! ### Reading declarations -/

/-- The word of a line behind a text at its start, unless it is blank. -/
def wordBehind? (start line : List Char) : Option String :=
  if start.isPrefixOf line then
    let word := (line.drop start.length).takeWhile isWordChar
    if word = [] ∨ word = ['_'] then none else some (String.ofList word)
  else none

/-- The words that begin the declaration of a name of the package. -/
def declarationWords : List String := ["const ", "func ", "type ", "var "]

/-- The names that the lines of a file declare in its package. -/
def declaredNames (lines : List String) : List String :=
  lines.flatMap fun line => declarationWords.filterMap fun word =>
    wordBehind? word.toList line.toList

/-- The methods that the lines of a file declare for a type. -/
def methodNames (type : String) (lines : List String) : List String :=
  lines.filterMap fun line =>
    match Text.cutAtChar ')' line.toList with
    | (receiver, some rest) =>
      if "func (".toList.isPrefixOf receiver &&
          ((" " ++ type).toList.isSuffixOf receiver ||
            (" *" ++ type).toList.isSuffixOf receiver) then
        wordBehind? [' '] rest
      else none
    | (_, none) => none

/-- The fields that the lines of a file give a struct. -/
def fieldNames (type : String) (lines : List String) : List String :=
  (((lines.dropWhile (· ≠ "type " ++ type ++ " struct \x7b")).drop 1).takeWhile
    (· ≠ "\x7d")).filterMap fun line => wordBehind? ['\t'] line.toList

/-- The declared names are found line by line, behind words that declare. -/
theorem declaredNames_eq (lines : List String) : declaredNames lines =
    (lines.map String.toList).flatMap fun line =>
      declarationWords.filterMap fun word => wordBehind? word.toList line := by
  rw [declaredNames, List.flatMap_map]

/-- The names of methods are found line by line, behind their receivers. -/
theorem methodNames_eq (type : String) (lines : List String) : methodNames type lines =
    (lines.map String.toList).filterMap fun line =>
      match Text.cutAtChar ')' line with
      | (receiver, some rest) =>
        if "func (".toList.isPrefixOf receiver &&
            ((" " ++ type).toList.isSuffixOf receiver ||
              (" *" ++ type).toList.isSuffixOf receiver) then
          wordBehind? [' '] rest
        else none
      | (_, none) => none := by
  rw [methodNames, List.filterMap_map]
  rfl

/-- The characters of lines that are given by their characters. The lines of the runtime are
evaluated through it, since `String.toList` of a literal is slow to evaluate. -/
theorem map_toList_of_forall₂ {lines : List String} {texts : List (List Char)}
    (h : List.Forall₂ (fun line text => line = String.ofList text) lines texts) :
    lines.map String.toList = texts := by
  induction h with
  | nil => rfl
  | cons hline _ ih => rw [List.map_cons, hline, String.toList_ofList, ih]

/-- The names that the runtime declares. -/
theorem declaredNames_runtime : declaredNames runtimeLines =
    ["Client", "NewClient", "Filter", "StatusError", "cookieJar", "oauthFilter"] := by
  rw [declaredNames_eq, map_toList_of_forall₂]
  rotate_left
  · simp only [runtimeLines, String.reduceAppend]
    repeat' constructor
  · decide +kernel

/-- The methods that the runtime gives a client. -/
theorem methodNames_runtime : methodNames "Client" runtimeLines =
    ["AddFilter", "EnableCookies", "UseOAuth", "url", "do"] := by
  rw [methodNames_eq, map_toList_of_forall₂]
  rotate_left
  · simp only [runtimeLines, String.reduceAppend]
    repeat' constructor
  · decide +kernel

/-- The fields that the runtime gives a client. -/
theorem fieldNames_runtime : fieldNames "Client" runtimeLines = ["BaseURL", "HTTP", "filters"] := by
  decide +kernel

/-! ### Generated names -/

/-- The names of the methods of the client that a package defines. -/
def clientMethods (p : Package) : List String :=
  ((p.definitions.filterMap Definition.func?).filter (·.receiver == some clientReceiver)).map
    (·.name)

/-- The definitions of a package keep clear of the runtime. -/
structure ClearsRuntime (p : Package) : Prop where
  /-- No definition has a name that the runtime declares in the package. -/
  declared : ∀ n ∈ p.names, n ∉ declaredNames runtimeLines
  /-- No method of the client has the name of one of the runtime. -/
  methods : ∀ n ∈ clientMethods p, n ∉ methodNames "Client" runtimeLines
  /-- No method of the client has the name of a field of the client. -/
  fields : ∀ n ∈ clientMethods p, n ∉ fieldNames "Client" runtimeLines

/-- The methods of a client are the functions with the client as receiver. -/
theorem mem_clientMethods_iff {p : Package} {n : String} : n ∈ clientMethods p ↔
    ∃ g, Definition.func g ∈ p.definitions ∧ g.receiver = some clientReceiver ∧ g.name = n := by
  simp [clientMethods, Definition.func?_eq_some_iff, and_assoc]

namespace ClientStages.Drafted

variable {depth : Option Int} {api : Model} {p q : Package} {c : ClientStages}

/-- The methods of the client are those of the operations. -/
theorem mem_clientMethods (h : c.Drafted depth api p q) {n : String} :
    n ∈ clientMethods q ↔ ∃ o ∈ api.operations, configuredName o.1 o.2 depth = .ok n := by
  rw [mem_clientMethods_iff]
  constructor
  · rintro ⟨g, hg, hreceiver, rfl⟩
    obtain hg | hg := h.mem_definitions.1 hg
    · obtain ⟨_, -, hmodel⟩ := h.exists_type hg
      exact absurd rfl hmodel.kind_ne
    · rcases List.mem_cons.1 hg with hbase | hg
      · cases hbase
        cases hreceiver
      · obtain ⟨x, hx, hg⟩ := List.mem_flatMap.1 hg
        obtain ⟨_, _, hdrafted⟩ := h.methods.of_mem hx
        obtain rfl := hdrafted.func_mem_definitions.1 hg
        exact ⟨x.operation, h.methods.operation_mem hx, hdrafted.name⟩
  · rintro ⟨o, ho, hname⟩
    obtain ⟨x, hx, rfl, _, _, hdrafted⟩ := h.methods.exists_drafted ho
    have heq : x.name = n := Except.ok.inj (hdrafted.name.symm.trans hname)
    refine ⟨x.func, h.mem_definitions.2 (.inr ?_), rfl, heq⟩
    exact List.mem_cons_of_mem _ (List.mem_flatMap.2 ⟨x, hx, List.mem_cons_self⟩)

/-- A definition has a name that was not declared before. -/
theorem isDeclared_of_mem_names (h : c.Drafted depth api p q) {n : String} (hn : n ∈ q.names) :
    p.isDeclared n = false := by
  obtain ⟨x, hx, rfl⟩ := List.mem_map.1 hn
  rw [Package.isDeclared_eq_false]
  obtain hx | hx := h.mem_definitions.1 hx
  · rw [← Package.entryOf?_withFile p modelsPath]
    exact h.models.fresh x hx
  · have hfresh := h.appends.fresh x hx
    rw [Package.entryOf?_withFile] at hfresh
    by_contra hdeclared
    have hkept := h.models.isDeclared (n := x.name) (by
      rw [Package.isDeclared, Package.entryOf?_withFile]
      simpa [Option.isSome_iff_ne_none] using hdeclared)
    rw [Package.isDeclared, hfresh] at hkept
    cases hkept

end ClientStages.Drafted

/-- What the runtime declares is reserved, cannot be the name of an operation, or is an exported
field. -/
theorem reserved_or_lowered :
    (∀ n ∈ declaredNames runtimeLines, n ∈ runtimeNames) ∧
    (∀ n ∈ methodNames "Client" runtimeLines, n ∈ runtimeNames ∨ ¬Unlowered n.toList) ∧
    ∀ n ∈ fieldNames "Client" runtimeLines, n = "BaseURL" ∨ n = "HTTP" ∨ ¬Unlowered n.toList := by
  rw [declaredNames_runtime, methodNames_runtime, fieldNames_runtime]
  decide +kernel

/-- Generated definitions have no name that the runtime declares in the package, and generated
methods have that of no method of the client. They have that of no field exactly if no operation is
called like one that is exported. -/
theorem clearsRuntime_iff {depth : Option Int} {api : Model} {notes : List String} {d' : Draft}
    {u : Unit} (h : (draftPackage depth api).run ⟨Package.empty, notes⟩ = .ok u d') :
    (∀ n ∈ d'.package.names, n ∉ declaredNames runtimeLines) ∧
    (∀ n ∈ clientMethods d'.package, n ∉ methodNames "Client" runtimeLines) ∧
    (ClearsRuntime d'.package ↔ ∀ o ∈ api.operations,
      configuredName o.1 o.2 depth ≠ .ok "BaseURL" ∧
      configuredName o.1 o.2 depth ≠ .ok "HTTP") := by
  obtain ⟨c, hc⟩ := draftPackage_eq_ok h
  obtain ⟨hdeclared, hmethods, hfields⟩ := reserved_or_lowered
  have hfree (n : String) (hn : n ∈ d'.package.names) : n ∉ runtimeNames := by
    intro hreserved
    have hnew := hc.isDeclared_of_mem_names hn
    rw [isDeclared_runtimePackage hreserved] at hnew
    cases hnew
  have hunlowered (n : String) (hn : n ∈ clientMethods d'.package) : Unlowered n.toList := by
    obtain ⟨o, -, hname⟩ := hc.mem_clientMethods.1 hn
    exact unlowered_configuredName hname
  have hclear (n : String) (hn : n ∈ d'.package.names) : n ∉ declaredNames runtimeLines :=
    fun hmem => hfree n hn (hdeclared n hmem)
  have hclear' (n : String) (hn : n ∈ clientMethods d'.package) :
    n ∉ methodNames "Client" runtimeLines := by
    intro hmem
    obtain ⟨g, hg, -, rfl⟩ := mem_clientMethods_iff.1 hn
    obtain hreserved | hlowered := hmethods _ hmem
    · exact hfree _ (List.mem_map.2 ⟨_, hg, rfl⟩) hreserved
    · exact hlowered (hunlowered _ hn)
  refine ⟨hclear, hclear', fun hruntime o ho => ?_, fun hnames =>
    ⟨hclear, hclear', fun n hn hmem => ?_⟩⟩
  · have hfield : "BaseURL" ∈ fieldNames "Client" runtimeLines ∧
      "HTTP" ∈ fieldNames "Client" runtimeLines := by
      rw [fieldNames_runtime]
      decide
    exact ⟨fun hname => hruntime.fields _ (hc.mem_clientMethods.2 ⟨o, ho, hname⟩) hfield.1,
      fun hname => hruntime.fields _ (hc.mem_clientMethods.2 ⟨o, ho, hname⟩) hfield.2⟩
  · obtain ⟨o, ho, hname⟩ := hc.mem_clientMethods.1 hn
    obtain rfl | rfl | hlowered := hfields n hmem
    · exact (hnames o ho).1 hname
    · exact (hnames o ho).2 hname
    · exact hlowered (hunlowered n hn)

/-- A document with an operation that has a display name. -/
def namedDocument (name : String) : List (Value × Value) :=
  [(.text "title", .text "T"),
   (.text "/items", .mapping [(.text "get", .mapping [(.text "displayName", .text name)])])]

/-- The package for a document with the runtime. -/
def packageWithRuntime? (entries : List (Value × Value)) : Option Package :=
  match buildModel entries with
  | .ok api =>
    match (draftPackage (some 0) api).run ⟨Package.empty, []⟩ with
    | .ok _ d => some d.package
    | .error _ _ => none
  | .error _ => none

/-- A package with the runtime is drafted for the model that is built from a document. -/
theorem packageWithRuntime?_eq_some {entries : List (Value × Value)} {p : Package}
    (h : packageWithRuntime? entries = some p) : ∃ api d', buildModel entries = .ok api ∧
      (draftPackage (some 0) api).run ⟨Package.empty, []⟩ = .ok () d' ∧ d'.package = p := by
  unfold packageWithRuntime? at h
  split at h
  · rename_i api hapi
    split at h
    · exact ⟨api, _, hapi, ‹_›, Option.some.inj h⟩
    · cases h
  · cases h

/-- A method that is called `ListItems` keeps clear of the runtime. -/
theorem clearsRuntime_listed : ∃ api d', buildModel (namedDocument "list items") = .ok api ∧
    (draftPackage (some 0) api).run ⟨Package.empty, []⟩ = .ok () d' ∧
    "ListItems" ∈ clientMethods d'.package ∧ ClearsRuntime d'.package := by
  have hany : (packageWithRuntime? (namedDocument "list items")).any
      (fun p => (clientMethods p).contains "ListItems") = true := by decide +kernel
  obtain ⟨p, hp, hmethod⟩ := (Option.any_eq_true _ _).1 hany
  obtain ⟨api, d', hapi, hrun, rfl⟩ := packageWithRuntime?_eq_some hp
  have hnames : (buildModel (namedDocument "list items")).toOption.all (fun api =>
      api.operations.all fun o => (configuredName o.1 o.2 (some 0)).toOption.all
        fun name => name != "BaseURL" && name != "HTTP") = true := by decide +kernel
  simp only [hapi, Except.toOption, Option.all_some, List.all_eq_true] at hnames
  refine ⟨api, d', hapi, hrun, by
    simpa using hmethod, (clearsRuntime_iff hrun).2.2.2 fun o ho => ?_⟩
  have hname := hnames o ho
  constructor
  · intro heq
    simp [heq] at hname
  · intro heq
    simp [heq] at hname

/-- A method that is called `BaseURL` does not: the client has a field of this name. -/
theorem not_clearsRuntime_baseUrl : ∃ api d', buildModel (namedDocument "BaseURL") = .ok api ∧
    (draftPackage (some 0) api).run ⟨Package.empty, []⟩ = .ok () d' ∧
    ¬ClearsRuntime d'.package := by
  have hany : (packageWithRuntime? (namedDocument "BaseURL")).any
      (fun p => (clientMethods p).contains "BaseURL") = true := by decide +kernel
  obtain ⟨p, hp, hmethod⟩ := (Option.any_eq_true _ _).1 hany
  obtain ⟨api, d', hapi, hrun, rfl⟩ := packageWithRuntime?_eq_some hp
  refine ⟨api, d', hapi, hrun, fun hclears => ?_⟩
  have hfield : "BaseURL" ∈ fieldNames "Client" runtimeLines := by
    rw [fieldNames_runtime]
    decide
  exact hclears.fields "BaseURL" (by simpa using hmethod) hfield

end RamlClient.Client
