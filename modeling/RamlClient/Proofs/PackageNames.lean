import RamlClient.Proofs.BodyIdentifiers
import RamlClient.Proofs.Capitals
import RamlClient.Proofs.Endpoints
import RamlClient.Proofs.TypeTexts
/-!
# The packages that methods use

The statements of a method use other packages by their names. Which of these packages the body of a
method uses depends on what it has: query parameters, arguments for the path, a payload, and a
response that it decodes. Those are what the method imports besides the packages of its types.
-/

namespace RamlClient.Client

open Api Go

/-! ### Names of packages -/

/-- The imports that statements can need. -/
def statementPaths : List String := ["bytes", "encoding/json", "fmt", "net/http", "net/url"]

/-- The name that a package is used by: the last segment of its path. -/
def packageName (path : String) : String := String.ofList (Text.afterLastChar '/' path.toList)

/-- The names of the packages that statements can need. -/
def packageNames : List String := statementPaths.map packageName

/-- A text of code uses some of the packages by name. -/
abbrev Requires (code : String) (names : List String) : Prop :=
  Finds (packageNames.contains ·) code names

/-- The fixed parts of the statements for a query use packages to format values and to encode
them. -/
theorem requireQueryTexts : QueryTexts (packageNames.contains ·) [] ["fmt"] ["url"] :=
  (queryTexts_iff _ _ _ _).2 <| .imp finds_ofList
    (.imp finds_ofList <| .imp finds_ofList <| .imp finds_ofList <| .imp finds_ofList <|
    .imp finds_ofList <| .imp endsWithDot_ofList <| .imp endsWithDot_ofList <|
    .imp endsWithDot_ofList <| .imp finds_ofList <| .imp finds_ofList <| .imp finds_ofList <|
    .imp finds_ofList <| finds_ofList)
    (by decide +kernel)

/-- The fixed parts of the statements for a request use the packages it is made with. -/
theorem requireRequestTexts :
    RequestTexts (packageNames.contains ·) [] ["fmt"] ["json"] ["http"] ["bytes"] :=
  (requestTexts_iff _ _ _ _ _ _).2 <| .imp finds_ofList
    (.imp finds_ofList <| .imp finds_ofList <| .imp finds_ofList <| .imp finds_ofList <|
    .imp finds_ofList <| .imp finds_ofList <| .imp finds_ofList <| .imp finds_ofList <|
    .imp finds_ofList <|
    .imp finds_ofList <| .imp finds_ofList <| finds_ofList)
    (by decide +kernel)

/-- The fixed parts of the statements for a response use the package it is decoded with. -/
theorem requireResponseTexts : ResponseTexts (packageNames.contains ·) [] [] ["json"] :=
  (responseTexts_iff _ _ _ _).2 <| .imp finds_ofList
    (.imp finds_ofList <| .imp finds_ofList <| .imp finds_ofList <| .imp finds_ofList <|
    .imp finds_ofList <| .imp finds_ofList <| .imp finds_ofList <| .imp finds_ofList <|
    .imp finds_ofList <|
    .imp finds_ofList <| finds_ofList)
    (by decide +kernel)

example : Requires "body, err := json.Marshal(payload)\n" ["json"] :=
  finds_ofList (by decide +kernel)

/-! ### Types -/

/-- The marks at the start of a type text name nothing. -/
theorem readCode_stripMarks (cs rest : List Char) :
    readCode (.code false) (stripMarks cs ++ rest) = readCode (.code false) (cs ++ rest) := by
  induction cs using stripMarks.induct with
  | case1 r ih =>
    rw [stripMarks, ih]
    rfl
  | case2 r ih =>
    rw [stripMarks, ih]
    rfl
  | case3 cs hpointer hslice => rw [stripMarks.eq_3 cs hpointer hslice]

/-- A type text names what the type that it is about does. -/
theorem identifiers_baseType (text : String) : identifiers (baseType text) = identifiers text := by
  rw [identifiers, baseType, String.toList_ofList, readCode_stripMarks, identifiers]

/-- An exported identifier is not the name of a package. -/
theorem exportedName_notMem_packageNames (name : String) : exportedName name ∉ packageNames := by
  have hnames : ∀ n ∈ packageNames, ¬Unlowered n.toList := by decide +kernel
  exact fun hmem => hnames _ hmem (unlowered_exportedName name)

/-- No type uses the packages that statements can need. -/
theorem filter_identifiers_typeText (d : TypeDescriptor) :
    (identifiers (typeText d)).filter (packageNames.contains ·) = [] := by
  rw [← identifiers_baseType, baseType_typeText, leafType]
  cases leafKind d with
  | none => decide +kernel
  | some kind =>
    rw [Option.map_some, Option.getD_some, kindType]
    cases hscalar : scalarType? kind with
    | some type =>
      have hall : ∀ s ∈ scalarTypes, (identifiers s.2).filter (packageNames.contains ·) = [] := by
        decide +kernel
      obtain ⟨s, hs, rfl⟩ := Option.map_eq_some_iff.1 hscalar
      exact hall s (List.mem_of_find?_eq_some hs)
    | none =>
      have hword := isWordChar_of_alphanumeric (alphanumeric_exportedName kind)
      rw [Option.getD_none, identifiers, readCode_word_mark hword (by decide), endWord]
      split
      · simpa [String.ofList_toList] using exportedName_notMem_packageNames kind
      · rfl

/-- The declaration of a result uses no package of the statements. -/
theorem requires_resultStatement (response : Option Response) :
    Requires (resultStatement (resultType response)) [] := by
  cases htype : resultType response with
  | none => exact ⟨rfl, rfl⟩
  | some type =>
    obtain ⟨d, -, rfl, -⟩ := resultType_eq_some_iff.1 htype
    have hline : Requires (typeText d ++ "\n") [] :=
      filter_identifiers_typeText d ▸ finds_line (quoteless_typeText d)
    rw [resultStatement, String.append_assoc]
    exact requireRequestTexts.result.append hline

/-! ### Bodies -/

/-- A text uses the packages that are found in it. -/
theorem mem_identifiers_iff {code path : String} {names : List String} (h : Requires code names)
    (hpath : path ∈ statementPaths) : packageName path ∈ identifiers code ↔
    packageName path ∈ names := by
  have hname : packageName path ∈ packageNames := List.mem_map_of_mem hpath
  rw [← h.filter_identifiers, List.mem_filter]
  simp [hname]

/-- The function for the base address uses no packages. -/
theorem packageName_notMem_baseFunc (api : Model) {path : String} (hpath : path ∈ statementPaths) :
    packageName path ∉ identifiers (Text.concat (baseFunc api).body) := by
  have htexts :
    ((readCode (.code false) "\treturn ".toList).1.filter (packageNames.contains ·) = [] ∧
      (readCode (.code false) "\treturn ".toList).2 = .code false) ∧
      ((readCode (.code false) "\n".toList).1.filter (packageNames.contains ·) = [] ∧
        (readCode (.code false) "\n".toList).2 = .code false) := by decide +kernel
  have hreturn : Requires "\treturn " [] := ⟨htexts.1.1, htexts.1.2⟩
  have hend : Requires "\n" [] := ⟨htexts.2.1, htexts.2.2⟩
  have hall := (hreturn.append (finds_literal api.defaultBaseUrl)).append hend
  have hbody : Text.concat (baseFunc api).body =
    "\treturn " ++ literal api.defaultBaseUrl ++ "\n" := by
    rw [← String.toList_inj, toList_concat]
    simp [baseFunc]
  rw [hbody, mem_identifiers_iff hall hpath]
  exact List.not_mem_nil

/-- The parameters of a path have no names of packages. -/
theorem filter_pathNames (parameters : List Parameter) :
    (pathNames parameters).filter (packageNames.contains ·) = [] := by
  have hlocal : ∀ n ∈ packageNames, n ∈ localNames := by decide +kernel
  refine List.filter_eq_nil_iff.2 fun n hn hpackage => ?_
  exact (of_mem_pathArgs (List.mem_filter.1 hn).1).1 (hlocal n (by simpa using hpackage))

/-- The paths of the packages that the body of a method uses. -/
def methodPaths (r : Resource) (m : Method) (response : Option Response)
    (contentType : Option String) :
    List String :=
  ["net/http"] ++ (if m.allQueryParameters.isEmpty then [] else ["net/url", "fmt"]) ++
    (if contentType.isSome then ["bytes", "encoding/json"] else []) ++ statementImports r response

/-- The body of a method uses exactly the packages of its paths. -/
theorem packageName_mem_identifiers_methodBody (r : Resource) (m : Method)
    (response : Option Response) (contentType : Option String) {path : String}
    (hpath : path ∈ statementPaths) :
    packageName path ∈ identifiers (Text.concat (methodBody r m response contentType)) ↔
      path ∈ methodPaths r m response contentType := by
  have hbody := finds_methodBody (requires_resultStatement response)
    (finds_queryStatements requireQueryTexts m.allQueryParameters)
    (finds_payloadStatements requireRequestTexts contentType (resultType response))
    (finds_requestStatements requireRequestTexts r m contentType (resultType response))
    (finds_headerStatement requireRequestTexts contentType)
    (finds_responseStatements requireRequestTexts requireResponseTexts response)
  have hresponse : (resultType response).isSome = true → response ≠ none := by
    rintro hsome rfl
    exact absurd hsome (by decide)
  have hquery :
    (m.allQueryParameters.flatMap fun p => (if p.type.required then [] else []) ++ ["fmt"]) =
      m.allQueryParameters.map fun _ => "fmt" := by
    rw [List.map_eq_flatMap]
    exact List.flatMap_congr fun p _ => by simp
  rw [mem_identifiers_iff hbody hpath, filter_pathNames, hquery]
  have hnames : packageName "bytes" = "bytes" ∧ packageName "encoding/json" = "json" ∧
      packageName "fmt" = "fmt" ∧ packageName "net/http" = "http" ∧
        packageName "net/url" = "url" := by
    decide +kernel
  obtain ⟨hbytes, hjson, hfmt, hhttp, hurl⟩ := hnames
  simp only [statementPaths, List.mem_cons, List.not_mem_nil, or_false] at hpath
  rcases hpath with rfl | rfl | rfl | rfl | rfl
  · simp [hbytes, methodPaths, statementImports]
  · have hdecoded : ¬response = none ∧ (resultType response).isSome = true ↔
        (resultType response).isSome = true := and_iff_right_of_imp hresponse
    simp [hjson, methodPaths, statementImports, hdecoded]
  · simp [hfmt, methodPaths, statementImports]
  · simp [hhttp, methodPaths, statementImports]
  · simp [hurl, methodPaths, statementImports]

end RamlClient.Client
