import Mathlib.Tactic.MkIffOfInductiveProp
import RamlClient.Client.Operations
import RamlClient.Proofs.CodeReader
import RamlClient.Proofs.TypeTexts
/-!
# The identifiers in the bodies of methods

The statements of a method are complete texts of code, so the identifiers of its body are those of
its statements. Besides the names that arguments for the path keep clear of, these are the arguments
for the path themselves and a few others: nil, those in the type of the result, and the error for a
status.
-/

namespace RamlClient.Client

open Api Go

/-! ### Texts of code -/

/-- A text of code begins and ends outside of words and string literals, and some of its identifiers
are known: those that are kept. -/
structure Finds (keep : String → Bool) (code : String) (names : List String) : Prop where
  /-- The names are found in their order. -/
  names : (readCode (.code false) code.toList).1.filter keep = names
  /-- The text is complete. -/
  complete : (readCode (.code false) code.toList).2 = .code false

/-- A text of code uses some names besides those that are kept clear of. -/
abbrev Uses (code : String) (names : List String) : Prop := Finds (· ∉ localNames) code names

section

variable {keep : String → Bool} {a b code : String} {as bs names : List String}

/-- A text that is written out is read as its characters. -/
theorem finds_ofList {cs : List Char}
    (h : (readCode (.code false) cs).1.filter keep = names ∧
      (readCode (.code false) cs).2 = .code false) :
    Finds keep (String.ofList cs) names := by
  constructor
  · rw [String.toList_ofList, h.1]
  · rw [String.toList_ofList, h.2]

/-- The identifiers of two texts in a row are those of the one and then those of the other. -/
theorem Finds.append (ha : Finds keep a as) (hb : Finds keep b bs) :
    Finds keep (a ++ b) (as ++ bs) := by
  have hread := readCode_append (.code false) a.toList b.toList
  rw [ha.complete, ← String.toList_append] at hread
  constructor
  · rw [hread, List.filter_append, ha.names, hb.names]
  · rw [hread, hb.complete]

/-- The identifiers of texts in a row are those of one after the other. -/
theorem Finds.concat {α : Type} {f : α → String} {g : α → List String} {xs : List α}
    (h : ∀ x ∈ xs, Finds keep (f x) (g x)) :
    Finds keep (Text.concat (xs.map f)) (xs.flatMap g) := by
  induction xs with
  | nil => exact ⟨rfl, rfl⟩
  | cons x rest ih =>
    obtain ⟨hx, hrest⟩ := List.forall_mem_cons.1 h
    have happend := hx.append (ih hrest)
    have hconcat : Text.concat ((x :: rest).map f) = f x ++ Text.concat (rest.map f) := by
      rw [← String.toList_inj, String.toList_append, toList_concat, toList_concat]
      rfl
    rwa [hconcat]

/-- Indentation adds no identifiers. -/
theorem Finds.indentLines (h : Finds keep code names) :
    Finds keep (Text.indentLines code) names := by
  have hread := readCode_indentLines (.inl rfl) code
  exact ⟨by rw [hread, h.names], by rw [hread, h.complete]⟩

/-- A literal has no identifiers. -/
theorem finds_literal (s : String) : Finds keep (literal s) [] := by
  have hread := readCode_literal false s.toList
  rw [literal]
  exact ⟨by rw [String.toList_ofList, hread, List.filter_nil], by rw [String.toList_ofList, hread]⟩

/-- A text of code has no identifiers that are kept, and it ends with a dot. -/
def EndsWithDot (keep : String → Bool) (code : String) : Prop :=
  (readCode (.code false) code.toList).1.filter keep = [] ∧
    (readCode (.code false) code.toList).2 = .code true

/-- What stands behind a dot is not used by itself. -/
theorem finds_selector {start field : String} (hstart : EndsWithDot keep start)
    (hfield : Alphanumeric field.toList) {mark : Char} {cs : List Char}
    (hmark : isWordChar mark = false) (h : Finds keep (String.ofList (mark :: cs)) names) :
    Finds keep (start ++ field ++ String.ofList (mark :: cs)) names := by
  have hread := readCode_append (.code false) start.toList (field.toList ++ mark :: cs)
  rw [hstart.2, readCode_word_cons (isWordChar_of_alphanumeric hfield) hmark] at hread
  have htext : (start ++ field ++ String.ofList (mark :: cs)).toList =
      start.toList ++ (field.toList ++ mark :: cs) := by simp
  have hnames := h.names
  have hcomplete := h.complete
  rw [String.toList_ofList] at hnames hcomplete
  constructor
  · rw [htext, hread, List.filter_append, hstart.1, List.filter_append, hnames]
    simp [endWord]
  · rw [htext, hread, hcomplete]

/-- A dot at the end of a text that is written out is found by reading its characters. -/
theorem endsWithDot_ofList {cs : List Char}
    (h : (readCode (.code false) cs).1.filter keep = [] ∧
      (readCode (.code false) cs).2 = .code true) :
    EndsWithDot keep (String.ofList cs) := by
  rwa [EndsWithDot, String.toList_ofList]

end

/-! ### Fixed texts -/

/-- The fixed texts of the statements for query parameters. What is kept of their identifiers are
those for the comparison with nil, for the package that formats values, and for the one of the
values. -/
@[mk_iff]
structure QueryTexts (keep : String → Bool) (nils formats urls : List String) : Prop where
  loop : Finds keep "\tfor _, item := range " []
  add : Finds keep " \x7b\n\t\tv.Add(" []
  addItem : Finds keep ", fmt.Sprint(item))\n\t\x7d\n" formats
  set : Finds keep "\tv.Set(" []
  setFormat : Finds keep ", fmt.Sprint(" formats
  setEnd : Finds keep "))\n" []
  field : EndsWithDot keep "query."
  pointer : EndsWithDot keep "*query."
  present : EndsWithDot keep "\tif query."
  isPresent : Finds keep " != nil \x7b\n" nils
  blockEnd : Finds keep "\t\x7d\n" []
  none : Finds keep "\tq := \x22\x22\n" []
  values : Finds keep "\tv := url.Values\x7b\x7d\n" urls
  encode : Finds keep "\tq := \x22?\x22 + v.Encode()\n" []

-- The texts are read together because each evaluation has to go through all keywords first.

/-- The fixed parts of the statements for a query add `nil` besides local names. -/
theorem queryTexts : QueryTexts (· ∉ localNames) ["nil"] [] [] :=
  (queryTexts_iff _ _ _ _).2 <| .imp finds_ofList
    (.imp finds_ofList <| .imp finds_ofList <| .imp finds_ofList <| .imp finds_ofList <|
    .imp finds_ofList <| .imp endsWithDot_ofList <| .imp endsWithDot_ofList <|
    .imp endsWithDot_ofList <| .imp finds_ofList <| .imp finds_ofList <| .imp finds_ofList <|
    .imp finds_ofList <| finds_ofList)
    (by decide +kernel)

/-- The fixed texts of the statements for the request. What is kept of their identifiers are those
for nil, and for the packages that format the path, encode the payload, create the request and read
its body. -/
@[mk_iff]
structure RequestTexts (keep : String → Bool)
    (nils formats encoders creators readers : List String) : Prop where
  result : Finds keep "\tvar typ " []
  format : Finds keep "fmt.Sprintf(" formats
  onError : Finds keep "\tif err != nil \x7b\n\t\treturn " nils
  failure : Finds keep "nil, err\n\t\x7d\n" nils
  resultFailure : Finds keep "nil, typ, err\n\t\x7d\n" nils
  encode : Finds keep "\tbody, err := json.Marshal(payload)\n" encoders
  create : Finds keep "\treq, err := http.NewRequest(" creators
  address : Finds keep ", c.url(" []
  query : Finds keep " + q), " []
  reader : Finds keep "bytes.NewReader(body))\n" readers
  noReader : Finds keep "nil)\n" nils
  header : Finds keep "\treq.Header.Set(\x22Content-Type\x22, " []
  headerEnd : Finds keep ")\n" []

/-- The fixed parts of the statements for a request add `nil` besides local names. -/
theorem requestTexts : RequestTexts (· ∉ localNames) ["nil"] [] [] [] [] :=
  (requestTexts_iff _ _ _ _ _ _).2 <| .imp finds_ofList
    (.imp finds_ofList <| .imp finds_ofList <| .imp finds_ofList <| .imp finds_ofList <|
    .imp finds_ofList <| .imp finds_ofList <| .imp finds_ofList <| .imp finds_ofList <|
    .imp finds_ofList <|
    .imp finds_ofList <| .imp finds_ofList <| finds_ofList)
    (by decide +kernel)

/-- The fixed texts of the statements for the response. What is kept of their identifiers are those
for nil, for the error of a status, and for the package that decodes the response. -/
@[mk_iff]
structure ResponseTexts (keep : String → Bool) (nils statuses decoders : List String) : Prop where
  undecoded : Finds keep "\treturn c.do(req)\n" []
  send : Finds keep "\tres, err := c.do(req)\n" []
  status : Finds keep "\tif res.StatusCode >= 300 \x7b\n\t\treturn " []
  statusError : Finds keep "&StatusError\x7bResponse: res\x7d\n\t\x7d\n" statuses
  values : Finds keep "res, " []
  resultValues : Finds keep "res, typ, " []
  failure : Finds keep "res, err\n\t\x7d\n" []
  resultFailure : Finds keep "res, typ, err\n\t\x7d\n" []
  done : Finds keep "\treturn res, nil\n" nils
  close : Finds keep "\tdefer res.Body.Close()\n" []
  decode : Finds keep "\tif err := json.NewDecoder(res.Body).Decode(&typ); err != nil \x7b\n"
    (decoders ++ nils)
  resultDone : Finds keep "\t\treturn res, typ, err\n\t\x7d\n\treturn res, typ, nil\n" nils

/-- The fixed parts of the statements for a response add `nil` and the type of the error. -/
theorem responseTexts : ResponseTexts (· ∉ localNames) ["nil"] ["StatusError"] [] :=
  (responseTexts_iff _ _ _ _).2 <| .imp finds_ofList
    (.imp finds_ofList <| .imp finds_ofList <| .imp finds_ofList <| .imp finds_ofList <|
    .imp finds_ofList <| .imp finds_ofList <| .imp finds_ofList <| .imp finds_ofList <|
    .imp finds_ofList <|
    .imp finds_ofList <| finds_ofList)
    (by decide +kernel)

example : Finds (· ∉ localNames) "\treturn res, typ, nil\n" ["nil"] :=
  finds_ofList (by decide +kernel)

section

variable {keep : String → Bool}
  {nils formats urls encoders creators readers statuses decoders : List String}

/-! ### Query parameters -/

/-- The statement that sets a value of a query has the identifiers of its fixed parts. -/
theorem finds_valueSetter (h : QueryTexts keep nils formats urls) {start field : String}
    (hstart : EndsWithDot keep start) (hfield : Alphanumeric field.toList) (name : String)
    (isArray : Bool) :
    Finds keep (valueSetter (literal name) (start ++ field) isArray) formats := by
  unfold valueSetter
  split
  · have hvalue : Finds keep (start ++ field ++ " \x7b\n\t\tv.Add(") [] :=
      finds_selector hstart hfield (by decide) h.add
    have hall := ((h.loop.append hvalue).append (finds_literal name)).append h.addItem
    simp only [String.append_assoc] at hall ⊢
    exact hall
  · have hvalue : Finds keep (start ++ field ++ "))\n") [] :=
      finds_selector hstart hfield (by decide) h.setEnd
    have hall := ((h.set.append (finds_literal name)).append h.setFormat).append hvalue
    simp only [String.append_assoc, List.nil_append, List.append_nil] at hall ⊢
    exact hall

/-- An optional query parameter is compared with nil, and all are formatted. -/
theorem finds_querySetter (h : QueryTexts keep nils formats urls) (p : Parameter) {field : String}
    (hfield : Alphanumeric field.toList) :
    Finds keep (querySetter p field) ((if p.type.required then [] else nils) ++ formats) := by
  unfold querySetter
  split
  · exact finds_valueSetter h h.field hfield _ _
  · have hcond : Finds keep ("\tif query." ++ field ++ " != nil \x7b\n") nils :=
      finds_selector h.present hfield (by decide) h.isPresent
    have hset := (finds_valueSetter h h.pointer hfield p.name p.type.isArray).indentLines
    have hall := (hcond.append hset).append h.blockEnd
    rwa [List.append_nil] at hall

/-- The identifiers of the statements for a query, parameter by parameter. -/
theorem finds_queryStatements (h : QueryTexts keep nils formats urls)
    (parameters : List Parameter) :
    Finds keep (queryStatements parameters) (if parameters.isEmpty then [] else
      urls ++ parameters.flatMap fun p => (if p.type.required then [] else nils) ++ formats) := by
  unfold queryStatements
  split
  · exact h.none
  · have hsetters :
      Finds keep (Text.concat (parameters.map fun p => querySetter p (exportedName p.name)))
        (parameters.flatMap fun p => (if p.type.required then [] else nils) ++ formats) :=
      .concat fun p _ => finds_querySetter h p (alphanumeric_exportedName p.name)
    have hall := (h.values.append hsetters).append h.encode
    rwa [List.append_nil] at hall

/-- The names that the statement for a query parameter uses: an optional one is compared with
nil. -/
def queryNames (p : Parameter) : List String := if p.type.required then [] else ["nil"]

/-- The names that the statements for a query use. -/
theorem uses_queryStatements (parameters : List Parameter) :
    Uses (queryStatements parameters) (parameters.flatMap queryNames) := by
  have hfinds := finds_queryStatements queryTexts parameters
  cases parameters with
  | nil => exact hfinds
  | cons p r =>
    simp only [List.append_nil] at hfinds
    exact hfinds

/-! ### The result -/

/-- A text has no double quotes. -/
def Quoteless (cs : List Char) : Prop := ∀ c ∈ cs, c ≠ Text.doubleQuote

instance (cs : List Char) : Decidable (Quoteless cs) :=
  decidable_of_iff (cs.all (· != Text.doubleQuote) = true) (by simp [Quoteless])

/-- A reader stands outside of string literals. -/
def Unquoted (s : ReaderState) : Prop := s ≠ .quoted ∧ s ≠ .escaped

/-- Outside of quotes, a character that is no quote leaves the reader there. -/
theorem Unquoted.readerStep {s : ReaderState} (h : Unquoted s) {c : Char}
    (hc : c ≠ Text.doubleQuote) :
    Unquoted (readerStep s c).2 := by
  have hmark : Unquoted (afterMark c) := by simp [Unquoted, afterMark, hc]
  cases s with
  | code selector =>
    rw [Go.readerStep]
    dsimp only
    split
    · simp [Unquoted]
    · exact hmark
  | word selector w =>
    rw [Go.readerStep]
    split
    · simp [Unquoted]
    · exact hmark
  | quoted => exact absurd rfl h.1
  | escaped => exact absurd rfl h.2

/-- Outside of quotes, a text without quotes leaves the reader there. -/
theorem Unquoted.readCode {s : ReaderState} (h : Unquoted s) {cs : List Char}
    (hcs : Quoteless cs) : Unquoted (readCode s cs).2 := by
  induction cs generalizing s with
  | nil => exact h
  | cons c r ih =>
    obtain ⟨hc, hr⟩ := List.forall_mem_cons.1 hcs
    exact ih (h.readerStep hc) hr

/-- A line without string literals is complete. -/
theorem finds_line {keep : String → Bool} {code : String} (h : Quoteless code.toList) :
    Finds keep (code ++ "\n") ((identifiers code).filter keep) := by
  have htext : (code ++ "\n").toList = code.toList ++ ['\n'] := String.toList_append
  refine ⟨by rw [htext, identifiers], ?_⟩
  have hunquoted : Unquoted (readCode (.code false) code.toList).2 :=
    Unquoted.readCode (by simp [Unquoted]) h
  rw [htext, readCode_append]
  generalize (readCode (.code false) code.toList).2 = s at hunquoted
  cases s with
  | code selector => rfl
  | word selector w => rfl
  | quoted => exact absurd rfl hunquoted.1
  | escaped => exact absurd rfl hunquoted.2

/-- The texts of types have no quotes. -/
theorem quoteless_typeText (d : TypeDescriptor) : Quoteless (typeText d).toList := by
  intro c hc hquote
  have hmark := mem_typeText d c hc
  rw [hquote] at hmark
  exact absurd hmark (by decide)

/-- The names in the type of what a method decodes. -/
def resultNames (response : Option Response) : List String :=
  ((resultType response).map identifiers).getD []

/-- The names that the declaration of a result uses. -/
theorem uses_resultStatement (response : Option Response) :
    Uses (resultStatement (resultType response))
      ((resultNames response).filter (· ∉ localNames)) := by
  rw [resultNames]
  cases htype : resultType response with
  | none => exact ⟨rfl, rfl⟩
  | some type =>
    obtain ⟨d, -, rfl, -⟩ := resultType_eq_some_iff.1 htype
    rw [resultStatement, String.append_assoc]
    exact requestTexts.result.append (finds_line (quoteless_typeText d))

/-! ### The request -/

/-- The arguments of a call after the first one are used if they name something. Each one ends with
a comma or with the closing bracket. -/
theorem readCode_arguments {ss : List String} (h : ∀ s ∈ ss, Alphanumeric s.toList) :
    readCode (.code false) ((ss.flatMap fun s => ", ".toList ++ s.toList) ++ ")".toList) =
      (ss.filter fun s => isIdentifier s.toList, .code false) := by
  induction ss with
  | nil => decide +kernel
  | cons s rest ih =>
    obtain ⟨hs, hrest⟩ := List.forall_mem_cons.1 h
    have ih := ih hrest
    have hcomma : readCode (.code false) ", ".toList = ([], .code false) := by decide +kernel
    obtain ⟨mark, more, hmore, hmark⟩ : ∃ mark more,
        (rest.flatMap fun s => ", ".toList ++ s.toList) ++ ")".toList = mark :: more ∧
          isWordChar mark = false ∧ mark ≠ ':' := by
      cases rest with
      | nil => exact ⟨')', [], by decide +kernel, by decide⟩
      | cons t more => exact ⟨',', _, rfl, by decide⟩
    rw [hmore] at ih
    rw [List.flatMap_cons, List.append_assoc, List.append_assoc, hmore, readCode_append, hcomma,
      readCode_word_cons (isWordChar_of_alphanumeric hs) hmark.1, ih, List.filter_cons]
    by_cases hname : isIdentifier s.toList = true
    · simp [endWord, hname, hmark.2]
    · simp [endWord, hname]

/-- The names of the arguments for a path that a body uses: those that name something. -/
def pathNames (parameters : List Parameter) : List String :=
  ((pathArgs parameters).map (·.name)).filter fun n => isIdentifier n.toList

/-- What stands in for a local name is none. -/
theorem param_notMem {n : String} (h : n ∈ localNames) : n ++ "Param" ∉ localNames := by
  have hall : ∀ n ∈ localNames, n ++ "Param" ∉ localNames := by decide +kernel
  exact hall n h

/-- The arguments for a path keep clear of the local names. -/
theorem pathArgName_notMem (name : String) : pathArgName name ∉ localNames := by
  unfold pathArgName
  dsimp only
  split
  · exact param_notMem ‹_›
  · assumption

/-- The names of arguments for a path are letters and digits. -/
theorem alphanumeric_pathArgName (name : String) : Alphanumeric (pathArgName name).toList := by
  have hid := alphanumeric_identifier name false
  unfold pathArgName
  dsimp only
  split
  · rw [String.toList_append]
    exact hid.append (by decide +kernel)
  · exact hid

/-- The arguments for a path are no local names, and they are letters and digits. -/
theorem of_mem_pathArgs {parameters : List Parameter} {n : String}
    (h : n ∈ (pathArgs parameters).map (·.name)) : n ∉ localNames ∧ Alphanumeric n.toList := by
  have hname : ∃ p ∈ parameters, pathArgName p.name = n := by simpa [pathArgs] using h
  obtain ⟨p, -, hname⟩ := hname
  have hnot := pathArgName_notMem p.name
  have halpha := alphanumeric_pathArgName p.name
  rw [hname] at hnot halpha
  exact ⟨hnot, halpha⟩

/-- The identifiers of the expression for a path: its formatter and the parameters. -/
theorem finds_pathExpression (h : RequestTexts keep nils formats encoders creators readers)
    (r : Resource) :
    Finds keep (pathExpression r) (if r.uriParameters.isEmpty then [] else
      formats ++ (pathNames r.uriParameters).filter keep) := by
  unfold pathExpression
  split
  · exact finds_literal r.path
  · have hformat := h.format.append (finds_literal (pathTemplate r.path r.uriParameters))
    have hwords : ∀ n ∈ (pathArgs r.uriParameters).map (·.name), Alphanumeric n.toList :=
      fun n hn => (of_mem_pathArgs hn).2
    have harguments := readCode_arguments hwords
    have htext : (call "fmt.Sprintf" (literal (pathTemplate r.path r.uriParameters) ::
        (pathArgs r.uriParameters).map (·.name))).toList =
        ("fmt.Sprintf(" ++ literal (pathTemplate r.path r.uriParameters)).toList ++
          ((((pathArgs r.uriParameters).map (·.name)).flatMap fun s => ", ".toList ++ s.toList) ++
            ")".toList) := by
      rw [call, String.toList_append, String.toList_append, toList_join_cons]
      simp
    have hread := readCode_append (.code false)
      ("fmt.Sprintf(" ++ literal (pathTemplate r.path r.uriParameters)).toList
      ((((pathArgs r.uriParameters).map (·.name)).flatMap fun s => ", ".toList ++ s.toList) ++
        ")".toList)
    rw [← htext, hformat.complete, harguments] at hread
    constructor
    · rw [hread, List.filter_append, hformat.names, List.append_nil, pathNames]
    · rw [hread]

/-- The identifiers of a check for an error: `nil` and those of the values it returns. -/
theorem finds_returnOnError (h : RequestTexts keep nils formats encoders creators readers)
    {code : String} {names : List String} (hvalues : Finds keep (code ++ "\n\t\x7d\n") names) :
    Finds keep (returnOnError code) (nils ++ names) := by
  unfold returnOnError
  rw [String.append_assoc]
  exact h.onError.append hvalues

/-- The values that are returned with an error have no identifiers besides `nil`. -/
theorem finds_failureValues (h : RequestTexts keep nils formats encoders creators readers)
    (result : Option String) : Finds keep (failureValues result ++ "\n\t\x7d\n") nils := by
  rw [failureValues]
  split
  · exact h.resultFailure
  · exact h.failure

/-- The identifiers of the statements that encode a payload, if there is one. -/
theorem finds_payloadStatements (h : RequestTexts keep nils formats encoders creators readers)
    (contentType result : Option String) : Finds keep (payloadStatements contentType result)
      (if contentType.isSome then encoders ++ (nils ++ nils) else []) := by
  cases contentType with
  | none => exact ⟨rfl, rfl⟩
  | some type => exact h.encode.append (finds_returnOnError h (finds_failureValues h result))

/-- The identifiers of the statements for a request, statement by statement. -/
theorem finds_requestStatements (h : RequestTexts keep nils formats encoders creators readers)
    (r : Resource) (m : Method) (contentType result : Option String) :
    Finds keep (requestStatements r m contentType result)
      (creators ++
        ((if r.uriParameters.isEmpty then [] else formats ++ (pathNames r.uriParameters).filter
        keep) ++ ((if contentType.isSome then readers else nils) ++ (nils ++ nils)))) := by
  have hreader :
    Finds keep ((if contentType.isSome then "bytes.NewReader(body)" else "nil") ++ ")\n")
      (if contentType.isSome then readers else nils) := by
    split
    · exact h.reader
    · exact h.noReader
  have hcall := (((h.create.append (finds_literal (Text.upper m.verb))).append
    h.address).append (finds_pathExpression h r)).append h.query
  have hall := (hcall.append hreader).append (finds_returnOnError h (finds_failureValues h result))
  unfold requestStatements
  simp only [String.append_assoc, List.append_assoc, List.nil_append] at hall ⊢
  exact hall

/-- The statement for a header has no identifiers besides local names. -/
theorem finds_headerStatement (h : RequestTexts keep nils formats encoders creators readers)
    (contentType : Option String) : Finds keep (headerStatement contentType) [] := by
  cases contentType with
  | none => exact ⟨rfl, rfl⟩
  | some type => exact (h.header.append (finds_literal type)).append h.headerEnd

/-- The names that the statements for the payload use. -/
def payloadNames (contentType : Option String) : List String :=
  if contentType.isSome then ["nil", "nil"] else []

/-- The names that the statements for a payload use. -/
theorem uses_payloadStatements (contentType result : Option String) :
    Uses (payloadStatements contentType result) (payloadNames contentType) :=
  finds_payloadStatements requestTexts contentType result

/-- The names besides those of the path that the statements for the request use. -/
def requestNames (contentType : Option String) : List String :=
  (if contentType.isSome then [] else ["nil"]) ++ ["nil", "nil"]

/-- The names that the statements for a request use. -/
theorem uses_requestStatements (r : Resource) (m : Method) (contentType result : Option String) :
    Uses (requestStatements r m contentType result)
      (pathNames r.uriParameters ++ requestNames contentType) := by
  have hpath : (if r.uriParameters.isEmpty then [] else
      [] ++ (pathNames r.uriParameters).filter (· ∉ localNames)) = pathNames r.uriParameters := by
    split
    · rename_i hnil
      rw [List.isEmpty_iff.1 hnil]
      rfl
    · refine List.filter_eq_self.2 fun n hn => ?_
      simpa using (of_mem_pathArgs (List.mem_filter.1 hn).1).1
  have hall := finds_requestStatements requestTexts r m contentType result
  rwa [hpath] at hall

/-! ### The response -/

/-- The identifiers of the statements for a response, if one is declared. -/
theorem finds_responseStatements (hq : RequestTexts keep nils formats encoders creators readers)
    (h : ResponseTexts keep nils statuses decoders) (response : Option Response) :
    Finds keep (responseStatements response (resultType response)) (if response.isNone then [] else
      nils ++ (statuses ++
        if (resultType response).isSome then decoders ++ (nils ++ nils) else nils)) := by
  cases response with
  | none => exact h.undecoded
  | some response =>
    unfold responseStatements
    dsimp only
    generalize (resultType (some response)).isSome = decoded
    cases decoded with
    | false =>
      have hfailure : Finds keep ("res, " ++ "err" ++ "\n\t\x7d\n") [] := h.failure
      have hleave := (((h.send.append (finds_returnOnError hq hfailure)).append h.status).append
        h.values).append h.statusError
      simp only [Bool.false_eq_true, if_false]
      have hall := hleave.append h.done
      simp only [List.nil_append, List.append_nil, List.append_assoc] at hall
      exact hall
    | true =>
      have hfailure : Finds keep ("res, typ, " ++ "err" ++ "\n\t\x7d\n") [] := h.resultFailure
      have hleave := (((h.send.append (finds_returnOnError hq hfailure)).append h.status).append
        h.resultValues).append h.statusError
      simp only [if_true]
      have hall := hleave.append ((h.close.append h.decode).append h.resultDone)
      simp only [List.nil_append, List.append_nil, List.append_assoc] at hall
      exact hall

/-- The names that the statements for the response use. -/
def responseNames (response : Option Response) : List String :=
  match response with
  | none => []
  | some _ => ["nil", "StatusError", "nil"] ++ if (resultType response).isSome then ["nil"] else []

/-- The names that the statements for a response use. -/
theorem uses_responseStatements (response : Option Response) :
    Uses (responseStatements response (resultType response)) (responseNames response) := by
  have hfinds := finds_responseStatements requestTexts responseTexts response
  cases response with
  | none => exact hfinds
  | some response =>
    rw [responseNames]
    generalize (resultType (some response)).isSome = decoded at hfinds ⊢
    cases decoded <;> exact hfinds

end

/-! ### Bodies -/

/-- The names in the body of a method besides the local ones and the arguments for the path. -/
def otherNames (m : Method) (response : Option Response) (contentType : Option String) :
    List String :=
  (resultNames response).filter (· ∉ localNames) ++ m.allQueryParameters.flatMap queryNames ++
    payloadNames contentType ++ requestNames contentType ++ responseNames response

/-- What is found in the body of a method is found in its statements. -/
theorem finds_methodBody {keep : String → Bool} {r : Resource} {m : Method}
    {response : Option Response} {contentType : Option String}
    {results queries payloads requests headers responses : List String}
    (hresult : Finds keep (resultStatement (resultType response)) results)
    (hquery : Finds keep (queryStatements m.allQueryParameters) queries)
    (hpayload : Finds keep (payloadStatements contentType (resultType response)) payloads)
    (hrequest : Finds keep (requestStatements r m contentType (resultType response)) requests)
    (hheader : Finds keep (headerStatement contentType) headers)
    (hresponse : Finds keep (responseStatements response (resultType response)) responses) :
    Finds keep (Text.concat (methodBody r m response contentType))
      (results ++ queries ++ payloads ++ (requests ++ (headers ++ responses))) := by
  have hbody := ((hresult.append hquery).append hpayload).append
    (hrequest.append (hheader.append hresponse))
  have htext (a b c d : String) : Text.concat [a, b, c, d] = a ++ (b ++ (c ++ d)) := by
    rw [← String.toList_inj, toList_concat]
    simp
  unfold methodBody
  dsimp only
  rwa [htext]

/-- The body of a method uses the arguments for the path and the other names. -/
theorem uses_methodBody (r : Resource) (m : Method) (response : Option Response)
    (contentType : Option String) :
    ∃ names, Uses (Text.concat (methodBody r m response contentType)) names ∧
      names.Perm (pathNames r.uriParameters ++ otherNames m response contentType) := by
  have hbody := finds_methodBody (uses_resultStatement response)
    (uses_queryStatements m.allQueryParameters)
      (uses_payloadStatements contentType (resultType response))
    (uses_requestStatements r m contentType (resultType response))
    (finds_headerStatement requestTexts contentType) (uses_responseStatements response)
  refine ⟨_, hbody, ?_⟩
  rw [List.nil_append, List.append_assoc (pathNames _), otherNames,
    List.append_assoc _ (requestNames _)]
  exact List.perm_append_comm_assoc _ _ _

/-- The identifiers of a complete text that are kept are the ones found. -/
theorem Finds.filter_identifiers {keep : String → Bool} {code : String} {names : List String}
    (h : Finds keep code names) : (identifiers code).filter keep = names := by
  have hread : identifiers code = (readCode (.code false) code.toList).1 := by
    rw [identifiers, readCode_append, h.complete]
    exact List.append_nil _
  rw [hread, h.names]

/-- A name that is not local occurs as often as it is used. -/
theorem Finds.count_identifiers {code : String} {names : List String} (h : Uses code names)
    {n : String} (hn : n ∉ localNames) : (identifiers code).count n = names.count n := by
  rw [← h.filter_identifiers, List.count_filter (by simpa using hn)]

/-- How often the body of a method uses a name that is no local one. -/
theorem count_identifiers_methodBody (r : Resource) (m : Method) (response : Option Response)
    (contentType : Option String) {n : String} (hn : n ∉ localNames) :
    (identifiers (Text.concat (methodBody r m response contentType))).count n =
      (pathNames r.uriParameters).count n + (otherNames m response contentType).count n := by
  obtain ⟨names, huses, hperm⟩ := uses_methodBody r m response contentType
  rw [huses.count_identifiers hn, hperm.count_eq, List.count_append]

/-- Besides local names and the arguments for the path, the body of a method uses nil, the names in
the type of what it decodes and, if it looks at the response, the error for its status. -/
theorem mem_otherNames {m : Method} {response : Option Response} {contentType : Option String}
    {n : String} (hn : n ∉ localNames) : n ∈ otherNames m response contentType ↔
      n = "nil" ∨ n ∈ resultNames response ∨ (n = "StatusError" ∧ response.isSome) := by
  have hquery : n ∈ m.allQueryParameters.flatMap queryNames → n = "nil" := by
    intro h
    obtain ⟨p, -, h⟩ := List.mem_flatMap.1 h
    rw [queryNames] at h
    split at h
    · cases h
    · exact List.mem_singleton.1 h
  have hpayload : n ∈ payloadNames contentType → n = "nil" := by
    unfold payloadNames
    split <;> simp
  have hrequest : n ∈ requestNames contentType ↔ n = "nil" := by
    unfold requestNames
    split <;> simp
  have hresponse : n ∈ responseNames response ↔
    response.isSome ∧ (n = "nil" ∨ n = "StatusError") := by
    cases response with
    | none => simp [responseNames]
    | some response =>
      unfold responseNames
      dsimp only
      split <;> simp [or_comm, or_left_comm]
  simp only [otherNames, List.mem_append, List.mem_filter, hrequest, hresponse]
  simp only [hn, not_false_eq_true, decide_true, and_true]
  grind

end RamlClient.Client
