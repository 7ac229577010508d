import RamlClient.Proofs.Acronyms
/-!
# What names of operations are made of

The name of an operation without a display name is what its verb is called, followed by the
identifiers of its parts as they are: those are settled one after another, so putting acronyms right
in the whole changes nothing. It begins with a capital, and is therefore an exported identifier.
-/

namespace RamlClient.Client

open Api Go

/-- What Go takes for an identifier that is visible outside of its package. -/
structure ExportedIdentifier (s : String) : Prop where
  /-- It is an identifier. -/
  valid : ValidIdentifier s
  /-- It begins with a capital. -/
  capital : s.toList.head?.any Char.isUpper = true

/-- The kind that can stand in for a segment of a path: that of the elements of the first body of a
response. -/
def responseKind? (response : Option Response) : Option String :=
  (response.bind (·.bodies.head?)).map (·.type.elementKind)

/-- The segments of a path that name an operation. -/
def keptSegments (path : String) (depth : Int) : List String :=
  dropDepth depth ((namedSegments path).map String.ofList)

/-- What names an operation besides its verb: the segments, the last of which gives way to a
capitalised kind, or the kind alone if there are none. -/
def nameParts (segments : List String) : Option String → List String
  | some kind => if isCapitalised kind then segments.dropLast ++ [kind] else segments
  | none => segments

/-- A prefix can be dropped before or after a change of each element. -/
theorem map_dropDepth {α β : Type} (f : α → β) (depth : Int) (as : List α) :
    (dropDepth depth as).map f = dropDepth depth (as.map f) := by
  unfold dropDepth
  split <;> simp

/-- The last name can be replaced before or after names are exported. -/
theorem replaceLast_map (segments : List String) (kind : Option String) :
    replaceLast (segments.map exportedName) kind = (nameParts segments kind).map exportedName := by
  cases kind with
  | none => rfl
  | some kind => by_cases h : isCapitalised kind = true <;> simp [replaceLast, nameParts, h,
      List.map_dropLast]

/-- The kind of the response is that of the first successful one. -/
theorem primaryResponseKind_eq {m : Method} {response : Option Response}
    (h : m.successResponse = .ok response) :
    primaryResponseKind m = .ok (responseKind? response) := by
  unfold primaryResponseKind
  rw [h]
  match response with
  | none => rfl
  | some ⟨_, []⟩ => rfl
  | some ⟨_, body :: rest⟩ => rfl

/-- Exported names in a row have no acronyms in camel case. -/
theorem settled_concat (names : List String) :
    Settled (Text.concat (names.map exportedName)).toList := by
  have hnames : ∀ s ∈ names.map exportedName, ∃ n, s = exportedName n := by
    intro s hs
    obtain ⟨n, -, hn⟩ := List.mem_map.1 hs
    exact ⟨n, hn.symm⟩
  rw [toList_concat]
  exact settled_flatMap hnames

/-- The identifiers of an operation's parts stand in its name as they are. -/
theorem operationName_eq {r : Resource} {m : Method} {depth : Int} {response : Option Response}
    (hdisplay : m.displayName = none) (h : m.successResponse = .ok response) :
    operationName r m depth = .ok (verbName m.verb ++ Text.concat
      ((nameParts (keptSegments r.path depth) (responseKind? response)).map exportedName)) := by
  have hparts :
      replaceLast (dropDepth depth
        ((namedSegments r.path).map fun s => exportedName (String.ofList s)))
          (responseKind? response) =
        (nameParts (keptSegments r.path depth) (responseKind? response)).map exportedName := by
    rw [← replaceLast_map, keptSegments, map_dropDepth, List.map_map, Function.comp_def]
  have hsettled := settled_concat (nameParts (keptSegments r.path depth) (responseKind? response))
  simp only [operationName, hdisplay, primaryResponseKind_eq h, bind, Except.bind, hparts,
    hsettled.fixAcronyms_eq, String.ofList_toList]
  rfl

/-- Behind what a verb is called, letters and digits make an exported identifier. -/
theorem exportedIdentifier_append {verb tail : String} (hverb : verb ∈ verbs)
    (htail : Alphanumeric tail.toList) :
    ExportedIdentifier (verbName verb ++ tail) := by
  have hcapitals : ∀ v ∈ verbs, (verbName v).toList.head?.any Char.isUpper = true := by
    decide +kernel
  have hkeywords : ∀ k ∈ goKeywords, k.toList.head?.any Char.isUpper = false := by decide +kernel
  have hcapital : (verbName verb ++ tail).toList.head?.any Char.isUpper = true := by
    have hhead := hcapitals verb hverb
    cases hcs : (verbName verb).toList with
    | nil => simp [hcs] at hhead
    | cons c r => simpa [hcs] using hhead
  have halpha : Alphanumeric (verbName verb ++ tail).toList := by
    rw [String.toList_append]
    exact (alphanumeric_verbName hverb).append htail
  refine ⟨⟨?_, fun c hc => by simp [isWordChar, halpha c hc], fun hkeyword => ?_⟩, hcapital⟩
  · cases hcs : (verbName verb ++ tail).toList with
    | nil => simp [hcs] at hcapital
    | cons c r =>
      have hupper : c.isUpper = true := by simpa [hcs] using hcapital
      have hletter : c.isAlpha = true := Bool.or_eq_true_iff.2 (.inl hupper)
      simp [isIdentifierStart, hletter]
  · rw [hkeywords _ hkeyword] at hcapital
    cases hcapital

/-- Putting acronyms right is stable: doing it twice is doing it once, and exported identifiers one
after another stay as they are. So an exported identifier is its own, and the name of an operation
without a display name is what its verb is called with the identifiers of its parts behind it, which
is an exported identifier. -/
theorem acronyms_stable :
    (∀ cs, fixAcronyms (fixAcronyms cs) = fixAcronyms cs) ∧
    (∀ names : List String, fixAcronyms (Text.concat (names.map exportedName)).toList =
      (Text.concat (names.map exportedName)).toList) ∧
    (∀ name, exportedName (exportedName name) = exportedName name) ∧
    ∀ (r : Resource) (m : Method) (depth : Int) (response : Option Response), m.verb ∈ verbs →
      m.displayName = none → m.successResponse = .ok response →
      ∃ name, operationName r m depth = .ok name ∧
        name = verbName m.verb ++ Text.concat
          ((nameParts (keptSegments r.path depth) (responseKind? response)).map exportedName) ∧
        ExportedIdentifier name := by
  refine ⟨fun cs => (settled_fixAcronyms cs).fixAcronyms_eq,
    fun names => (settled_concat names).fixAcronyms_eq, exportedName_exportedName,
    fun r m depth response hverb hdisplay h => ?_⟩
  refine ⟨_, operationName_eq hdisplay h, rfl, exportedIdentifier_append hverb
    (alphanumeric_concat fun s hs => ?_)⟩
  obtain ⟨n, -, hn⟩ := List.mem_map.1 hs
  rw [← hn]
  exact alphanumeric_exportedName n

/-- A response with a list of keys. -/
def keysResponse : Response :=
  ⟨"201", [⟨"application/json", .arrayOf (.named "ApiKey" true) true, []⟩]⟩

/-- An operation with that response. -/
def postKeys : Method where
  verb := "post"
  displayName := none
  queryParameters := []
  bodies := []
  responses := [⟨"404", []⟩, keysResponse]
  traits := []

/-- The resource of the operation. -/
def keysResource : Resource where
  relativeUri := "/keys"
  path := "/v2/oauth_id/{userId}/keys"
  uriParameters := [⟨"userId", .named "string" true⟩]
  methods := [postKeys]
  resources := []

/-- Three acronyms meet in the name of the operation. -/
theorem acronyms_stable_keys : "post" ∈ verbs ∧ postKeys.displayName = none ∧
    postKeys.successResponse = .ok (some keysResponse) ∧
    operationName keysResource postKeys 1 = .ok "CreateOAuthIDAPIKey" ∧
    ExportedIdentifier "CreateOAuthIDAPIKey" := by
  have hverb : postKeys.verb ∈ verbs := by decide
  have hsuccess : postKeys.successResponse = .ok (some keysResponse) := by decide +kernel
  obtain ⟨name, hname, heq, hexported⟩ :=
    acronyms_stable.2.2.2 keysResource postKeys 1 _ hverb rfl hsuccess
  have hwritten : name = "CreateOAuthIDAPIKey" := by
    rw [heq]
    decide +kernel
  exact ⟨hverb, rfl, hsuccess, hwritten ▸ hname, hwritten ▸ hexported⟩

end RamlClient.Client
