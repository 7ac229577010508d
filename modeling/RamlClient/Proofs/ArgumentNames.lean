import RamlClient.Proofs.BodyIdentifiers
import RamlClient.Proofs.Independence
/-!
# The names of arguments

The arguments of a method are those for the parameters of its path, one for the query parameters and
one for the payload. The names of the latter two are kept clear of, as are the local names of the
body. Two parameters of a path can still get one name, and a parameter can be called like something
that the body uses but that is not among the local names.
-/

namespace RamlClient.Client

open Api Go

/-! ### Names of parameters -/

/-- Two parameters of a path get the same name: they have one identifier, or that of one is a local
name and the other is called like what stands in for it. -/
def NamesClash (a b : String) : Prop :=
  identifier a false = identifier b false ∨
    (identifier a false ∈ localNames ∧ identifier b false = identifier a false ++ "Param") ∨
    (identifier b false ∈ localNames ∧ identifier a false = identifier b false ++ "Param")

instance (a b : String) : Decidable (NamesClash a b) := inferInstanceAs (Decidable (_ ∨ _ ∨ _))

/-- Two parameters have one argument exactly if their names clash. -/
theorem pathArgName_eq_iff {a b : String} : pathArgName a = pathArgName b ↔ NamesClash a b := by
  unfold pathArgName NamesClash
  dsimp only
  generalize identifier a false = i
  generalize identifier b false = j
  by_cases hi : i ∈ localNames
  · by_cases hj : j ∈ localNames
    · have hij : j ≠ i ++ "Param" := fun h => param_notMem hi (h ▸ hj)
      have hji : i ≠ j ++ "Param" := fun h => param_notMem hj (h ▸ hi)
      simp [hi, hj, hij, hji]
    · have hne : i ≠ j := fun h => hj (h ▸ hi)
      simp [hi, hj, hne, eq_comm]
  · by_cases hj : j ∈ localNames
    · have hne : i ≠ j := fun h => hi (h ▸ hj)
      simp [hi, hj, hne]
    · simp [hi, hj]

/-- The arguments for a path are different exactly if no two names clash. -/
theorem nodup_pathArgs {parameters : List Parameter} : ((pathArgs parameters).map (·.name)).Nodup ↔
    parameters.Pairwise fun p q => ¬NamesClash p.name q.name := by
  rw [pathArgs, List.map_map, List.Nodup, List.pairwise_map]
  simp only [Function.comp_apply, ne_eq, pathArgName_eq_iff]

/-! ### Arguments of a method -/

/-- The arguments behind those for the path have fixed names. -/
theorem MethodParts.Drafted.fixedNames {path : String} {api : Model} {depth : Option Int}
    {p q : Package} {x : MethodParts} (h : x.Drafted path api depth p q) :
    ((x.queryArgs ++ x.payloadArgs).map (·.name)).Sublist ["query", "payload"] := by
  obtain ⟨_, _, -, hquery, -, hbody⟩ := h.parts
  have hqueryName : (x.queryArgs.map (·.name)).Sublist ["query"] := by
    rw [hquery.args_eq]
    split <;> simp
  have hpayloadName : (x.payloadArgs.map (·.name)).Sublist ["payload"] := by
    obtain ⟨-, hargs⟩ | ⟨-, type, hargs⟩ := hbody.args_eq
    · simp [hargs]
    · simp [hargs]
  rw [List.map_append]
  exact hqueryName.append hpayloadName

/-- The receiver and the arguments have distinct names exactly if those for the path do. -/
theorem nodup_names_iff {parameters : List Parameter} {fixed : List Arg}
    (hfixed : (fixed.map (·.name)).Sublist ["query", "payload"]) :
    ("c" :: (pathArgs parameters ++ fixed).map (·.name)).Nodup ↔
      ((pathArgs parameters).map (·.name)).Nodup := by
  have hlocal : ∀ n ∈ ["query", "payload"], n ∈ localNames ∧ n ≠ "c" := by decide +kernel
  have hc : "c" ∈ localNames := by decide +kernel
  have hpath {n : String} (hn : n ∈ (pathArgs parameters).map (·.name)) : n ∉ localNames :=
    (of_mem_pathArgs hn).1
  have hnodup : (fixed.map (·.name)).Nodup := hfixed.nodup (by decide +kernel)
  rw [List.map_append, List.nodup_cons, List.nodup_append]
  constructor
  · rintro ⟨-, h, -⟩
    exact h
  · intro h
    refine ⟨fun hmem => ?_, h, hnodup, ?_⟩
    · rcases List.mem_append.1 hmem with hmem | hmem
      · exact hpath hmem hc
      · exact (hlocal _ (hfixed.subset hmem)).2 rfl
    · rintro n hn _ hmem rfl
      exact hpath hn (hlocal _ (hfixed.subset hmem)).1

/-- The body of a function uses a name for something else than the arguments for a path: it uses the
name more often than the arguments have it. -/
def UsesOtherwise (parameters : List Parameter) (g : Func) (n : String) : Prop :=
  ((pathArgs parameters).map (·.name)).count n < (identifiers (Text.concat g.body)).count n

/-- What else a body uses are identifiers. -/
theorem isIdentifier_of_mem_otherNames {m : Method} {response : Option Response}
    {contentType : Option String} {n : String} (hn : n ∉ localNames)
    (h : n ∈ otherNames m response contentType) : isIdentifier n.toList = true := by
  obtain rfl | hresult | ⟨rfl, -⟩ := (mem_otherNames hn).1 h
  · decide +kernel
  · unfold resultNames at hresult
    cases htype : resultType response with
    | none => simp [htype] at hresult
    | some type =>
      rw [htype] at hresult
      exact isIdentifier_of_mem_readCode hresult
  · decide +kernel

/-- What the body of a method uses a name for besides the arguments for the path. -/
theorem usesOtherwise_iff (x : MethodParts) {n : String}
    (hn : n ∈ (pathArgs x.resource.uriParameters).map (·.name)) :
    UsesOtherwise x.resource.uriParameters x.func n ↔
      n = "nil" ∨ n ∈ resultNames x.response ∨ (n = "StatusError" ∧ x.response.isSome) := by
  have hlocal := (of_mem_pathArgs hn).1
  have hothers : n ∈ otherNames x.method x.response x.contentType ↔
      n = "nil" ∨ n ∈ resultNames x.response ∨ (n = "StatusError" ∧ x.response.isSome) :=
    mem_otherNames hlocal
  rw [← hothers]
  unfold UsesOtherwise MethodParts.func
  dsimp only
  rw [count_identifiers_methodBody _ _ _ _ hlocal]
  by_cases hname : isIdentifier n.toList = true
  · have hpath : (pathNames x.resource.uriParameters).count n =
        ((pathArgs x.resource.uriParameters).map (·.name)).count n := List.count_filter hname
    rw [hpath, Nat.lt_add_right_iff_pos, List.count_pos_iff]
  · -- the body does not use what names nothing
    have hpath : n ∉ pathNames x.resource.uriParameters := fun h => hname (List.mem_filter.1 h).2
    have hother : n ∉ otherNames x.method x.response x.contentType :=
      fun h => hname (isIdentifier_of_mem_otherNames hlocal h)
    rw [List.count_eq_zero.2 hpath, List.count_eq_zero.2 hother]
    simp [hother]

/-! ### Methods of a client -/

/-- Every operation of a client that has been drafted has its parts and its function. -/
theorem exists_parts {names notes : List String} {depth : Option Int} {api : Model} {u : Unit}
    {d' : Draft} (h : (draftDefinitions depth api).run ⟨(Package.empty.reserve names).1, notes⟩ =
      .ok u d')
    {o : Resource × Method} (ho : o ∈ api.operations) :
    ∃ (x : MethodParts) (path : String) (p q : Package), x.operation = o ∧
    x.Drafted path api depth p q ∧
      d'.package.lookup x.name = some (.func x.func) := by
  obtain ⟨c, hc⟩ := draftDefinitions_reserved_eq_ok h
  obtain ⟨x, hx, hop, p, q, hdrafted⟩ := hc.methods.exists_drafted ho
  exact ⟨x, operationsPath, p, q, hop, hdrafted, hc.lookup_func hx⟩

/-- The names in a method. The receiver and the arguments have distinct names exactly if no two
parameters of the path clash. An argument for the path has no name that the body uses otherwise,
exactly if it is not called nil, like a type in what the method decodes or, where the response is
looked at, like the error for its status. -/
theorem argumentNames_clear_iff {names notes : List String} {depth : Option Int} {api : Model}
    {u : Unit} {d' : Draft}
    (h : (draftDefinitions depth api).run ⟨(Package.empty.reserve names).1, notes⟩ =
      .ok u d') {o : Resource × Method} (ho : o ∈ api.operations) :
    ∃ name g fixed response, configuredName o.1 o.2 depth = .ok name ∧
      d'.package.lookup name = some (.func g) ∧ g.receiver = some "c *Client" ∧
      g.args = pathArgs o.1.uriParameters ++ fixed ∧ o.2.successResponse = .ok response ∧
      (("c" :: g.args.map (·.name)).Nodup ↔
        o.1.uriParameters.Pairwise fun p q => ¬NamesClash p.name q.name) ∧
      ∀ n ∈ (pathArgs o.1.uriParameters).map (·.name), UsesOtherwise o.1.uriParameters g n ↔
        n = "nil" ∨ n ∈ resultNames response ∨ (n = "StatusError" ∧ response.isSome) := by
  obtain ⟨x, _, _, _, rfl, hdrafted, hlookup⟩ := exists_parts h ho
  refine ⟨x.name, x.func, x.queryArgs ++ x.payloadArgs, x.response, hdrafted.name, hlookup, rfl,
    List.append_assoc _ _ _, hdrafted.response, ?_, fun n hn => usesOtherwise_iff x hn⟩
  have hargs : x.func.args = pathArgs x.resource.uriParameters ++ (x.queryArgs ++ x.payloadArgs) :=
    List.append_assoc _ _ _
  rw [hargs, nodup_names_iff hdrafted.fixedNames]
  exact nodup_pathArgs

/-- A document with a method of one resource. -/
def pathDocument (path : String) : List (Value × Value) :=
  [(.text "title", .text "T"), (.text path, .mapping [(.text "get", .mapping [])])]

/-- The method. -/
def getPlain : Method := ⟨"get", none, [], [], [], []⟩

/-- Its resource. -/
def pathResource (path : String) (names : List String) : Resource :=
  ⟨path, path, names.map fun name => ⟨name, ⟨"string", true, none, []⟩⟩, [getPlain], []⟩

/-- The API of the document. -/
def pathApi (path : String) (names : List String) : Model :=
  ⟨"T", "", "", "application/json", [], [], [pathResource path names]⟩

/-- The method is an operation of the API. -/
theorem mem_operations_pathApi (path : String) (names : List String) :
    (pathResource path names, getPlain) ∈ (pathApi path names).operations := List.mem_cons_self

/-- A parameter that is called like a fixed argument gets a name of its own. -/
theorem argumentNames_clear_query : ∃ d' g,
    buildModel (pathDocument "/items/\x7bquery\x7d/\x7bid\x7d") =
      .ok (pathApi "/items/\x7bquery\x7d/\x7bid\x7d" ["query", "id"]) ∧
    (draftDefinitions (some 0) (pathApi "/items/\x7bquery\x7d/\x7bid\x7d" ["query", "id"])).run
      ⟨(Package.empty.reserve ["Client"]).1, []⟩ = .ok () d' ∧
    d'.package.lookup "GetItems" = some (.func g) ∧ ("c" :: g.args.map (·.name)).Nodup ∧
    ∀ n ∈ ["queryParam", "id"],
      ¬UsesOtherwise (pathResource "/items/\x7bquery\x7d/\x7bid\x7d" ["query", "id"]).uriParameters
        g n := by
  obtain ⟨_, d', hrun⟩ := Drafting.exists_run_of_succeeds
    (d := ⟨(Package.empty.reserve ["Client"]).1, []⟩)
    (x := draftDefinitions (some 0) (pathApi "/items/\x7bquery\x7d/\x7bid\x7d" ["query", "id"]))
    (by decide +kernel)
  obtain ⟨name, g, _, response, hname, hg, -, -, hresponse, hnodup, hother⟩ :=
    argumentNames_clear_iff hrun (mem_operations_pathApi _ _)
  have hget : configuredName (pathResource "/items/\x7bquery\x7d/\x7bid\x7d" ["query", "id"])
      getPlain (some 0) = .ok "GetItems" := by decide +kernel
  obtain rfl := Except.ok.inj (hname.symm.trans hget)
  obtain rfl : none = response := Except.ok.inj hresponse
  refine ⟨d', g, rfl, hrun, hg, hnodup.2 (by decide +kernel), fun n hn => ?_⟩
  have hargs :
    (pathArgs (pathResource "/items/\x7bquery\x7d/\x7bid\x7d" ["query", "id"]).uriParameters).map
      (·.name) = ["queryParam", "id"] := by decide +kernel
  have hnil : ∀ n ∈ ["queryParam", "id"], n ≠ "nil" := by decide
  rw [hother n (hargs ▸ hn)]
  simp [hnil n hn, resultNames, resultType, resultDescriptor]

/-- An argument for the path is called nil in a method whose body returns nil. -/
theorem not_argumentNames_clear_nil : ∃ d' g,
    buildModel (pathDocument "/items/\x7bnil\x7d") = .ok (pathApi "/items/\x7bnil\x7d" ["nil"]) ∧
    (draftDefinitions (some 0) (pathApi "/items/\x7bnil\x7d" ["nil"])).run
      ⟨(Package.empty.reserve ["Client"]).1, []⟩ = .ok () d' ∧
    d'.package.lookup "GetItems" = some (.func g) ∧ "nil" ∈ g.args.map (·.name) ∧
    UsesOtherwise (pathResource "/items/\x7bnil\x7d" ["nil"]).uriParameters g "nil" := by
  obtain ⟨_, d', hrun⟩ := Drafting.exists_run_of_succeeds
    (d := ⟨(Package.empty.reserve ["Client"]).1, []⟩)
    (x := draftDefinitions (some 0) (pathApi "/items/\x7bnil\x7d" ["nil"])) (by decide +kernel)
  obtain ⟨x, _, _, _, hop, hdrafted, hlookup⟩ := exists_parts hrun (mem_operations_pathApi _ _)
  obtain ⟨hr, hm⟩ := Prod.mk.inj hop
  have hget : configuredName (pathResource "/items/\x7bnil\x7d" ["nil"]) getPlain (some 0) =
      .ok "GetItems" := by decide +kernel
  have hname : x.name = "GetItems" := by
    have hname := hdrafted.name
    rw [hr, hm, hget] at hname
    exact (Except.ok.inj hname).symm
  have hnil : "nil" ∈ (pathArgs x.resource.uriParameters).map (·.name) := by
    rw [hr]
    decide +kernel
  have hother := (usesOtherwise_iff x hnil).2 (.inl rfl)
  rw [hname] at hlookup
  rw [hr] at hother
  refine ⟨d', x.func, rfl, hrun, hlookup, ?_, hother⟩
  obtain ⟨arg, harg, hargName⟩ := List.mem_map.1 hnil
  exact List.mem_map.2 ⟨arg, List.mem_append_left _ (List.mem_append_left _ harg), hargName⟩

end RamlClient.Client
