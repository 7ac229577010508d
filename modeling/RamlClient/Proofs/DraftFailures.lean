import RamlClient.Client.Target
import RamlClient.Proofs.Drafting
/-!
# Why a package cannot be drafted

Drafting fails with an error, but for two defects: a name needs the number of segments to leave out
and it is blank, or the code of a response has no value.
-/

namespace RamlClient.Client

open Api Go Steps

/-- A failure is an error. -/
def IsError (f : Failure) : Prop := ∃ e, f = .error e

namespace Drafting

variable {P : Failure → Prop}

/-- What never fails fails as required. -/
theorem failsAs_of_run_eq_ok {α : Type} {x : Drafting α} {a : Draft → α} {f : Draft → Draft}
    (h : ∀ d, x.run d = .ok (a d) (f d)) : FailsAs P x := by
  intro d e d' hrun
  rw [h] at hrun
  cases hrun

/-- A change to the package does not fail. -/
theorem failsAs_change (f : Package → Package) : FailsAs P (change f) :=
  failsAs_of_run_eq_ok fun _ => run_change f

/-- A note does not fail. -/
theorem failsAs_note (s : String) : FailsAs P (note s) := failsAs_of_run_eq_ok fun _ => run_note s

/-- Reading the package does not fail. -/
theorem failsAs_package : FailsAs P package := failsAs_of_run_eq_ok fun _ => run_package

/-- Reading a file of the package does not fail. -/
theorem failsAs_file (path : String) : FailsAs P (file path) :=
  failsAs_of_run_eq_ok fun _ => run_file path

/-- Adding imports does not fail. -/
theorem failsAs_addImports (path : String) (imports : List String) :
    FailsAs P (addImports path imports) :=
  failsAs_of_run_eq_ok fun _ => run_addImports path imports

/-- Failing with an error is an error. -/
theorem failsAs_fail {α : Type} (e : Error) : FailsAs IsError (fail e : Drafting α) := by
  rintro s f s' ⟨⟩
  exact ⟨e, rfl⟩

/-- A check fails with its error. -/
theorem failsAs_failWhen (condition : Bool) (e : Error) : FailsAs IsError (failWhen condition e) :=
  .ite (failsAs_fail e) (.pure ())

/-- A result that may be an error fails with that error. -/
theorem failsAs_orError {α : Type} (x : Except Error α) : FailsAs IsError (orError x) := by
  cases x with
  | ok a => exact .pure a
  | error e => exact failsAs_fail e

/-- A result that may be a defect fails with that defect. -/
theorem failsAs_orDefect {α : Type} {x : Except Defect α} (h : ∀ d, x = .error d → P (.defect d)) :
    FailsAs P (orDefect x) := by
  cases x with
  | ok a => exact .pure a
  | error d =>
    rintro s f s' ⟨⟩
    exact h d rfl

/-- A declaration fails with the error of the package. -/
theorem failsAs_attempt (f : Package → Except Error Package) : FailsAs IsError (attempt f) :=
  failsAs_package.bind fun p => (failsAs_orError (f p)).bind fun _ => failsAs_change _

end Drafting

open Drafting

/-! ### Declared types -/

/-- A struct is drafted or ends with an error. -/
theorem failsAs_generateStruct (path : String) (api : Model) (name : String) (d : TypeDeclaration) :
    FailsAs IsError (generateStruct path api name d) := by
  rw [generateStruct]
  refine (failsAs_attempt _).bind fun _ => ?_
  refine (failsAs_file path).bind fun _ => ?_
  refine (failsAs_change _).bind fun _ => ?_
  refine (failsAs_orError _).bind fun _ => ?_
  exact (failsAs_note _).bind fun _ => .pure _

/-- A declared type is drafted or ends with an error. -/
theorem failsAs_generateModel (path : String) (api : Model) (d : TypeDeclaration) :
    FailsAs IsError (generateModel path api d) := by
  rw [generateModel]
  refine (failsAs_file path).bind fun _ => .ite (.pure _) ?_
  refine (failsAs_orError _).bind fun _ => .ite (failsAs_generateStruct path api _ d) ?_
  exact (failsAs_attempt _).bind fun _ => .pure _

/-- The declared types are drafted or end with an error. -/
theorem failsAs_generateModels (path : String) (api : Model) :
    FailsAs IsError (generateModels path api) := by
  rw [generateModels]
  refine FailsAs.bind (.mapM fun d _ => failsAs_generateModel path api d) fun _ => ?_
  exact failsAs_addImports path _

/-! ### Operations -/

/-- The struct for a query is drafted or ends with an error. -/
theorem failsAs_generateQuery (path name : String) (parameters : List Parameter) :
    FailsAs IsError (generateQuery path name parameters) := by
  rw [generateQuery]
  refine .ite (.pure _) ?_
  refine (failsAs_addImports path _).bind fun _ => ?_
  refine (failsAs_file path).bind fun _ => ?_
  refine (failsAs_attempt _).bind fun _ => .ite (.pure _) ?_
  exact (failsAs_change _).bind fun _ => .pure _

/-- The struct for a payload is drafted or ends with an error. -/
theorem failsAs_generatePayload (path name : String) (api : Model) (body : Body) :
    FailsAs IsError (generatePayload path name api body) := by
  rw [generatePayload]
  refine failsAs_package.bind fun _ => ?_
  refine (failsAs_orError _).bind fun _ => .ite (.pure _) ?_
  refine (failsAs_file path).bind fun _ => .ite (.pure _) ?_
  exact (failsAs_generateStruct path api _ _).bind fun _ => .pure _

/-- The argument for a body is drafted or ends with an error. -/
theorem failsAs_generateBody (path name : String) (api : Model) (r : Resource) (m : Method) :
    FailsAs IsError (generateBody path name api r m) := by
  rw [generateBody]
  split
  · exact .pure _
  · refine .ite ?_ (failsAs_fail _)
    refine (failsAs_generatePayload path name api _).bind fun _ => ?_
    exact (failsAs_addImports path _).bind fun _ => .pure _

/-- The function for the base address is drafted or ends with an error. -/
theorem failsAs_generateBaseUrl (path : String) (api : Model) :
    FailsAs IsError (generateBaseUrl path api) := by
  rw [generateBaseUrl]
  exact (failsAs_attempt _).bind fun _ => failsAs_change _

/-! ### Defects -/

/-- Why an operation is a defect for a client whose names leave out some segments. -/
inductive OperationDefect (depth : Option Int) (m : Method) : Defect → Prop where
  /-- The number of segments is blank. -/
  | depth (h : depth = none) : OperationDefect depth m .missingOptionValue
  /-- The code of a response has no value. -/
  | code {r : Response} (hr : r ∈ m.responses) (h : r.isSuccess = .error .malformedNumeral) :
    OperationDefect depth m .malformedNumeral

/-- A code has no value only as a malformed numeral. -/
theorem isSuccess_eq_error {r : Response} {d : Defect} (h : r.isSuccess = .error d) :
    d = .malformedNumeral := by
  rw [Response.isSuccess] at h
  split at h
  · split at h
    · cases h
    · cases h
      rfl
  · cases h

/-- The search for a successful response ends with the defect of some response. -/
theorem exists_of_firstSuccess_eq_error {responses : List Response} {d : Defect}
    (h : firstSuccess responses = .error d) : ∃ r ∈ responses, r.isSuccess = .error d := by
  induction responses with
  | nil => cases h
  | cons r rest ih =>
    rw [firstSuccess] at h
    cases hr : r.isSuccess with
    | error e =>
      rw [hr] at h
      cases h
      exact ⟨r, List.mem_cons_self, hr⟩
    | ok success =>
      rw [hr] at h
      cases success with
      | true => cases h
      | false =>
        obtain ⟨r', hr', hcode⟩ := ih h
        exact ⟨r', List.mem_cons_of_mem r hr', hcode⟩

/-- A defect of the responses is one of the operation. -/
theorem operationDefect_of_successResponse {depth : Option Int} {m : Method} {d : Defect}
    (h : m.successResponse = .error d) : OperationDefect depth m d := by
  obtain ⟨r, hr, hcode⟩ := exists_of_firstSuccess_eq_error h
  obtain rfl := isSuccess_eq_error hcode
  exact .code hr hcode

/-- A defect of the name is one of the operation. -/
theorem operationDefect_of_operationName {r : Resource} {m : Method} {depth : Option Int} {n : Int}
    {d : Defect} (h : operationName r m n = .error d) : OperationDefect depth m d := by
  rw [operationName] at h
  split at h
  · cases h
  · cases hsuccess : m.successResponse with
    | error e =>
      simp only [primaryResponseKind, hsuccess, bind, Except.bind] at h
      cases h
      exact operationDefect_of_successResponse hsuccess
    | ok response =>
      obtain ⟨kind, hkind⟩ : ∃ kind, primaryResponseKind m = .ok kind := by
        rw [primaryResponseKind, hsuccess]
        rcases response with - | ⟨_, - | ⟨body, rest⟩⟩ <;> exact ⟨_, rfl⟩
      rw [hkind] at h
      cases h

/-- A defect of the configured name is one of the operation. -/
theorem operationDefect_of_configuredName {r : Resource} {m : Method} {depth : Option Int}
    {d : Defect} (h : configuredName r m depth = .error d) : OperationDefect depth m d := by
  rw [configuredName.eq_def] at h
  split at h
  · cases h
    exact .depth rfl
  · exact operationDefect_of_operationName h

/-- A failure is an error or the defect of an operation. -/
def IsDraftFailure (depth : Option Int) (api : Model) (f : Failure) : Prop :=
  IsError f ∨ ∃ o ∈ api.operations, ∃ d, f = .defect d ∧ OperationDefect depth o.2 d

/-- A method is drafted, or ends with an error or with the defect of its operation. -/
theorem failsAs_generateMethod (path : String) {api : Model} {depth : Option Int}
    {o : Resource × Method} (ho : o ∈ api.operations) :
    FailsAs (IsDraftFailure depth api) (generateMethod path api depth o.1 o.2) := by
  have herror {α : Type} {x : Drafting α} (h : FailsAs IsError x) :
      FailsAs (IsDraftFailure depth api) x := h.mono fun _ => .inl
  rw [generateMethod]
  refine (failsAs_orDefect fun d hd => ?_).bind fun name => ?_
  · exact .inr ⟨o, ho, d, rfl, operationDefect_of_configuredName hd⟩
  refine failsAs_package.bind fun _ => ?_
  refine (herror (failsAs_failWhen _ _)).bind fun _ => ?_
  refine (failsAs_addImports path _).bind fun _ => ?_
  refine (herror (failsAs_attempt _)).bind fun _ => ?_
  refine (failsAs_orDefect fun d hd => ?_).bind fun _ => ?_
  · exact .inr ⟨o, ho, d, rfl, operationDefect_of_successResponse hd⟩
  refine (herror (failsAs_generateQuery path name _)).bind fun _ => ?_
  refine (herror (failsAs_generateBody path name api _ _)).bind fun _ => ?_
  refine (failsAs_addImports path _).bind fun _ => ?_
  refine (failsAs_change _).bind fun _ => ?_
  exact (failsAs_note _).bind fun _ => .pure _

/-- The operations are drafted, or end with an error or with the defect of one of them. -/
theorem failsAs_generateEndpoints (path : String) (api : Model) (depth : Option Int) :
    FailsAs (IsDraftFailure depth api) (generateEndpoints path api depth) := by
  rw [generateEndpoints, generateMethods]
  refine ((failsAs_generateBaseUrl path api).mono fun _ => .inl).bind fun _ => ?_
  refine FailsAs.bind ?_ fun _ => failsAs_addImports path _
  exact FailsAs.bind (.mapM fun o ho => failsAs_generateMethod path ho) fun _ => .pure _

/-- Drafting a package fails with an error, or because an operation is a defect. -/
theorem failsAs_draftPackage (depth : Option Int) (api : Model) :
    FailsAs (IsDraftFailure depth api) (draftPackage depth api) := by
  rw [draftPackage]
  refine (failsAs_change _).bind fun _ => ?_
  refine failsAs_package.bind fun _ => ?_
  refine (failsAs_change _).bind fun _ => ?_
  refine ((failsAs_orError _).mono fun _ => .inl).bind fun _ => ?_
  rw [draftDefinitions]
  refine (failsAs_change _).bind fun _ => ?_
  refine ((failsAs_generateModels modelsPath api).mono fun _ => .inl).bind fun _ => ?_
  refine (failsAs_change _).bind fun _ => ?_
  exact failsAs_generateEndpoints operationsPath api depth

end RamlClient.Client
