import RamlClient.Client.Target
import RamlClient.Proofs.Steps
/-!
# Steps of a run

What the steps of a run do to the state of the host, and why they fail. Most of them only work on
the console.
-/

namespace RamlClient.Client.Running

variable {σ α : Type} {s s' : Session σ} {f : Failure}

/-- What may be a defect goes on with its result. -/
theorem run_orDefect_eq_ok {x : Except Defect α} {a : α} :
    (orDefect x).run s = .ok a s' ↔ x = .ok a ∧ s = s' := by
  cases x with
  | ok b => simp [orDefect]
  | error d => simpa [orDefect] using nofun

/-- What may be a defect fails with the defect. -/
theorem run_orDefect_eq_error {x : Except Defect α} :
    (orDefect x).run s = .error f s' ↔ ∃ d, x = .error d ∧ .defect d = f ∧ s = s' := by
  cases x with
  | ok b => simp [orDefect]
  | error d =>
    have h : (orDefect (.error d) : Running σ α).run s = .error (.defect d) s := rfl
    simp [h]

/-- What may be an error goes on with its result. -/
theorem run_orError_eq_ok {x : Except Error α} {a : α} :
    (orError x).run s = .ok a s' ↔ x = .ok a ∧ s = s' := by
  cases x with
  | ok b => simp [orError]
  | error e => simpa [orError] using nofun

/-- What may be an error fails with the error. -/
theorem run_orError_eq_error {x : Except Error α} :
    (orError x).run s = .error f s' ↔ ∃ e, x = .error e ∧ .error e = f ∧ s = s' := by
  cases x with
  | ok b => simp [orError]
  | error e =>
    have h : (orError (.error e) : Running σ α).run s = .error (.error e) s := rfl
    simp [h]

/-- What may be a failure goes on with its result. -/
theorem run_orFailure_eq_ok {x : Except Failure α} {a : α} :
    (orFailure x).run s = .ok a s' ↔ x = .ok a ∧ s = s' := by
  cases x with
  | ok b => simp [orFailure]
  | error e => simpa [orFailure] using nofun

/-- What may be a failure fails with it. -/
theorem run_orFailure_eq_error {x : Except Failure α} :
    (orFailure x).run s = .error f s' ↔ x = .error f ∧ s = s' := by
  cases x with
  | ok b => simp [orFailure]
  | error e =>
    have h : (orFailure (.error e) : Running σ α).run s = .error e s := rfl
    simp [h]

/-- A value that is needed is there. -/
theorem run_needed_eq_ok {x : Option α} {a : α} :
    (needed x).run s = .ok a s' ↔ x = some a ∧ s = s' := by
  cases x with
  | some b => simp [needed]
  | none => simpa [needed] using nofun

/-- A needed value that is missing is a defect. -/
theorem run_needed_eq_error {x : Option α} :
    (needed x).run s = .error f s' ↔ x = none ∧ .defect .missingOptionValue = f ∧ s = s' := by
  cases x with
  | some b => simp [needed]
  | none =>
    have h : (needed none : Running σ α).run s = .error (.defect .missingOptionValue) s := rfl
    simp [h]

/-- A record changes the console only. -/
@[simp] theorem run_log (level : LogLevel) (message : String) :
    (log level message).run s = .ok () { s with console := s.console.log level message } := rfl

/-- Progress changes itself and the console. -/
@[simp] theorem run_report (host : Host σ) (change : Nat → Console → Progress × Console) :
    (report host change).run s =
      .ok (change (host.now s.host) s.console).1
        { s with console := (change (host.now s.host) s.console).2 } := rfl

/-- An operation of the host goes on with its result and changes the host only. -/
theorem run_onHost_eq_ok {x : EStateM Fault σ α} {failure : Fault → Failure} {a : α} :
    (onHost x failure).run s = .ok a s' ↔ ∃ h, x.run s.host = .ok a h ∧
    { s with host := h } = s' := by
  rw [EStateM.run, EStateM.run, onHost]
  cases x s.host with
  | ok b h =>
    simp only [EStateM.Result.ok.injEq]
    refine ⟨fun ⟨hab, hs⟩ => ⟨h, ⟨hab, rfl⟩, hs⟩, ?_⟩
    rintro ⟨_, ⟨hab, rfl⟩, hs⟩
    exact ⟨hab, hs⟩
  | error fault h => simp

/-- An operation of the host fails as its fault is taken. -/
theorem run_onHost_eq_error {x : EStateM Fault σ α} {failure : Fault → Failure} :
    (onHost x failure).run s = .error f s' ↔
      ∃ fault h, x.run s.host = .error fault h ∧ failure fault = f ∧ { s with host := h } = s' := by
  rw [EStateM.run, EStateM.run, onHost]
  cases x s.host with
  | ok b h => simp
  | error fault h =>
    simp only [EStateM.Result.error.injEq]
    refine ⟨fun ⟨hf, hs⟩ => ⟨fault, h, ⟨rfl, rfl⟩, hf, hs⟩, ?_⟩
    rintro ⟨_, _, ⟨rfl, rfl⟩, hf, hs⟩
    exact ⟨hf, hs⟩

/-- Records change only the console. -/
theorem exists_run_forM_log (level : LogLevel) (notes : List String) (s : Session σ) :
    ∃ c, (notes.forM (log level)).run s = .ok () { s with console := c } := by
  induction notes generalizing s with
  | nil => exact ⟨s.console, rfl⟩
  | cons note rest ih =>
    obtain ⟨c, hc⟩ := ih { s with console := s.console.log level note }
    exact ⟨c, (Steps.run_bind_of_ok (run_log level note)).trans hc⟩

/-- Drafting leaves the host alone, and succeeds as the draft does. -/
theorem run_runDraft_eq_ok {draft : Drafting Unit} {p : Go.Package}
    (h : (runDraft draft).run s = .ok p s') :
    s'.host = s.host ∧ ∃ d, draft.run ⟨Go.Package.empty, []⟩ = .ok () d ∧ d.package = p := by
  rw [runDraft] at h
  split at h
  · rename_i d hd
    obtain ⟨c, hc⟩ := exists_run_forM_log .debug d.notes s
    rw [Steps.run_bind_of_ok hc, Steps.run_pure_eq_ok] at h
    obtain ⟨rfl, rfl⟩ := h
    exact ⟨rfl, d, hd, rfl⟩
  · rename_i d hd
    obtain ⟨c, hc⟩ := exists_run_forM_log .debug d.notes s
    rw [Steps.run_bind_of_ok hc] at h
    exact absurd h nofun

/-- What can be drafted is drafted in every session, which changes in its console only. -/
theorem exists_run_runDraft_eq_ok {draft : Drafting Unit} {d : Draft}
    (h : draft.run ⟨Go.Package.empty, []⟩ = .ok () d) (s : Session σ) :
    ∃ c, (runDraft draft).run s = .ok d.package { s with console := c } := by
  obtain ⟨c, hc⟩ := exists_run_forM_log .debug d.notes s
  refine ⟨c, ?_⟩
  rw [runDraft, h]
  exact Steps.run_bind_of_ok hc

/-- A draft fails with its own failure and leaves the host alone. -/
theorem run_runDraft_eq_error {draft : Drafting Unit} (h : (runDraft draft).run s = .error f s') :
    s'.host = s.host ∧ ∃ d, draft.run ⟨Go.Package.empty, []⟩ = .error f d := by
  rw [runDraft] at h
  split at h
  · rename_i d hd
    obtain ⟨c, hc⟩ := exists_run_forM_log .debug d.notes s
    rw [Steps.run_bind_of_ok hc] at h
    exact absurd h nofun
  · rename_i e d hd
    obtain ⟨c, hc⟩ := exists_run_forM_log .debug d.notes s
    rw [Steps.run_bind_of_ok hc] at h
    cases h
    exact ⟨rfl, d, hd⟩

end RamlClient.Client.Running
