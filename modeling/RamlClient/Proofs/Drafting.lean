import RamlClient.Client.Draft
import RamlClient.Proofs.Steps
/-!
# Steps that succeed

What the steps of drafting do when they succeed.
-/

namespace RamlClient.Client.Drafting

open Go (Package)

variable {α : Type} {d d' : Draft}

/-- A failure gives no result. -/
theorem run_fail_ne_ok {e : Error} {a : α} : (fail e : Drafting α).run d ≠ .ok a d' := nofun

/-- A check goes on if its condition does not hold. -/
theorem run_failWhen_eq_ok {condition : Bool} {e : Error} {u : Unit} :
    (failWhen condition e).run d = .ok u d' ↔ condition = false ∧ d = d' := by
  cases condition with
  | false => simp [failWhen]
  | true => simpa [failWhen] using run_fail_ne_ok

/-- What may be a defect goes on with its result. -/
theorem run_orDefect_eq_ok {x : Except Defect α} {a : α} :
    (orDefect x).run d = .ok a d' ↔ x = .ok a ∧ d = d' := by
  cases x with
  | ok b => simp [orDefect]
  | error e => simpa [orDefect] using nofun

/-- What may be an error goes on with its result. -/
theorem run_orError_eq_ok {x : Except Error α} {a : α} :
    (orError x).run d = .ok a d' ↔ x = .ok a ∧ d = d' := by
  cases x with
  | ok b => simp [orError]
  | error e => simpa [orError] using nofun

/-- The package of a draft. -/
@[simp] theorem run_package : package.run d = .ok d.package d := rfl

/-- A change is made to the package. -/
@[simp] theorem run_change (f : Package → Package) :
    (change f).run d = .ok () { d with package := f d.package } := rfl

/-- A note is added behind the others. -/
@[simp] theorem run_note (s : String) :
    (note s).run d = .ok () { d with notes := d.notes ++ [s] } := rfl

/-- Imports are added to a file of the package. -/
@[simp] theorem run_addImports (path : String) (xs : List String) :
    (addImports path xs).run d =
      .ok () { d with package := d.package.updateFile path (·.addImports xs) } := rfl

/-- The file at a path, which is empty if none is there. -/
@[simp] theorem run_file (path : String) :
    (file path).run d = .ok ((d.package.file? path).getD (Go.File.empty path)) d := rfl

/-- A change that may fail is made to the package. -/
theorem run_attempt_eq_ok {f : Package → Except Error Package} {u : Unit} :
    (attempt f).run d = .ok u d' ↔ ∃ q, f d.package = .ok q ∧ { d with package := q } = d' := by
  simp only [attempt, Steps.run_bind_eq_ok, run_package, run_orError_eq_ok, run_change]
  constructor
  · rintro ⟨p, e, hp, q, e', ⟨hq, rfl⟩, hd⟩
    cases hp
    cases hd
    exact ⟨q, hq, rfl⟩
  · rintro ⟨q, hq, rfl⟩
    exact ⟨_, _, rfl, q, _, ⟨hq, rfl⟩, rfl⟩

/-- Whether a step succeeds. -/
def succeeds (x : Drafting α) (d : Draft) : Bool :=
  match x.run d with
  | .ok _ _ => true
  | .error _ _ => false

/-- A step that succeeds has a result. -/
theorem exists_run_of_succeeds {x : Drafting α} (h : x.succeeds d = true) :
    ∃ a d', x.run d = .ok a d' := by
  rw [succeeds] at h
  split at h
  · exact ⟨_, _, ‹_›⟩
  · cases h

end RamlClient.Client.Drafting
