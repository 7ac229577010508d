import Mathlib.Logic.Basic
/-!
# Rows of steps

Steps work on a state and may fail. A step that is made of others is taken apart into what each of
them does: it succeeds if all of them do, and it fails as the first one that fails.
-/

namespace RamlClient.Steps

variable {ε σ α β : Type} {s s' : σ}

/-- A row of two steps succeeds if the first one does and then the second one. -/
theorem run_bind_eq_ok {x : EStateM ε σ α} {f : α → EStateM ε σ β} {b : β} :
    (x >>= f).run s = .ok b s' ↔ ∃ a t, x.run s = .ok a t ∧ (f a).run t = .ok b s' := by
  rw [EStateM.run_bind]
  cases hx : x.run s with
  | ok a t =>
    refine ⟨fun h => ⟨a, t, rfl, h⟩, ?_⟩
    rintro ⟨_, _, ⟨⟩, h⟩
    exact h
  | error e t => simp

/-- A row of two steps fails if the first one does, or else the second one. -/
theorem run_bind_eq_error {x : EStateM ε σ α} {f : α → EStateM ε σ β} {e : ε} :
    (x >>= f).run s = .error e s' ↔
      x.run s = .error e s' ∨ ∃ a t, x.run s = .ok a t ∧ (f a).run t = .error e s' := by
  rw [EStateM.run_bind]
  cases hx : x.run s with
  | ok a t =>
    refine ⟨fun h => .inr ⟨a, t, rfl, h⟩, ?_⟩
    rintro (⟨⟨⟩⟩ | ⟨_, _, ⟨⟩, h⟩)
    exact h
  | error e t => simp

/-- After a step that succeeds, the next one runs. -/
theorem run_bind_of_ok {x : EStateM ε σ α} {f : α → EStateM ε σ β} {a : α}
    (h : x.run s = .ok a s') :
    (x >>= f).run s = (f a).run s' := by
  rw [EStateM.run_bind, h]

/-- A row of two steps fails if the first one does. -/
theorem run_bind_of_error {x : EStateM ε σ α} {f : α → EStateM ε σ β} {e : ε}
    (h : x.run s = .error e s') : (x >>= f).run s = .error e s' := by
  rw [EStateM.run_bind, h]

/-- A result that is there is given, and the state stays as it is. -/
theorem run_pure_eq_ok {a b : α} : (pure a : EStateM ε σ α).run s = .ok b s' ↔ a = b ∧ s = s' := by
  simp

/-- No steps give no results. -/
theorem run_mapM_nil_eq_ok {f : α → EStateM ε σ β} {bs : List β} :
    (([] : List α).mapM f).run s = .ok bs s' ↔ [] = bs ∧ s = s' := by
  rw [List.mapM_nil, run_pure_eq_ok]

/-- A row of steps succeeds if the first one does and then all others. -/
theorem run_mapM_cons_eq_ok {f : α → EStateM ε σ β} {a : α} {as : List α} {bs : List β} :
    ((a :: as).mapM f).run s = .ok bs s' ↔
      ∃ b t rest, (f a).run s = .ok b t ∧ (as.mapM f).run t = .ok rest s' ∧ b :: rest = bs := by
  simp only [List.mapM_cons, run_bind_eq_ok, run_pure_eq_ok]
  constructor
  · rintro ⟨b, t, hb, rest, t', hrest, rfl, rfl⟩
    exact ⟨b, t, rest, hb, hrest, rfl⟩
  · rintro ⟨b, t, rest, hb, hrest, rfl⟩
    exact ⟨b, t, hb, rest, _, hrest, rfl, rfl⟩

/-- A row of steps fails as one of them. -/
theorem exists_of_run_mapM_eq_error {f : α → EStateM ε σ β} {as : List α} {e : ε}
    (h : (as.mapM f).run s = .error e s') : ∃ a ∈ as, ∃ t, (f a).run t = .error e s' := by
  induction as generalizing s with
  | nil => exact absurd h nofun
  | cons a as ih =>
    rw [List.mapM_cons, run_bind_eq_error] at h
    rcases h with h | ⟨b, t, -, h⟩
    · exact ⟨a, List.mem_cons_self, s, h⟩
    · rcases run_bind_eq_error.1 h with h | ⟨_, _, -, h⟩
      · obtain ⟨a', ha', t', h⟩ := ih h
        exact ⟨a', List.mem_cons_of_mem a ha', t', h⟩
      · exact absurd h nofun

/-! ### Checks of a run -/

/-- Whether a step succeeds, and its result and the state after it pass a check. -/
def passes (check : α → σ → Bool) (x : EStateM ε σ α) (s : σ) : Bool :=
  match x.run s with
  | .ok a s' => check a s'
  | .error _ _ => false

/-- A step that passes a check succeeds, and its result and state pass. -/
theorem exists_run_of_passes {check : α → σ → Bool} {x : EStateM ε σ α}
    (h : passes check x s = true) :
    ∃ a s', x.run s = .ok a s' ∧ check a s' = true := by
  rw [passes] at h
  split at h
  · exact ⟨_, _, ‹_›, h⟩
  · cases h

/-! ### Other reasons for the same failure -/

section MapError

variable {ε' : Type} {f : ε → ε'}

/-- A success has no failure that could be changed. -/
theorem mapError_ok {a : α} : (Except.ok a).mapError f = .ok a := rfl

/-- A change of failures leaves successes alone. -/
theorem mapError_eq_ok {x : Except ε α} {a : α} : x.mapError f = .ok a ↔ x = .ok a := by
  cases x with
  | ok b => rw [mapError_ok, Except.ok.injEq, Except.ok.injEq]
  | error e => exact iff_of_false (fun h => by cases h) (fun h => by cases h)

end MapError

/-! ### Reasons for failure -/

/-- All failures of a step are of a kind. -/
def FailsAs (P : ε → Prop) (x : EStateM ε σ α) : Prop := ∀ s e s', x.run s = .error e s' → P e

variable {P Q : ε → Prop}

/-- Failures of a kind are failures of a kind that has more. -/
theorem FailsAs.mono {x : EStateM ε σ α} (h : FailsAs P x) (hPQ : ∀ e, P e → Q e) : FailsAs Q x :=
  fun s e s' hrun => hPQ e (h s e s' hrun)

/-- A result that is there is no failure. -/
theorem FailsAs.pure (a : α) : FailsAs P (pure a : EStateM ε σ α) := nofun

/-- A row of two steps fails as one of the two. -/
theorem FailsAs.bind {x : EStateM ε σ α} {f : α → EStateM ε σ β} (hx : FailsAs P x)
    (hf : ∀ a, FailsAs P (f a)) : FailsAs P (x >>= f) := by
  intro s e s' hrun
  rcases run_bind_eq_error.1 hrun with h | ⟨a, t, -, h⟩
  · exact hx s e s' h
  · exact hf a t e s' h

/-- A choice of two steps fails as one of the two. -/
theorem FailsAs.ite {c : Prop} [Decidable c] {x y : EStateM ε σ α} (hx : FailsAs P x)
    (hy : FailsAs P y) :
    FailsAs P (if c then x else y) := by
  split
  · exact hx
  · exact hy

/-- A row of steps fails as one of them. -/
theorem FailsAs.mapM {f : α → EStateM ε σ β} {as : List α} (h : ∀ a ∈ as, FailsAs P (f a)) :
    FailsAs P (as.mapM f) := by
  intro s e s' hrun
  obtain ⟨a, ha, t, hrun⟩ := exists_of_run_mapM_eq_error hrun
  exact h a ha t e s' hrun

end RamlClient.Steps
