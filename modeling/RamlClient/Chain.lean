/-!
# Chains

A chain is a list of keys met on a way that never meets one twice. What is left to meet shrinks with
every step.
-/

namespace RamlClient

variable {α κ : Type} [DecidableEq κ]

/-- The elements whose keys are off a chain are those off a longer chain and those of its last
key. -/
theorem countP_off_chain (key : α → κ) (xs : List α) {chain : List κ} {k : κ} (hnew : k ∉ chain) :
    xs.countP (fun x => decide (key x ∉ chain)) =
      xs.countP (fun x => decide (key x ∉ chain ++ [k])) +
        xs.countP (fun x => decide (key x = k)) := by
  induction xs with
  | nil => rfl
  | cons x r ih =>
    rw [List.countP_cons, List.countP_cons, List.countP_cons, ih]
    by_cases hx : key x = k
    · simp [hx, hnew]
      omega
    · by_cases hc : key x ∈ chain <;> simp [hx, hc]
      omega

/-- A longer chain leaves fewer elements off it if an element has the new key. -/
theorem countP_off_chain_lt (key : α → κ) {xs : List α} {x : α} {chain : List κ} (hmem : x ∈ xs)
    (hnew : key x ∉ chain) :
    xs.countP (fun y => decide (key y ∉ chain ++ [key x])) <
      xs.countP (fun y => decide (key y ∉ chain)) := by
  have hpos : 0 < xs.countP (fun y => decide (key y = key x)) :=
    List.countP_pos_iff.2 ⟨x, hmem, by simp⟩
  have hsplit := countP_off_chain key xs hnew
  omega

end RamlClient
