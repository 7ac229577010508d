import RamlClient.Proofs.Identifiers
/-!
# Names that do not begin in lower case

The names of exported definitions and of operations never begin with a lower-case letter: upper-case
forms do not, nor do the usual forms of acronyms, and a keyword, which begins in lower case, never
has to be replaced in them.
-/

namespace RamlClient.Go

open Text

/-- A text does not begin with a lower-case letter. -/
def Unlowered (cs : List Char) : Prop := cs.head?.all (!·.isLower) = true

instance (cs : List Char) : Decidable (Unlowered cs) := inferInstanceAs (Decidable (_ = true))

/-- Two texts that begin with no small letter do not begin with one in a row. -/
theorem Unlowered.append {cs ds : List Char} (hc : Unlowered cs) (hd : Unlowered ds) :
    Unlowered (cs ++ ds) := by
  cases cs with
  | nil => exact hd
  | cons c r => exact hc

/-- Texts that begin with no small letter do not begin with one in a row. -/
theorem Unlowered.flatMap {α : Type} {f : α → List Char} {as : List α}
    (h : ∀ a ∈ as, Unlowered (f a)) : Unlowered (as.flatMap f) := by
  induction as with
  | nil => rfl
  | cons a rest ih =>
    obtain ⟨ha, hrest⟩ := List.forall_mem_cons.1 h
    exact ha.append (ih hrest)

/-! ### Upper-case forms -/

/-- A character with another code is no small letter. -/
theorem isLower_ofNat {n : Nat} (h : n < 97 ∨ 122 < n) : (Char.ofNat n).isLower = false := by
  rw [← Bool.not_eq_true, isLower_iff]
  have hcode := toNat_ofNat n
  omega

/-- The upper-case form of a character does not begin in lower case, and it is not empty. -/
theorem head?_upperChars (c : Char) : ∃ d r, upperChars c = d :: r ∧ d.isLower = false := by
  unfold upperChars
  split
  · rename_i e he
    have hall : ∀ e ∈ upperExpansions, e.2 ≠ [] ∧ ∀ n, e.2.head? = some n → n < 97 ∨ 122 < n := by
      decide +kernel
    obtain ⟨hne, hhead⟩ := hall e (List.mem_of_find?_eq_some he)
    cases hcodes : e.2 with
    | nil => exact absurd hcodes hne
    | cons n r => exact ⟨_, _, rfl, isLower_ofNat (hhead n (by rw [hcodes]; rfl))⟩
  · split
    · rename_i run hrun
      have hall : ∀ r ∈ upperRuns, r.2.2.2 + (r.2.1 - r.1) < 97 ∨ 122 < r.2.2.2 := by decide +kernel
      have hin := List.find?_some hrun
      simp only [Bool.and_eq_true, decide_eq_true_eq] at hin
      have hform := hall run (List.mem_of_find?_eq_some hrun)
      exact ⟨_, _, rfl, isLower_ofNat (by omega)⟩
    · rename_i hnone
      refine ⟨_, _, rfl, Bool.eq_false_iff.2 fun hlower => ?_⟩
      have hrange := isLower_iff.1 hlower
      have hfirst : (97, 122, 1, 65) ∈ upperRuns := List.mem_cons_self
      have hout := List.find?_eq_none.1 hnone _ hfirst
      simp [hrange, Nat.mod_one] at hout

/-- A capitalised text begins with no small letter. -/
theorem unlowered_upperFirst (cs : List Char) : Unlowered (upperFirst cs) := by
  cases cs with
  | nil => rfl
  | cons c r =>
    obtain ⟨d, rest, heq, hd⟩ := head?_upperChars c
    rw [upperFirst, heq]
    simp [Unlowered, hd]

/-! ### Identifiers -/

/-- A text that begins with no small letter does not begin with one when acronyms are
capitalised. -/
theorem Unlowered.fixAcronyms {cs : List Char} (h : Unlowered cs) :
    Unlowered (Go.fixAcronyms cs) := by
  have hforms : ∀ a ∈ acronyms, Unlowered a.2.toList ∧ a.2.toList ≠ [] := by decide +kernel
  unfold Go.fixAcronyms
  generalize acronyms = table at hforms
  induction table generalizing cs with
  | nil => exact h
  | cons a r ih =>
    refine ih ?_ fun b hb => hforms b (List.mem_cons_of_mem a hb)
    cases cs with
    | nil => exact h
    | cons c r =>
      change Unlowered (replaceWhenFrom a.1.toList a.2.toList endsWord 0 (c :: r))
      rw [replaceWhenFrom]
      split
      · obtain ⟨hform, hne⟩ := hforms a List.mem_cons_self
        cases hnew : a.2.toList with
        | nil => exact absurd hnew hne
        | cons d rest =>
          rw [hnew] at hform
          exact hform
      · exact h

/-- A keyword begins in lower case, so nothing else is replaced. -/
theorem avoidKeyword_of_unlowered {s : String} (h : Unlowered s.toList) : avoidKeyword s = s := by
  have hkeywords : ∀ k ∈ keywords, ¬Unlowered k.1.toList := by decide +kernel
  have hnone : (keywords.find? fun k => k.1 == s) = none := by
    refine List.find?_eq_none.2 fun k hk heq => hkeywords k hk ?_
    rwa [beq_iff_eq.1 heq]
  rw [avoidKeyword, hnone]
  rfl

/-- Exported names in camel case begin with no small letter. -/
theorem unlowered_camelCase (ws : List (List Char)) : Unlowered (camelCase true ws) := by
  cases ws with
  | nil => rfl
  | cons w r => exact (unlowered_upperFirst w).append (.flatMap fun v _ => unlowered_upperFirst v)

/-- An exported identifier is never a keyword before keywords are avoided. -/
theorem exportedName_eq (name : String) :
    exportedName name = String.ofList (fixAcronyms (camelCase true (words name))) := by
  have hall : Unlowered (String.ofList (fixAcronyms (camelCase true (words name)))).toList := by
    rw [String.toList_ofList]
    exact (unlowered_camelCase (words name)).fixAcronyms
  rw [exportedName, identifier, avoidKeyword_of_unlowered hall]

/-- An exported identifier does not begin in lower case. -/
theorem unlowered_exportedName (name : String) : Unlowered (exportedName name).toList := by
  rw [exportedName_eq, String.toList_ofList]
  exact (unlowered_camelCase (words name)).fixAcronyms

example : Unlowered (exportedName "2nd name").toList ∧ ¬Unlowered "name2".toList := by
  decide +kernel

end RamlClient.Go

namespace RamlClient.Client

open Api Go

/-! ### Names of operations -/

/-- The names of verbs begin with no small letter. -/
theorem unlowered_verbName (verb : String) : Unlowered (verbName verb).toList := by
  unfold verbName
  split
  · rename_i v hv
    have hall : ∀ v ∈ verbNames, Unlowered v.2.toList := by decide +kernel
    exact hall v (List.mem_of_find?_eq_some hv)
  · rw [String.toList_ofList]
    exact unlowered_upperFirst _

/-- The name of an operation does not begin in lower case, whatever its verb is. -/
theorem unlowered_configuredName {r : Resource} {m : Method} {depth : Option Int} {name : String}
    (h : configuredName r m depth = .ok name) : Unlowered name.toList := by
  obtain ⟨s, hs⟩ | ⟨parts, hparts, hname⟩ := configuredName_cases h
  · rw [hs]
    exact unlowered_exportedName s
  · have htail : Unlowered (Text.concat parts).toList := by
      rw [toList_concat]
      refine .flatMap fun s hs => ?_
      obtain ⟨n, hn⟩ := hparts s hs
      rw [hn]
      exact unlowered_exportedName n
    rw [hname, String.toList_append, String.toList_ofList]
    exact (unlowered_verbName m.verb).append htail.fixAcronyms

end RamlClient.Client
