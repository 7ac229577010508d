import RamlClient.Api.Build
import RamlClient.Client.OperationName
/-!
# The characters of identifiers

Identifiers are made of ASCII letters and digits only, whatever the names are that they are made
from: the words of a name have no other characters, their upper-case forms neither, and the usual
forms of acronyms and what stands in for keywords are such texts too.
-/

namespace RamlClient.Go

open Text

/-- All characters of a text are ASCII letters and digits. -/
def Alphanumeric (cs : List Char) : Prop := ∀ c ∈ cs, c.isAlphanum = true

instance (cs : List Char) : Decidable (Alphanumeric cs) :=
  decidable_of_iff (cs.all Char.isAlphanum = true) List.all_eq_true

/-- Letters and digits in a row are letters and digits. -/
theorem Alphanumeric.append {cs ds : List Char} (hc : Alphanumeric cs) (hd : Alphanumeric ds) :
    Alphanumeric (cs ++ ds) := by
  intro c h
  rcases List.mem_append.1 h with h | h
  · exact hc c h
  · exact hd c h

/-- Texts of letters and digits in a row are letters and digits. -/
theorem Alphanumeric.flatMap {α : Type} {f : α → List Char} {as : List α}
    (h : ∀ a ∈ as, Alphanumeric (f a)) : Alphanumeric (as.flatMap f) := by
  intro c hc
  obtain ⟨a, ha, hc⟩ := List.mem_flatMap.1 hc
  exact h a ha c hc

/-! ### Words -/

/-- The characters of a piece are in no class that texts are split at. -/
theorem not_of_mem_splitWhere {p : Char → Bool} {cs piece : List Char}
    (h : piece ∈ splitWhere p cs) :
    ∀ c ∈ piece, p c = false := by
  induction cs generalizing piece with
  | nil => simp_all [splitWhere]
  | cons d r ih =>
    rw [splitWhere] at h
    split at h
    · rcases List.mem_cons.1 h with rfl | h
      · simp
      · exact ih h
    · rename_i hd
      have hd : p d = false := by simpa using hd
      split at h
      · obtain rfl := List.mem_singleton.1 h
        simpa using hd
      · rename_i first rest hr
        rcases List.mem_cons.1 h with rfl | h
        · intro c hc
          rcases List.mem_cons.1 hc with rfl | hc
          · exact hd
          · exact ih (by simp [hr]) c hc
        · exact ih (by simp [hr, h])

/-- The words of a name are letters and digits. -/
theorem alphanumeric_of_mem_words {name : String} {w : List Char} (h : w ∈ words name) :
    Alphanumeric w := by
  intro c hc
  have hp := not_of_mem_splitWhere (List.mem_filter.1 h).1 c hc
  simpa using hp

/-- The upper-case form of an ASCII character is that of an ASCII letter, or it is the character. -/
theorem upperChars_of_lt {c : Char} (hc : c.toNat < 128) :
    upperChars c = if 97 ≤ c.toNat ∧ c.toNat ≤ 122 then [Char.ofNat (c.toNat - 32)] else [c] := by
  have hexpansions : ∀ e ∈ upperExpansions, 128 ≤ e.1 := by decide +kernel
  have hruns : ∀ r ∈ upperRuns.tail, 128 ≤ r.1 := by decide +kernel
  have hnone : upperExpansions.find? (·.1 == c.toNat) = none := by
    refine List.find?_eq_none.2 fun e he heq => ?_
    have hle := hexpansions e he
    rw [beq_iff_eq.1 heq] at hle
    omega
  have hrest : upperRuns.tail.find? (fun r =>
      r.1 ≤ c.toNat && c.toNat ≤ r.2.1 && (c.toNat - r.1) % r.2.2.1 == 0) = none := by
    refine List.find?_eq_none.2 fun r hr hin => ?_
    have hle := hruns r hr
    simp only [Bool.and_eq_true, decide_eq_true_eq] at hin
    omega
  have hcons : upperRuns = (97, 122, 1, 65) :: upperRuns.tail := rfl
  rw [upperChars, hnone]
  simp only
  rw [hcons, List.find?_cons, hrest]
  by_cases hlower : 97 ≤ c.toNat ∧ c.toNat ≤ 122
  · have hdistance : 65 + (c.toNat - 97) = c.toNat - 32 := by omega
    simp [hlower, Nat.mod_one, hdistance]
  · have hout : (decide (97 ≤ c.toNat) && decide (c.toNat ≤ 122)) = false := by simpa using hlower
    simp [hlower, hout]

/-- The codes of small ASCII letters. -/
theorem isLower_iff {c : Char} : c.isLower = true ↔ 97 ≤ c.toNat ∧ c.toNat ≤ 122 :=
  Bool.and_eq_true_iff.trans (and_congr decide_eq_true_iff decide_eq_true_iff)

/-- The codes of ASCII letters and digits. -/
theorem isAlphanum_iff {c : Char} : c.isAlphanum = true ↔
    (65 ≤ c.toNat ∧ c.toNat ≤ 90 ∨ 97 ≤ c.toNat ∧ c.toNat ≤ 122) ∨ 48 ≤ c.toNat ∧ c.toNat ≤ 57 :=
  Bool.or_eq_true_iff.trans
    (or_congr (Bool.or_eq_true_iff.trans (or_congr decide_eq_true_iff isLower_iff))
      Char.isDigit_iff_toNat)

/-- Letters and digits are ASCII characters. -/
theorem toNat_lt_of_isAlphanum {c : Char} (hc : c.isAlphanum = true) : c.toNat < 128 := by
  rw [isAlphanum_iff] at hc
  omega

/-- A number that is no code stands for the character with the code zero. -/
theorem toNat_ofNat (n : Nat) : (Char.ofNat n).toNat = n ∨ (Char.ofNat n).toNat = 0 := by
  by_cases h : n.isValidChar
  · have hn : Char.ofNat n = Char.ofNatAux n h := dif_pos h
    exact .inl (congrArg Char.toNat hn)
  · have hn : Char.ofNat n = ⟨0, .inl (by decide)⟩ := dif_neg h
    exact .inr (congrArg Char.toNat hn)

/-- The upper-case form of a letter or digit is one. -/
theorem alphanumeric_upperChars {c : Char} (hc : c.isAlphanum = true) :
    Alphanumeric (upperChars c) := by
  have hlt : c.toNat < 128 := toNat_lt_of_isAlphanum hc
  have hupper : ∀ n < 128, 97 ≤ n → n ≤ 122 → (Char.ofNat (n - 32)).isAlphanum = true := by decide
  rw [upperChars_of_lt hlt]
  split
  · rename_i hlower
    simpa [Alphanumeric] using hupper c.toNat hlt hlower.1 hlower.2
  · simpa [Alphanumeric] using hc

/-- Letters and digits stay so when the first one is capitalised. -/
theorem Alphanumeric.upperFirst {cs : List Char} (h : Alphanumeric cs) :
    Alphanumeric (Go.upperFirst cs) := by
  cases cs with
  | nil => exact h
  | cons c r =>
    have hr : Alphanumeric r := fun d hd => h d (List.mem_cons_of_mem c hd)
    exact (alphanumeric_upperChars (h c List.mem_cons_self)).append hr

/-! ### Replacements -/

/-- The characters of a text with replacements are its own or those of the replacement. -/
theorem mem_replaceWhenFrom {old new : List Char} {follow : List Char → Bool} {skip : Nat}
    {cs : List Char} {c : Char} (h : c ∈ replaceWhenFrom old new follow skip cs) :
    c ∈ new ∨ c ∈ cs := by
  induction cs generalizing skip with
  | nil => cases skip <;> cases h
  | cons d r ih =>
    cases skip with
    | succ skip => exact (ih h).imp_right (List.mem_cons_of_mem d)
    | zero =>
      rw [replaceWhenFrom] at h
      split at h
      · rcases List.mem_append.1 h with h | h
        · exact .inl h
        · exact (ih h).imp_right (List.mem_cons_of_mem d)
      · rcases List.mem_cons.1 h with rfl | h
        · exact .inr List.mem_cons_self
        · exact (ih h).imp_right (List.mem_cons_of_mem d)

/-- Letters and digits stay so when acronyms are capitalised. -/
theorem Alphanumeric.fixAcronyms {cs : List Char} (h : Alphanumeric cs) :
    Alphanumeric (Go.fixAcronyms cs) := by
  have hforms : ∀ a ∈ acronyms, Alphanumeric a.2.toList := by decide +kernel
  unfold Go.fixAcronyms
  generalize acronyms = table at hforms
  induction table generalizing cs with
  | nil => exact h
  | cons a r ih =>
    refine ih (fun c hc => ?_) fun b hb => hforms b (List.mem_cons_of_mem a hb)
    obtain hnew | hold := mem_replaceWhenFrom hc
    · exact hforms a List.mem_cons_self c hnew
    · exact h c hold

/-! ### Identifiers -/

/-- Words of letters and digits are joined to letters and digits. -/
theorem alphanumeric_camelCase (exported : Bool) {ws : List (List Char)}
    (h : ∀ w ∈ ws, Alphanumeric w) : Alphanumeric (camelCase exported ws) := by
  cases ws with
  | nil => simp [camelCase, Alphanumeric]
  | cons w r =>
    have hw := h w List.mem_cons_self
    have hrest : Alphanumeric (r.flatMap upperFirst) :=
      .flatMap fun v hv => (h v (List.mem_cons_of_mem w hv)).upperFirst
    rw [camelCase]
    split
    · exact hw.upperFirst.append hrest
    · exact hw.append hrest

/-- Letters and digits stay so when keywords are avoided. -/
theorem alphanumeric_avoidKeyword {s : String} (h : Alphanumeric s.toList) :
    Alphanumeric (avoidKeyword s).toList := by
  have hkeywords : ∀ k ∈ keywords, Alphanumeric k.2.toList := by decide +kernel
  rw [avoidKeyword]
  cases hk : keywords.find? fun k => k.1 == s with
  | none => exact h
  | some k => exact hkeywords k (List.mem_of_find?_eq_some hk)

/-- An identifier has letters and digits only. -/
theorem alphanumeric_identifier (name : String) (exported : Bool) :
    Alphanumeric (identifier name exported).toList := by
  apply alphanumeric_avoidKeyword
  rw [String.toList_ofList]
  exact (alphanumeric_camelCase exported fun w => alphanumeric_of_mem_words).fixAcronyms

/-- Exported names are letters and digits. -/
theorem alphanumeric_exportedName (name : String) : Alphanumeric (exportedName name).toList :=
  alphanumeric_identifier name true

example : exportedName "e-mail (user_id)" = "EMailUserID" := by decide +kernel

end RamlClient.Go

namespace RamlClient.Client

open Api Go

/-! ### Names of operations -/

/-- Joined texts are the first one and then each other one behind a separator. -/
theorem toList_join_cons (separator s : String) (ss : List String) :
    (Text.join separator (s :: ss)).toList =
      s.toList ++ ss.flatMap fun t => separator.toList ++ t.toList := by
  induction ss generalizing s with
  | nil => simp [Text.join]
  | cons t rest ih =>
    rw [Text.join, String.toList_append, String.toList_append, ih, List.flatMap_cons]
    simp only [List.append_assoc]

/-- The characters of texts in a row are those of one after the other. -/
theorem toList_concat (parts : List String) :
    (Text.concat parts).toList = parts.flatMap String.toList := by
  cases parts with
  | nil => rfl
  | cons s rest => simp [Text.concat, toList_join_cons]

/-- Texts of letters and digits are put together to letters and digits. -/
theorem alphanumeric_concat {parts : List String} (h : ∀ s ∈ parts, Alphanumeric s.toList) :
    Alphanumeric (Text.concat parts).toList := by
  rw [toList_concat]
  exact .flatMap h

/-- What a verb is called has letters only. -/
theorem alphanumeric_verbName {verb : String} (h : verb ∈ verbs) :
    Alphanumeric (verbName verb).toList := by
  have hall : ∀ v ∈ verbs, Alphanumeric (verbName v).toList := by decide +kernel
  exact hall verb h

/-- What is left after a prefix is dropped was there before. -/
theorem mem_dropDepth {α : Type} {depth : Int} {as : List α} {a : α} (h : a ∈ dropDepth depth as) :
    a ∈ as := by
  rw [dropDepth] at h
  split at h
  · exact List.mem_of_mem_drop h
  · exact List.mem_of_mem_drop h

/-- The name of an operation is the identifier of its display name, or it is made of what its verb
is called and of identifiers. -/
theorem operationName_cases {r : Resource} {m : Method} {depth : Int} {name : String}
    (h : operationName r m depth = .ok name) : (∃ s, name = exportedName s) ∨
      ∃ parts : List String, (∀ s ∈ parts, ∃ n, s = exportedName n) ∧
        name = verbName m.verb ++ String.ofList (fixAcronyms (Text.concat parts).toList) := by
  rw [operationName] at h
  split at h
  · obtain rfl := Except.ok.inj h
    exact .inl ⟨_, rfl⟩
  · cases hkind : primaryResponseKind m with
    | error e =>
      rw [hkind] at h
      cases h
    | ok primary =>
      rw [hkind] at h
      obtain rfl := Except.ok.inj h
      refine .inr ⟨_, ?_, rfl⟩
      have hparts : ∀ s ∈ dropDepth depth ((namedSegments r.path).map fun s =>
          exportedName (String.ofList s)), ∃ n, s = exportedName n := by
        intro s hs
        obtain ⟨segment, -, rfl⟩ := List.mem_map.1 (mem_dropDepth hs)
        exact ⟨_, rfl⟩
      intro s hs
      unfold replaceLast at hs
      split at hs
      · split at hs
        · rcases List.mem_append.1 hs with hs | hs
          · exact hparts s (List.dropLast_subset _ hs)
          · exact ⟨_, List.mem_singleton.1 hs⟩
        · exact hparts s hs
      · exact hparts s hs

/-- An operation is named by its display name, or by its verb and the names of its path. -/
theorem configuredName_cases {r : Resource} {m : Method} {depth : Option Int} {name : String}
    (h : configuredName r m depth = .ok name) : (∃ s, name = exportedName s) ∨
      ∃ parts : List String, (∀ s ∈ parts, ∃ n, s = exportedName n) ∧
        name = verbName m.verb ++ String.ofList (fixAcronyms (Text.concat parts).toList) := by
  unfold configuredName at h
  split at h
  · cases h
  · exact operationName_cases h

/-- The name of an operation has letters and digits only, but for what its verb is called. -/
theorem configuredName_eq_ok {r : Resource} {m : Method} {depth : Option Int} {name : String}
    (h : configuredName r m depth = .ok name) : Alphanumeric name.toList ∨
      ∃ tail, name = verbName m.verb ++ tail ∧ Alphanumeric tail.toList := by
  obtain ⟨s, hs⟩ | ⟨parts, hparts, hname⟩ := configuredName_cases h
  · rw [hs]
    exact .inl (alphanumeric_exportedName s)
  · refine .inr ⟨_, hname, ?_⟩
    rw [String.toList_ofList]
    refine Alphanumeric.fixAcronyms (alphanumeric_concat fun s hs => ?_)
    obtain ⟨n, hn⟩ := hparts s hs
    rw [hn]
    exact alphanumeric_exportedName n

/-- The name of an operation with one of the usual verbs has letters and digits only. -/
theorem alphanumeric_configuredName {r : Resource} {m : Method} {depth : Option Int} {name : String}
    (hverb : m.verb ∈ verbs) (h : configuredName r m depth = .ok name) :
    Alphanumeric name.toList := by
  obtain halpha | ⟨tail, rfl, htail⟩ := configuredName_eq_ok h
  · exact halpha
  · rw [String.toList_append]
    exact (alphanumeric_verbName hverb).append htail

end RamlClient.Client
