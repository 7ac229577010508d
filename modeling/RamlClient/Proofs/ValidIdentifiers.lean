import RamlClient.Proofs.Capitals
import RamlClient.Proofs.CodeReader
/-!
# Valid identifiers

An identifier is no keyword, because what stands in for a keyword is none and no other change makes
one. Whether Go takes it hangs on the first letter or digit of the name: every step on the way from
the name to the identifier keeps it in front, and only the upper-case form may take its place.
-/

namespace RamlClient.Go

open Text

/-- Go's keywords, in the order of its specification. -/
def goKeywords : List String :=
  ["break", "default", "func", "interface", "select", "case", "defer", "go", "map", "struct",
    "chan", "else",
   "goto", "package", "switch", "const", "fallthrough", "if", "range", "type", "continue", "for",
   "import",
   "return", "var"]

/-- Whether a character can start an identifier, as far as ASCII goes. -/
def isIdentifierStart (c : Char) : Bool := c.isAlpha || c == '_'

/-- What Go takes for an identifier, as far as ASCII goes: a letter or underscore, then letters,
digits and underscores, and not a keyword. -/
structure ValidIdentifier (s : String) : Prop where
  /-- It starts with a letter or an underscore. -/
  start : s.toList.head?.any isIdentifierStart = true
  /-- It has nothing but letters, digits and underscores. -/
  chars : ∀ c ∈ s.toList, isWordChar c = true
  /-- It is no keyword. -/
  notKeyword : s ∉ goKeywords

instance (s : String) : Decidable (ValidIdentifier s) :=
  decidable_of_iff (s.toList.head?.any isIdentifierStart = true ∧ s.toList.all isWordChar = true ∧
    s ∉ goKeywords) ⟨fun ⟨hstart, hchars, hkeyword⟩ =>
      ⟨hstart, List.all_eq_true.1 hchars, hkeyword⟩,
      fun h => ⟨h.start, List.all_eq_true.2 h.chars, h.notKeyword⟩⟩

/-- The first letter or digit of a name. -/
def firstAlphanum? (name : String) : Option Char := name.toList.find? Char.isAlphanum

/-- The identifier for a name before keywords are avoided. -/
def spelled (name : String) (exported : Bool) : String :=
  String.ofList (fixAcronyms (camelCase exported (words name)))

/-- An identifier is the spelled name, unless that is a keyword. -/
theorem identifier_eq (name : String) (exported : Bool) :
    identifier name exported = avoidKeyword (spelled name exported) := rfl

/-! ### Keywords -/

/-- The table of keywords is complete. -/
theorem mem_goKeywords_iff {s : String} : s ∈ goKeywords ↔ ∃ k ∈ keywords, k.1 = s := by
  have hto : ∀ s ∈ goKeywords, s ∈ keywords.map (·.1) := by decide
  have hfrom : ∀ s ∈ keywords.map (·.1), s ∈ goKeywords := by decide
  rw [← List.mem_map]
  exact ⟨hto s, hfrom s⟩

/-- A keyword is replaced by its entry in the table, and nothing else is. -/
theorem avoidKeyword_cases (s : String) :
    (s ∉ goKeywords ∧ avoidKeyword s = s) ∨ ∃ k ∈ keywords, k.1 = s ∧ avoidKeyword s = k.2 := by
  cases hfind : keywords.find? fun k => k.1 == s with
  | none =>
    refine .inl ⟨fun hs => ?_, by rw [avoidKeyword, hfind]; rfl⟩
    obtain ⟨k, hk, heq⟩ := mem_goKeywords_iff.1 hs
    exact List.find?_eq_none.1 hfind k hk (beq_iff_eq.2 heq)
  | some k =>
    refine .inr ⟨k, List.mem_of_find?_eq_some hfind, ?_, by rw [avoidKeyword, hfind]; rfl⟩
    simpa using List.find?_some hfind

/-- What avoids keywords is none. -/
theorem avoidKeyword_notMem (s : String) : avoidKeyword s ∉ goKeywords := by
  obtain ⟨hs, heq⟩ | ⟨k, hk, -, heq⟩ := avoidKeyword_cases s
  · rwa [heq]
  · have hall : ∀ k ∈ keywords, k.2 ∉ goKeywords := by decide
    exact heq ▸ hall k hk

/-! ### First characters -/

/-- Where the new text begins like the old one, replacements keep the first character. -/
theorem head?_replaceWhen {old new : List Char} {follow : List Char → Bool} (hne : new ≠ [])
    (h : new.head? = old.head?) (cs : List Char) :
    (replaceWhen old new follow cs).head? = cs.head? := by
  cases cs with
  | nil => rfl
  | cons c r =>
    rw [replaceWhen, replaceWhenFrom]
    split
    · rename_i hmatch
      have hstart : old <+: c :: r := by
        simp only [Bool.and_eq_true, List.isPrefixOf_iff_prefix] at hmatch
        exact hmatch.1
      cases hnew : new with
      | nil => exact absurd hnew hne
      | cons d rest =>
        cases hold : old with
        | nil => simp [hnew, hold] at h
        | cons e tail =>
          have hde : d = e := by simpa [hnew, hold] using h
          have hec : e = c := by
            rw [hold] at hstart
            exact (List.cons_prefix_cons.1 hstart).1
          simp [hde, hec]
    · rfl

/-- Acronyms keep their first letter. -/
theorem head?_fixAcronyms (cs : List Char) : (fixAcronyms cs).head? = cs.head? := by
  have htable : ∀ a ∈ acronyms, a.2.toList ≠ [] ∧ a.2.toList.head? = a.1.toList.head? := by decide
  unfold fixAcronyms
  generalize acronyms = table at htable
  induction table generalizing cs with
  | nil => rfl
  | cons a r ih =>
    obtain ⟨⟨hne, hhead⟩, hr⟩ := List.forall_mem_cons.1 htable
    rw [List.foldl_cons, ih (fixAcronym a cs) hr]
    exact head?_replaceWhen hne hhead cs

/-- The upper-case form of a letter or digit is one character. -/
theorem upperChars_of_isAlphanum {c : Char} (hc : c.isAlphanum = true) :
    upperChars c = [c.toUpper] := by
  have hlt : c.toNat < 128 := toNat_lt_of_isAlphanum hc
  have hall : ∀ n < 128, (if 97 ≤ (Char.ofNat n).toNat ∧ (Char.ofNat n).toNat ≤ 122
      then [Char.ofNat ((Char.ofNat n).toNat - 32)] else [Char.ofNat n]) =
        [(Char.ofNat n).toUpper] := by
    decide
  rw [upperChars_of_lt hlt]
  simpa using hall c.toNat hlt

/-- A character that is no small letter is its own capital. -/
theorem toUpper_of_not_isLower {c : Char} (hc : c.isAlphanum = true) (hlower : c.isLower = false) :
    c.toUpper = c := by
  have hlt : c.toNat < 128 := toNat_lt_of_isAlphanum hc
  have hall : ∀ n < 128, (Char.ofNat n).isLower = false →
    (Char.ofNat n).toUpper = Char.ofNat n := by decide
  simpa [hlower] using hall c.toNat hlt

/-- The first word of a name begins with its first letter or digit. -/
theorem head?_words (name : String) : (words name).head?.bind List.head? = firstAlphanum? name := by
  unfold words firstAlphanum?
  induction name.toList with
  | nil => rfl
  | cons c r ih =>
    rw [splitWhere]
    by_cases hc : c.isAlphanum = true
    · cases splitWhere (fun c => !c.isAlphanum) r <;> simp [hc]
    · simpa [hc] using ih

/-- Camel case begins with the first letter or digit of the name, capitalised if the identifier is
exported. -/
theorem head?_camelCase (name : String) (exported : Bool) :
    (camelCase exported (words name)).head? =
      if exported then (firstAlphanum? name).map Char.toUpper else firstAlphanum? name := by
  rw [← head?_words]
  cases hwords : words name with
  | nil => cases exported <;> rfl
  | cons w rest =>
    have hw : w ∈ words name := hwords ▸ List.mem_cons_self
    cases w with
    | nil => simp [words] at hw
    | cons c r =>
      have hc : c.isAlphanum = true := alphanumeric_of_mem_words hw c List.mem_cons_self
      cases exported
      · rfl
      · simp [camelCase, upperFirst, upperChars_of_isAlphanum hc]

/-- What the identifier begins with before keywords are avoided. -/
theorem head?_spelled (name : String) (exported : Bool) :
    (spelled name exported).toList.head? =
      if exported then (firstAlphanum? name).map Char.toUpper else firstAlphanum? name := by
  rw [spelled, String.toList_ofList, head?_fixAcronyms, head?_camelCase]

/-! ### Validity -/

/-- A capital is a letter exactly if the character is one. -/
theorem isAlpha_toUpper {c : Char} (hc : c.isAlphanum = true) : c.toUpper.isAlpha = c.isAlpha := by
  have hlt : c.toNat < 128 := toNat_lt_of_isAlphanum hc
  have hall : ∀ n < 128, (Char.ofNat n).toUpper.isAlpha = (Char.ofNat n).isAlpha := by decide
  rw [← Char.ofNat_toNat c]
  exact hall c.toNat hlt

/-- An identifier is valid if it begins with a letter. -/
theorem validIdentifier_iff (name : String) (exported : Bool) :
    ValidIdentifier (identifier name exported) ↔
      (identifier name exported).toList.head?.any Char.isAlpha = true := by
  have halpha := alphanumeric_identifier name exported
  constructor
  · intro h
    have hstart := h.start
    cases hcs : (identifier name exported).toList with
    | nil => simp [hcs] at hstart
    | cons c r =>
      have hc : c.isAlphanum = true := halpha c (hcs ▸ List.mem_cons_self)
      have hc' : c ≠ '_' := by
        rintro rfl
        exact absurd hc (by decide)
      simpa [hcs, isIdentifierStart, hc'] using hstart
  · intro h
    refine ⟨?_, fun c hc => by simp [isWordChar, halpha c hc], avoidKeyword_notMem _⟩
    cases hcs : (identifier name exported).toList with
    | nil => simp [hcs] at h
    | cons c r => simp_all [isIdentifierStart]

/-- An identifier begins with a letter if the first letter or digit of its name is a letter, whether
it is what stands in for a keyword or not. -/
theorem any_isAlpha_head? (name : String) (exported : Bool) :
    (identifier name exported).toList.head?.any Char.isAlpha =
      (firstAlphanum? name).any Char.isAlpha := by
  have hspelled : (spelled name exported).toList.head?.any Char.isAlpha =
    (firstAlphanum? name).any Char.isAlpha := by
    rw [head?_spelled]
    cases hfirst : firstAlphanum? name with
    | none => cases exported <;> rfl
    | some c => cases exported <;> simp [isAlpha_toUpper (List.find?_some hfirst)]
  rw [← hspelled, identifier_eq]
  obtain ⟨-, heq⟩ | ⟨k, hk, hkey, heq⟩ := avoidKeyword_cases (spelled name exported)
  · rw [heq]
  · have htable : ∀ k ∈ keywords,
      k.2.toList.head?.any Char.isAlpha = k.1.toList.head?.any Char.isAlpha := by
      decide +kernel
    rw [heq, ← hkey, htable k hk]

/-- An identifier has letters and digits only and is no keyword, for every name. It is valid exactly
if the first letter or digit of the name is a letter. An exported one begins with the upper-case
form of that character, and any other with the character itself unless it stands in for a
keyword. -/
theorem identifier_valid_iff (name : String) (exported : Bool) :
    Alphanumeric (identifier name exported).toList ∧ identifier name exported ∉ goKeywords ∧
      (ValidIdentifier (identifier name exported) ↔ ∃ c, firstAlphanum? name = some c ∧
        c.isAlpha = true) ∧
      (identifier name true).toList.head? = (firstAlphanum? name).map Char.toUpper ∧
      ((identifier name false).toList.head? = firstAlphanum? name ∨
        ∃ k ∈ keywords, spelled name false = k.1 ∧ identifier name false = k.2) := by
  refine ⟨alphanumeric_identifier name exported, avoidKeyword_notMem _, ?_, ?_, ?_⟩
  · rw [validIdentifier_iff, any_isAlpha_head?, Option.any_eq_true]
  · have hhead := head?_spelled name true
    rwa [spelled, ← exportedName_eq] at hhead
  · obtain ⟨-, heq⟩ | ⟨k, hk, hkey, heq⟩ := avoidKeyword_cases (spelled name false)
    · exact .inl (by rw [identifier_eq, heq, head?_spelled]; rfl)
    · exact .inr ⟨k, hk, hkey.symm, heq⟩

example : ¬ValidIdentifier (identifier "2nd name" true) ∧
    ValidIdentifier (identifier "type" false) := by decide +kernel

end RamlClient.Go
