import Mathlib.Data.List.Infix
import RamlClient.Proofs.ValidIdentifiers
/-!
# Settled texts

A text is settled if no acronym is left in it that still has to be put right. Putting acronyms
right, one after another, always leads to a settled text: an acronym in camel case has one capital,
its first letter, and goes on in lower case, so that no part of a usual form that was put in belongs
to one, and the letter behind a word is of lower case afterwards exactly if it was before. Settled
texts are not changed any more, and a settled text stays settled behind another one unless it begins
in lower case.
-/

namespace RamlClient.Go

open Text

variable {a b : String × String} {cs : List Char}

/-- An acronym in camel case is the first word of a text. -/
def Begins (a : String × String) (cs : List Char) : Prop :=
  a.1.toList <+: cs ∧ endsWord (cs.drop a.1.toList.length) = true

instance (a : String × String) (cs : List Char) : Decidable (Begins a cs) :=
  inferInstanceAs (Decidable (_ ∧ _))

/-- An acronym in camel case is no word of a text. -/
def FreeOf (a : String × String) (cs : List Char) : Prop := ∀ s, s <:+ cs → ¬Begins a s

/-- No acronym in camel case is a word of a text. -/
def Settled (cs : List Char) : Prop := ∀ a ∈ acronyms, FreeOf a cs

/-- The end of a text has no acronym if the text has none. -/
theorem FreeOf.suffix {s : List Char} (h : FreeOf a cs) (hs : s <:+ cs) : FreeOf a s :=
  fun t ht => h t (ht.trans hs)

/-- What ends before a text depends on its first character only. -/
theorem endsWord_congr {cs ds : List Char} (h : cs.head? = ds.head?) :
    endsWord cs = endsWord ds := by
  cases cs <;> cases ds <;> simp_all [endsWord]

/-- No word ends before a small letter. -/
theorem endsWord_eq_false {c : Char} {r : List Char} (h : c.isLower = true) :
    endsWord (c :: r) = false := by
  simp [endsWord, h]

/-! ### The table of acronyms -/

/-- The shape of an acronym: its first letter is a capital that the usual form keeps, and at least
one letter of lower case follows. -/
structure IsAcronym (a : String × String) (first second : Char) (rest form : List Char) : Prop where
  /-- What it is in camel case. -/
  camel : a.1.toList = first :: second :: rest
  /-- Its usual form. -/
  usual : a.2.toList = first :: form
  /-- The first letter is no letter of lower case. -/
  capital : first.isLower = false
  /-- All others are. -/
  lower : ∀ c ∈ second :: rest, c.isLower = true

/-- The acronyms of the table have the form of acronyms. -/
theorem exists_isAcronym (ha : a ∈ acronyms) :
    ∃ first second rest form, IsAcronym a first second rest form := by
  have htable : ∀ a ∈ acronyms, 2 ≤ a.1.toList.length ∧ a.2.toList ≠ [] ∧
    a.1.toList.head? = a.2.toList.head? ∧
      a.1.toList.head?.all (!·.isLower) = true ∧ ∀ c ∈ a.1.toList.tail, c.isLower = true := by
        simp [acronyms]
  obtain ⟨hlength, husual, hhead, hcapital, hlower⟩ := htable a ha
  match hcamel : a.1.toList, husual' : a.2.toList with
  | [], _ => simp [hcamel] at hlength
  | [c], _ => simp [hcamel] at hlength
  | _, [] => exact absurd husual' husual
  | first :: second :: rest, c :: form =>
    obtain rfl : first = c := by simpa [hcamel, husual'] using hhead
    exact ⟨first, second, rest, form, hcamel, husual', by
      simpa [hcamel] using hcapital, by simpa [hcamel] using hlower⟩

/-- No two letters in a usual form are those that an acronym in camel case begins with. -/
theorem not_prefix_of_suffix_usual (ha : a ∈ acronyms) (hb : b ∈ acronyms) {s : List Char}
    (hs : s <:+ a.2.toList) :
    ¬b.1.toList.take 2 <+: s := by
  have htable : ∀ a ∈ acronyms, ∀ b ∈ acronyms, ∀ s ∈ a.2.toList.tails,
    ¬b.1.toList.take 2 <+: s := by decide +kernel
  exact htable a ha b hb s ((List.mem_tails s a.2.toList).2 hs)

/-- No acronym is the first word of the empty text. -/
theorem not_begins_nil (ha : a ∈ acronyms) : ¬Begins a [] := by
  obtain ⟨first, second, rest, form, h⟩ := exists_isAcronym ha
  rintro ⟨hstart, -⟩
  simp [h.camel] at hstart

/-! ### One acronym -/

/-- Skipped characters can be dropped before. -/
theorem replaceWhenFrom_eq_drop (old new : List Char) (follow : List Char → Bool) (skip : Nat)
    (cs : List Char) :
    replaceWhenFrom old new follow skip cs = replaceWhen old new follow (cs.drop skip) := by
  induction skip generalizing cs with
  | zero => rfl
  | succ skip ih =>
    cases cs with
    | nil => rfl
    | cons c r => exact ih r

/-- Nothing is replaced in the empty text. -/
theorem fixAcronym_nil (a : String × String) : fixAcronym a [] = [] := rfl

/-- An acronym that is the first word is replaced. -/
theorem fixAcronym_of_begins (ha : a ∈ acronyms) (h : Begins a cs) :
    fixAcronym a cs = a.2.toList ++ fixAcronym a (cs.drop a.1.toList.length) := by
  obtain ⟨first, second, rest, form, hshape⟩ := exists_isAcronym ha
  cases cs with
  | nil => exact absurd h (not_begins_nil ha)
  | cons c r =>
    have hmatch : (a.1.toList.isPrefixOf (c :: r) && endsWord ((c :: r).drop a.1.toList.length)) =
      true := by
      rw [Bool.and_eq_true, List.isPrefixOf_iff_prefix]
      exact h
    have hdrop : (c :: r).drop a.1.toList.length = r.drop (a.1.toList.length - 1) := by
      simp [hshape.camel]
    rw [fixAcronym, replaceWhen, replaceWhenFrom, if_pos hmatch, replaceWhenFrom_eq_drop, hdrop]
    rfl

/-- Where no acronym is the first word, the first character stays. -/
theorem fixAcronym_of_not_begins {c : Char} {r : List Char} (h : ¬Begins a (c :: r)) :
    fixAcronym a (c :: r) = c :: fixAcronym a r := by
  have hmatch : ¬(a.1.toList.isPrefixOf (c :: r) && endsWord ((c :: r).drop a.1.toList.length)) =
    true := by
    rw [Bool.and_eq_true, List.isPrefixOf_iff_prefix]
    exact h
  rw [fixAcronym, replaceWhen, replaceWhenFrom, if_neg hmatch]
  rfl

/-- A text is read word by word: either an acronym begins it and is passed as a whole, or one
character is passed. -/
theorem acronym_induction (ha : a ∈ acronyms) {motive : List Char → Prop} (nil : motive [])
    (begins : ∀ cs, Begins a cs → motive (cs.drop a.1.toList.length) → motive cs)
    (other : ∀ c r, ¬Begins a (c :: r) → motive r → motive (c :: r)) (cs : List Char) :
    motive cs := by
  obtain ⟨first, second, rest, form, hshape⟩ := exists_isAcronym ha
  induction hlength : cs.length using Nat.strongRecOn generalizing cs with
  | _ n ih =>
    subst hlength
    cases cs with
    | nil => exact nil
    | cons c r =>
      by_cases h : Begins a (c :: r)
      · refine begins _ h (ih _ ?_ _ rfl)
        simp only [List.length_drop, hshape.camel, List.length_cons]
        omega
      · exact other c r h (ih _ (by simp) _ rfl)

/-- The first character stays when an acronym is replaced. -/
theorem head?_fixAcronym (ha : a ∈ acronyms) (cs : List Char) :
    (fixAcronym a cs).head? = cs.head? := by
  obtain ⟨first, second, rest, form, hshape⟩ := exists_isAcronym ha
  exact head?_replaceWhen (by simp [hshape.usual]) (by simp [hshape.usual, hshape.camel]) cs

/-- Letters of lower case at the start of a text are not touched, and what follows them is put right
by itself. -/
theorem lower_prefix_fixAcronym (ha : a ∈ acronyms) {low : List Char}
    (hlow : ∀ c ∈ low, c.isLower = true) (h : low <+: fixAcronym a cs) :
    low <+: cs ∧ (fixAcronym a cs).drop low.length = fixAcronym a (cs.drop low.length) := by
  induction low generalizing cs with
  | nil => exact ⟨List.nil_prefix, rfl⟩
  | cons e low ih =>
    obtain ⟨he, hlow⟩ := List.forall_mem_cons.1 hlow
    cases cs with
    | nil => simp [fixAcronym_nil] at h
    | cons c r =>
      by_cases hbegins : Begins a (c :: r)
      · obtain ⟨first, second, rest, form, hshape⟩ := exists_isAcronym ha
        rw [fixAcronym_of_begins ha hbegins, hshape.usual, List.cons_append] at h
        obtain ⟨rfl, -⟩ := List.cons_prefix_cons.1 h
        simp [hshape.capital] at he
      · rw [fixAcronym_of_not_begins hbegins] at h ⊢
        obtain ⟨rfl, hrest⟩ := List.cons_prefix_cons.1 h
        obtain ⟨hstart, hdrop⟩ := ih hlow hrest
        exact ⟨List.cons_prefix_cons.2 ⟨rfl, hstart⟩, hdrop⟩

/-- What begins a text behind whose first character an acronym was put right began it before. -/
theorem Begins.of_fixAcronym (ha : a ∈ acronyms) (hb : b ∈ acronyms) {c : Char} {r : List Char}
    (h : Begins b (c :: fixAcronym a r)) : Begins b (c :: r) := by
  obtain ⟨first, second, rest, form, hshape⟩ := exists_isAcronym hb
  obtain ⟨hstart, hend⟩ := h
  rw [hshape.camel] at hstart hend
  obtain ⟨hfirst, hfixed⟩ := List.cons_prefix_cons.1 hstart
  obtain ⟨hlow, hdrop⟩ := lower_prefix_fixAcronym ha hshape.lower hfixed
  rw [Begins, hshape.camel]
  refine ⟨List.cons_prefix_cons.2 ⟨hfirst, hlow⟩, ?_⟩
  rw [List.length_cons, List.drop_succ_cons] at hend ⊢
  rwa [hdrop, endsWord_congr (head?_fixAcronym ha _)] at hend

/-- No acronym begins within a usual form that stands before the end of a word: its second letter
would be the one behind the usual form, which is not of lower case. -/
theorem not_begins_usual (ha : a ∈ acronyms) (hb : b ∈ acronyms) {s rest : List Char}
    (hs : s <:+ a.2.toList) (hne : s ≠ []) (hend : endsWord rest = true) :
    ¬Begins b (s ++ fixAcronym a rest) := by
  obtain ⟨first, second, low, form, hshape⟩ := exists_isAcronym hb
  rintro ⟨hstart, -⟩
  rw [hshape.camel] at hstart
  match s, hne with
  | [c], _ =>
    obtain ⟨-, hbehind⟩ := List.cons_prefix_cons.1 hstart
    cases hfixed : fixAcronym a rest with
    | nil => simp [hfixed] at hbehind
    | cons d r =>
      obtain ⟨hd, -⟩ := List.cons_prefix_cons.1 (hfixed ▸ hbehind)
      have hlower : d.isLower = true := hd ▸ hshape.lower second List.mem_cons_self
      rw [← endsWord_congr (head?_fixAcronym ha rest), hfixed, endsWord_eq_false hlower] at hend
      cases hend
  | c :: d :: t, _ =>
    obtain ⟨hc, htail⟩ := List.cons_prefix_cons.1 hstart
    obtain ⟨hd, -⟩ := List.cons_prefix_cons.1 htail
    refine not_prefix_of_suffix_usual ha hb hs ?_
    rw [hshape.camel, hc, hd]
    exact List.prefix_append [c, d] t

/-- A piece of two texts is one of the second, or it begins in the first. -/
theorem suffix_append_cases {α : Type} {s as bs : List α} (h : s <:+ as ++ bs) :
    s <:+ bs ∨ ∃ t, t <:+ as ∧ t ≠ [] ∧ s = t ++ bs := by
  induction as with
  | nil => exact .inl h
  | cons c as ih =>
    rcases List.suffix_cons_iff.1 h with rfl | h
    · exact .inr ⟨c :: as, List.suffix_rfl, List.cons_ne_nil c as, rfl⟩
    · obtain h | ⟨t, ht, hne, rfl⟩ := ih h
      · exact .inl h
      · exact .inr ⟨t, ht.trans (List.suffix_cons c as), hne, rfl⟩

/-- Putting an acronym right rids a text of it, and brings no other one back. -/
theorem freeOf_fixAcronym (ha : a ∈ acronyms) (hb : b ∈ acronyms) (cs : List Char)
    (h : b = a ∨ FreeOf b cs) :
    FreeOf b (fixAcronym a cs) := by
  induction cs using acronym_induction ha with
  | nil =>
    intro s hs
    rw [fixAcronym_nil, List.suffix_nil] at hs
    exact hs ▸ not_begins_nil hb
  | begins cs hbegins ih =>
    intro s hs
    rw [fixAcronym_of_begins ha hbegins] at hs
    obtain hs | ⟨t, ht, hne, rfl⟩ := suffix_append_cases hs
    · exact ih (h.imp_right fun h => h.suffix (List.drop_suffix _ _)) s hs
    · exact not_begins_usual ha hb ht hne hbegins.2
  | other c r hother ih =>
    intro s hs
    rw [fixAcronym_of_not_begins hother] at hs
    rcases List.suffix_cons_iff.1 hs with rfl | hs
    · intro hbegins
      have hbefore : Begins b (c :: r) := hbegins.of_fixAcronym ha hb
      rcases h with rfl | h
      · exact hother hbefore
      · exact h _ List.suffix_rfl hbefore
    · exact ih (h.imp_right fun h => h.suffix (List.suffix_cons c r)) s hs

/-- A text without an acronym stays as it is when the acronym is put right. -/
theorem fixAcronym_of_freeOf (h : FreeOf a cs) : fixAcronym a cs = cs := by
  induction cs with
  | nil => rfl
  | cons c r ih =>
    rw [fixAcronym_of_not_begins (h _ List.suffix_rfl), ih (h.suffix (List.suffix_cons c r))]

/-! ### All acronyms -/

/-- Putting all acronyms right leads to a settled text. -/
theorem settled_fixAcronyms (cs : List Char) : Settled (fixAcronyms cs) := by
  have hfold (table : List (String × String)) (htable : table ⊆ acronyms) (b : String × String)
    (hb : b ∈ acronyms)
    (cs : List Char) (h : b ∈ table ∨ FreeOf b cs) :
      FreeOf b (table.foldl (fun t a => fixAcronym a t) cs) := by
    induction table generalizing cs with
    | nil => simpa using h
    | cons a rest ih =>
      obtain ⟨ha, hrest⟩ := List.cons_subset.1 htable
      refine ih hrest (fixAcronym a cs) ?_
      rcases h with h | h
      · rcases List.mem_cons.1 h with rfl | h
        · exact .inr (freeOf_fixAcronym ha hb cs (.inl rfl))
        · exact .inl h
      · exact .inr (freeOf_fixAcronym ha hb cs (.inr h))
  exact fun b hb => hfold acronyms (List.Subset.refl _) b hb cs (.inl hb)

/-- A settled text is not changed. -/
theorem Settled.fixAcronyms_eq (h : Settled cs) : fixAcronyms cs = cs := by
  unfold Settled at h
  unfold fixAcronyms
  generalize acronyms = table at h
  induction table with
  | nil => rfl
  | cons a rest ih =>
    obtain ⟨ha, hrest⟩ := List.forall_mem_cons.1 h
    rw [List.foldl_cons, fixAcronym_of_freeOf ha, ih hrest]

/-- The empty text has no acronyms. -/
theorem settled_nil : Settled [] := by
  intro a ha s hs
  exact List.suffix_nil.1 hs ▸ not_begins_nil ha

/-- Settled texts make a settled text unless the second begins in lower case: no acronym reaches
over the seam, and what ends a word at the seam ends it without the second text too. -/
theorem Settled.append {ds : List Char} (hc : Settled cs) (hd : Settled ds)
    (hcapital : Unlowered ds) :
    Settled (cs ++ ds) := by
  intro a ha s hs
  obtain hs | ⟨t, ht, hne, rfl⟩ := suffix_append_cases hs
  · exact hd a ha s hs
  · rintro ⟨hstart, hend⟩
    refine hc a ha t ht ?_
    have hinside : a.1.toList <+: t := by
      rcases List.prefix_or_prefix_of_prefix hstart (List.prefix_append t ds) with h | ⟨u, hu⟩
      · exact h
      · cases u with
        | nil => exact ⟨[], by simpa using hu.symm⟩
        | cons d u =>
          obtain ⟨first, second, rest, form, hshape⟩ := exists_isAcronym ha
          rw [← hu, List.prefix_append_right_inj] at hstart
          obtain ⟨ds', rfl⟩ := hstart
          have hlower : d.isLower = true := by
            cases t with
            | nil => exact absurd rfl hne
            | cons c t =>
              rw [hshape.camel, List.cons_append, List.cons.injEq] at hu
              exact hshape.lower d (hu.2 ▸ List.mem_append_right t List.mem_cons_self)
          simp [Unlowered, hlower] at hcapital
    refine ⟨hinside, ?_⟩
    rw [List.drop_append_of_le_length hinside.length_le] at hend
    cases hrest : t.drop a.1.toList.length with
    | nil => rfl
    | cons c r => simpa [hrest, endsWord] using hend

/-! ### Exported identifiers -/

/-- Exported names have no acronyms in camel case. -/
theorem settled_exportedName (name : String) : Settled (exportedName name).toList := by
  rw [exportedName_eq, String.toList_ofList]
  exact settled_fixAcronyms _

/-- Exported identifiers one after another are settled. -/
theorem settled_flatMap {parts : List String} (h : ∀ s ∈ parts, ∃ n, s = exportedName n) :
    Settled (parts.flatMap String.toList) := by
  induction parts with
  | nil => exact settled_nil
  | cons s rest ih =>
    obtain ⟨⟨n, hn⟩, hrest⟩ := List.forall_mem_cons.1 h
    have hcapital : Unlowered (rest.flatMap String.toList) := by
      refine .flatMap fun t ht => ?_
      obtain ⟨m, hm⟩ := hrest t ht
      rw [hm]
      exact unlowered_exportedName m
    rw [List.flatMap_cons, hn]
    exact (settled_exportedName n).append (ih hrest) hcapital

/-- A text of letters and digits that does not begin in lower case is in camel case. -/
theorem camelCase_words {s : String} (halpha : Alphanumeric s.toList)
    (hcapital : Unlowered s.toList) :
    camelCase true (words s) = s.toList := by
  have hpieces : splitWhere (fun c => !c.isAlphanum) s.toList = [s.toList] :=
    splitWhere_of_forall fun c hc => by simp [halpha c hc]
  rw [words, hpieces]
  cases hcs : s.toList with
  | nil => rfl
  | cons c r =>
    have hc : c.isAlphanum = true := halpha c (hcs ▸ List.mem_cons_self)
    have hlower : c.isLower = false := by simpa [Unlowered, hcs] using hcapital
    simp [camelCase, upperFirst, upperChars_of_isAlphanum hc, toUpper_of_not_isLower hc hlower]

/-- The exported identifier for an exported identifier is the same. -/
theorem exportedName_exportedName (name : String) :
    exportedName (exportedName name) = exportedName name := by
  rw [exportedName_eq (exportedName name),
    camelCase_words (alphanumeric_exportedName name) (unlowered_exportedName name),
    (settled_exportedName name).fixAcronyms_eq, String.ofList_toList]

end RamlClient.Go
