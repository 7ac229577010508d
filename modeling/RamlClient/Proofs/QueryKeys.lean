import RamlClient.Client.Operations
import RamlClient.Proofs.CodeReader
import RamlClient.Proofs.StringLiterals
/-!
# Keys of query parameters

The statements that set a query parameter pass its name on as a string literal. For an optional
parameter these statements are indented, line by line, and a name can have characters that stand for
themselves in a literal although they end lines: the next-line control and the line and paragraph
separators. A tab behind one of them gets into the name, so the name is passed on exactly if the
parameter is required or the name has no such character.
-/

namespace RamlClient.Go

/-! ### Indenting -/

/-- A text with a tab before every line that is not blank. -/
def indentAll (cs : List Char) : List Char := (Text.lines cs).flatMap indentLine

/-- A text with a tab before every line that is not blank, but the first one. -/
def indentRest (cs : List Char) : List Char :=
  (Text.lines cs).headD [] ++ (Text.lines cs).tail.flatMap indentLine

/-- The characters of an indented text. -/
theorem toList_indentLines (s : String) : (Text.indentLines s).toList = indentAll s.toList := by
  rw [Text.indentLines, String.toList_ofList]
  rfl

/-- A text that begins with a line end has an empty first line. -/
theorem lines_of_isLineEnd {c : Char} (hc : Text.isLineEnd c = true) (hreturn : c ≠ '\r')
    (r : List Char) :
    Text.lines (c :: r) = [c] :: Text.lines r := by
  rw [Text.lines]
  simp [hc, hreturn]

/-- A character that ends no line belongs to the first line. -/
theorem lines_of_not_isLineEnd {c : Char} (hc : Text.isLineEnd c = false) (r : List Char) :
    Text.lines (c :: r) = (c :: (Text.lines r).headD []) :: (Text.lines r).tail := by
  rw [Text.lines]
  simp only [hc, Bool.false_and, Bool.false_eq_true, if_false]
  cases Text.lines r <;> rfl

/-- The empty text has no lines to indent. -/
@[simp] theorem indentAll_nil : indentAll [] = [] := rfl

/-- Behind a line end, a new line is indented. -/
theorem indentRest_of_isLineEnd {c : Char} (hc : Text.isLineEnd c = true) (hreturn : c ≠ '\r')
    (r : List Char) : indentRest (c :: r) = c :: indentAll r := by
  rw [indentRest, lines_of_isLineEnd hc hreturn]
  rfl

/-- Within a line, nothing is put in. -/
theorem indentRest_append {as : List Char} (h : ∀ c ∈ as, Text.isLineEnd c = false)
    (rest : List Char) :
    indentRest (as ++ rest) = as ++ indentRest rest := by
  induction as with
  | nil => rfl
  | cons c r ih =>
    obtain ⟨hc, hr⟩ := List.forall_mem_cons.1 h
    rw [List.cons_append, List.cons_append, ← ih hr, indentRest, lines_of_not_isLineEnd hc]
    rfl

/-- Before a text stands a tab, unless the first line is blank. -/
theorem indentAll_eq (cs : List Char) : indentAll cs =
    (if ((Text.lines cs).headD []).all Text.isBlank then [] else ['\t']) ++ indentRest cs := by
  rw [indentAll, indentRest]
  cases Text.lines cs with
  | nil => rfl
  | cons line rest =>
    rw [List.flatMap_cons, List.headD_cons, List.tail_cons, indentLine]
    split <;> rfl

/-- Letters and digits end no lines. -/
theorem isLineEnd_of_isAlphanum {c : Char} (h : c.isAlphanum = true) :
    Text.isLineEnd c = false := by
  cases hend : Text.isLineEnd c with
  | false => rfl
  | true =>
    have hall : ∀ n ∈ [10, 11, 12, 13, 28, 29, 30, 133, 8232, 8233],
      (Char.ofNat n).isAlphanum = false := by
      decide
    rw [← Char.ofNat_toNat c, hall _ (toNat_mem_of_isLineEnd hend)] at h
    cases h

/-- A text without line ends stands in the first line. -/
theorem mem_headD_lines {as : List Char} (h : ∀ c ∈ as, Text.isLineEnd c = false) {c : Char}
    (hc : c ∈ as) (rest : List Char) : c ∈ (Text.lines (as ++ rest)).headD [] := by
  induction as with
  | nil => cases hc
  | cons d r ih =>
    obtain ⟨hd, hr⟩ := List.forall_mem_cons.1 h
    rw [List.cons_append, lines_of_not_isLineEnd hd, List.headD_cons]
    rcases List.mem_cons.1 hc with rfl | hc
    · exact List.mem_cons_self
    · exact List.mem_cons_of_mem d (ih hr hc)

/-- A text that begins with something on its first line gets a tab. -/
theorem indentAll_append {as : List Char} (h : ∀ c ∈ as, Text.isLineEnd c = false) {c : Char}
    (hc : c ∈ as) (hink : Text.isBlank c = false) (rest : List Char) :
    indentAll (as ++ rest) = '\t' :: (as ++ indentRest rest) := by
  have hnot : ¬((Text.lines (as ++ rest)).headD []).all Text.isBlank = true := by
    intro hall
    rw [List.all_eq_true.1 hall c (mem_headD_lines h hc rest)] at hink
    cases hink
  rw [indentAll_eq, if_neg hnot, indentRest_append h, List.singleton_append]

/-- Lines that end with line feeds and are not blank get a tab each. -/
theorem indentAll_lines {ls : List (List Char)}
    (h : ∀ l ∈ ls, (∀ c ∈ l, Text.isLineEnd c = false) ∧ ∃ c ∈ l, Text.isBlank c = false)
    (rest : List Char) : indentAll (ls.flatMap (· ++ ['\n']) ++ rest) =
      (ls.flatMap fun l => '\t' :: (l ++ ['\n'])) ++ indentAll rest := by
  induction ls with
  | nil => rfl
  | cons l r ih =>
    obtain ⟨⟨hline, c, hc, hink⟩, hr⟩ := List.forall_mem_cons.1 h
    rw [List.flatMap_cons, List.append_assoc, List.append_assoc, indentAll_append hline hc hink,
      List.singleton_append, indentRest_of_isLineEnd (by decide) (by decide), ih hr]
    simp

/-! ### Indented literals -/

/-- The characters that end lines and stand for themselves in a string literal. -/
def separators : List Char := ['\x85', '\u2028', '\u2029']

/-- A character that is no separator ends no line in a literal. -/
theorem isLineEnd_of_mem_literalChar {c : Char} (h : c ∉ separators) :
    ∀ d ∈ literalChar c, Text.isLineEnd d = false := by
  unfold literalChar
  iterate 7
    split
    · exact List.forall_iff_forall_mem.1 (by decide)
  split
  · have hall : ∀ n < 32, ('\\' :: 'u' :: Text.hexPadded 4 n).Forall fun d =>
      Text.isLineEnd d = false := by
      decide +kernel
    exact List.forall_iff_forall_mem.1 (hall _ ‹_›)
  · rename_i hcontrol
    intro d hd
    obtain rfl := List.mem_singleton.1 hd
    have hcodes : d.toNat ≠ 133 ∧ d.toNat ≠ 8232 ∧ d.toNat ≠ 8233 := by
      refine ⟨?_, ?_, ?_⟩
      all_goals
        intro hcode
        refine h ?_
        rw [← Char.ofNat_toNat d, hcode]
        decide
    simp [Text.isLineEnd, Text.CodeRanges.contains]
    omega

/-- A separator stands for itself in a literal, where it ends a line. -/
theorem literalChar_of_mem_separators {c : Char} (h : c ∈ separators) :
    literalChar c = [c] ∧ Text.isLineEnd c = true ∧ c ≠ '\r' ∧
      (LiteralElement.plain c).value? = some (String.utf8EncodeChar c) := by
  have hall : separators.Forall fun c => literalChar c = [c] ∧ Text.isLineEnd c = true ∧ c ≠ '\r' ∧
      (LiteralElement.plain c).value? = some (String.utf8EncodeChar c) := by decide +kernel
  exact List.forall_iff_forall_mem.1 hall c h

/-- A literal of characters that are no separators is on one line. -/
theorem isLineEnd_of_mem_literal {cs : List Char} (h : ∀ c ∈ cs, c ∉ separators) :
    ∀ d ∈ cs.flatMap literalChar ++ [Text.doubleQuote], Text.isLineEnd d = false := by
  intro d hd
  rcases List.mem_append.1 hd with hd | hd
  · obtain ⟨c, hc, hd⟩ := List.mem_flatMap.1 hd
    exact isLineEnd_of_mem_literalChar (h c hc) d hd
  · obtain rfl := List.mem_singleton.1 hd
    decide

/-- A separator is followed by a line that is not blank, the one with the closing quote if there is
no other. So with separators, the literal becomes one of a longer text. -/
theorem exists_indentRest_literal {cs : List Char} (h : ∃ c ∈ cs, c ∈ separators)
    (rest : List Char) :
    ∃ ds es, cs.length < ds.length ∧ valueOfAll? es = some (utf8 ds) ∧
      indentRest (cs.flatMap literalChar ++ Text.doubleQuote :: rest) =
        es.flatMap LiteralElement.text ++ Text.doubleQuote :: indentRest rest := by
  have htab : (LiteralElement.plain '\t').value? = some (String.utf8EncodeChar '\t') := by decide
  induction cs with
  | nil => simp at h
  | cons c r ih =>
    rw [List.flatMap_cons, List.append_assoc]
    by_cases hc : c ∈ separators
    · obtain ⟨hliteral, hend, hreturn, hvalue⟩ := literalChar_of_mem_separators hc
      rw [hliteral, List.singleton_append, indentRest_of_isLineEnd hend hreturn]
      by_cases hr : ∃ d ∈ r, d ∈ separators
      · obtain ⟨ds, es, hlength, hes, htext⟩ := ih hr
        rw [indentAll_eq, htext]
        split
        · exact ⟨c :: ds, .plain c :: es, by
            simpa using hlength, by simp [valueOfAll?, hvalue, hes], rfl⟩
        · exact ⟨c :: '\t' :: ds, .plain c :: .plain '\t' :: es, by simp; omega,
            by simp [valueOfAll?, hvalue, htab, hes], rfl⟩
      · have hr : ∀ d ∈ r, d ∉ separators := fun d hd hmem => hr ⟨d, hd, hmem⟩
        refine ⟨c :: '\t' :: r, .plain c :: .plain '\t' :: r.map writtenElement, by simp, ?_, ?_⟩
        · simp [valueOfAll?, hvalue, htab, valueOfAll?_writtenElement]
        · rw [List.append_cons (r.flatMap literalChar), indentAll_append
            (isLineEnd_of_mem_literal hr) (List.mem_append_right _ List.mem_cons_self) (by decide)]
          rw [List.flatMap_cons, List.flatMap_cons, flatMap_writtenElement]
          simp [LiteralElement.text]
    · have hr : ∃ d ∈ r, d ∈ separators := by
        obtain ⟨d, hd, hmem⟩ := h
        rcases List.mem_cons.1 hd with rfl | hd
        · exact absurd hmem hc
        · exact ⟨d, hd, hmem⟩
      obtain ⟨ds, es, hlength, hes, htext⟩ := ih hr
      refine ⟨c :: ds, writtenElement c :: es, by simpa using hlength, ?_, ?_⟩
      · simp [valueOfAll?, value?_writtenElement, hes]
      · rw [indentRest_append (isLineEnd_of_mem_literalChar hc), htext, List.flatMap_cons,
          text_writtenElement, List.append_assoc]

/-- The literal of a text without separators stays as it is. -/
theorem indentRest_literal {cs : List Char} (h : ∀ c ∈ cs, c ∉ separators) (rest : List Char) :
    indentRest (literalChars cs ++ rest) = literalChars cs ++ indentRest rest := by
  refine indentRest_append (fun d hd => ?_) rest
  rw [literalChars] at hd
  rcases List.mem_cons.1 hd with rfl | hd
  · decide
  · exact isLineEnd_of_mem_literal h d hd

/-- Between lines, a literal keeps its value exactly if its text has no separators. -/
theorem readString_indentRest_iff (cs rest tail : List Char) :
    (readString (indentRest (literalChars cs ++ rest) ++ tail)).map Prod.fst = some (utf8 cs) ↔
      ∀ c ∈ cs, c ∉ separators := by
  constructor
  · intro hread c hc hmem
    obtain ⟨ds, es, hlength, hes, htext⟩ := exists_indentRest_literal ⟨c, hc, hmem⟩ rest
    have hquote : ∀ c ∈ [Text.doubleQuote], Text.isLineEnd c = false :=
      List.forall_mem_singleton.2 (by decide)
    have hindent : indentRest (literalChars cs ++ rest) =
        Text.doubleQuote ::
          (es.flatMap LiteralElement.text ++ Text.doubleQuote :: indentRest rest) := by
      rw [← htext, literalChars, List.cons_append, List.append_assoc]
      exact indentRest_append hquote _
    rw [hindent, List.cons_append, List.append_assoc, List.cons_append,
      readString_flatMap hes] at hread
    have heq : ds = cs := utf8_injective (Option.some_inj.1 hread)
    rw [heq] at hlength
    exact Nat.lt_irrefl _ hlength
  · intro h
    rw [indentRest_literal h, List.append_assoc, readString_literalChars]
    rfl

end RamlClient.Go

namespace RamlClient.Client

open Api Go

/-! ### Calls that set parameters -/

/-- The value of the literal that statements pass on as a key, if their first call sets a
parameter. -/
def passedKey? (statements : String) : Option (List UInt8) :=
  match Text.cutAtChar '(' statements.toList with
  | (before, some args) =>
    if ["v.Set", "v.Add"].any fun callee => callee.toList.isSuffixOf before then
      (readString args).map Prod.fst
    else none
  | _ => none

/-- A key is read behind the first bracket, if what is called there sets a parameter. -/
theorem passedKey?_eq {statements : String} {before args : List Char}
    (h : statements.toList = before ++ '(' :: args) (hmark : '(' ∉ before)
    (hcallee : "v.Set".toList <:+ before ∨ "v.Add".toList <:+ before) :
    passedKey? statements = (readString args).map Prod.fst := by
  have hany : (["v.Set", "v.Add"].any fun callee => callee.toList.isSuffixOf before) = true := by
    simpa only [List.any_cons, List.any_nil, Bool.or_false, Bool.or_eq_true,
      List.isSuffixOf_iff_suffix] using hcallee
  rw [passedKey?, h, Text.cutAtChar_append hmark]
  exact if_pos hany

/-- A line of code up to the first call: it has no bracket, does not end, and is not blank. -/
def IsOpening (l : List Char) : Prop :=
  (∀ c ∈ l, c ≠ '(' ∧ Text.isLineEnd c = false) ∧ ∃ c ∈ l, Text.isBlank c = false

/-- An expression for a field goes on in one line and calls nothing. -/
theorem of_mem_selector (start : String) {field : String} (hfield : Alphanumeric field.toList)
    (hstart : ∀ c ∈ start.toList, c ≠ '(' ∧ Text.isLineEnd c = false) :
    ∀ c ∈ (start ++ field).toList, c ≠ '(' ∧ Text.isLineEnd c = false := by
  intro c hc
  rw [String.toList_append] at hc
  rcases List.mem_append.1 hc with hc | hc
  · exact hstart c hc
  · refine ⟨?_, isLineEnd_of_isAlphanum (hfield c hc)⟩
    rintro rfl
    exact absurd (hfield _ hc) (by decide)

/-- The statements that set a parameter call nothing before they pass the key on. -/
theorem exists_call (key : String) {value : String} (isArray : Bool)
    (hvalue : ∀ c ∈ value.toList, c ≠ '(' ∧ Text.isLineEnd c = false) :
    ∃ loop callee closing, (valueSetter key value isArray).toList =
        loop.flatMap (· ++ ['\n']) ++ (callee ++ '(' :: (key.toList ++ closing)) ∧
      (∀ l ∈ callee :: loop, IsOpening l) ∧
      ("v.Set".toList <:+ callee ∨ "v.Add".toList <:+ callee) := by
  cases isArray with
  | false =>
    refine ⟨[], "\tv.Set".toList, (", fmt.Sprint(" ++ value ++ "))\n").toList, ?_, ?_, ?_⟩
    · simp [valueSetter]
    · rw [List.forall_mem_singleton]
      exact ⟨List.forall_iff_forall_mem.1 (by decide), 'v', by decide, by decide⟩
    · exact .inl (by decide)
  | true =>
    refine ⟨[("\tfor _, item := range " ++ value ++ " \x7b").toList], "\t\tv.Add".toList,
      ", fmt.Sprint(item))\n\t\x7d\n".toList, ?_, ?_, ?_⟩
    · simp [valueSetter]
    · rw [List.forall_mem_cons, List.forall_mem_singleton]
      refine ⟨⟨List.forall_iff_forall_mem.1 (by decide), 'v', by decide, by decide⟩, ?_,
        'f', by simp, by decide⟩
      simp only [String.toList_append, List.forall_mem_append]
      exact ⟨⟨List.forall_iff_forall_mem.1 (by decide), hvalue⟩,
        List.forall_iff_forall_mem.1 (by decide)⟩
    · exact .inr (by decide)

/-- Indenting statements leaves the lines up to their first call as they are. -/
theorem toList_indentLines_call {code : String} {loop : List (List Char)} {callee rest : List Char}
    (htext : code.toList = loop.flatMap (· ++ ['\n']) ++ (callee ++ '(' :: rest))
    (hopening : ∀ l ∈ callee :: loop, IsOpening l) :
    (Text.indentLines code).toList =
      (loop.flatMap fun l => ['\t'] ++ (l ++ ['\n'])) ++ ('\t' :: callee) ++
        '(' :: indentRest rest := by
  obtain ⟨hcall, hloop⟩ := List.forall_mem_cons.1 hopening
  obtain ⟨c, hc, hink⟩ := hcall.2
  have hend : ∀ d ∈ callee ++ ['('], Text.isLineEnd d = false := by
    rw [List.forall_mem_append]
    exact ⟨fun d hd => (hcall.1 d hd).2, List.forall_mem_singleton.2 (by decide)⟩
  rw [toList_indentLines, htext, indentAll_lines fun l hl =>
    ⟨fun d hd => ((hloop l hl).1 d hd).2, (hloop l hl).2⟩, List.append_cons callee,
    indentAll_append hend (List.mem_append_left _ hc) hink]
  simp

/-- The lines of the statements that set a query parameter. -/
def setterLines (key value : String) (isArray : Bool) : List String :=
  if isArray then
    ["\tfor _, item := range " ++ value ++ " \x7b", "\t\tv.Add(" ++ key ++ ", fmt.Sprint(item))",
      "\t\x7d"]
  else ["\tv.Set(" ++ key ++ ", fmt.Sprint(" ++ value ++ "))"]

/-- The statements that set a parameter, line by line. -/
theorem valueSetter_eq (key value : String) (isArray : Bool) :
    valueSetter key value isArray =
      Text.concat ((setterLines key value isArray).map (· ++ "\n")) := by
  rw [← String.toList_inj, toList_concat, valueSetter, setterLines]
  split <;> simp

/-- These lines do not end early and are not blank, if the key and the value do not end lines. -/
theorem of_mem_setterLines {key value : String} (isArray : Bool)
    (hkey : ∀ c ∈ key.toList, Text.isLineEnd c = false)
    (hvalue : ∀ c ∈ value.toList, Text.isLineEnd c = false) :
    ∀ l ∈ setterLines key value isArray,
      (∀ c ∈ l.toList, Text.isLineEnd c = false) ∧ ∃ c ∈ l.toList, Text.isBlank c = false := by
  have hfixed :
    ∀ s ∈ ["\tfor _, item := range ", " \x7b", "\t\tv.Add(", ", fmt.Sprint(item))", "\t\x7d",
      "\tv.Set(", ", fmt.Sprint(", "))"], s.toList.Forall fun c => Text.isLineEnd c = false := by
        decide
  simp only [List.forall_mem_cons, List.forall_iff_forall_mem] at hfixed
  obtain ⟨hfor, hopen, hadd, hitem, hclose, hset, hprint, hend, -⟩ := hfixed
  unfold setterLines
  split
  · simp only [List.forall_mem_cons, String.toList_append, List.forall_mem_append]
    refine ⟨⟨⟨⟨hfor, hvalue⟩, hopen⟩, 'f', ?_, by decide⟩, ⟨⟨⟨hadd, hkey⟩, hitem⟩, 'v', ?_, by
      decide⟩, ⟨hclose, '\x7d', ?_, by decide⟩, ?_⟩ <;> simp
  · simp only [List.forall_mem_cons, String.toList_append, List.forall_mem_append]
    refine ⟨⟨⟨⟨⟨⟨hset, hkey⟩, hprint⟩, hvalue⟩, hend⟩, 'v', ?_, by decide⟩, ?_⟩ <;> simp

/-! ### Keys that are passed on -/

/-- Openings of blocks have no bracket. -/
theorem notMem_openings {mark : List Char} (hmark : '(' ∉ mark) {loop : List (List Char)}
    (h : ∀ l ∈ loop, IsOpening l) : '(' ∉ loop.flatMap fun l => mark ++ (l ++ ['\n']) := by
  intro hmem
  obtain ⟨l, hl, hmem⟩ := List.mem_flatMap.1 hmem
  rcases List.mem_append.1 hmem with hmem | hmem
  · exact hmark hmem
  rcases List.mem_append.1 hmem with hmem | hmem
  · exact ((h l hl).1 _ hmem).1 rfl
  · exact absurd hmem (by decide)

/-- Statements that are not indented pass the name on. -/
theorem passedKey?_valueSetter (name : String) {value : String} (isArray : Bool)
    (hvalue : ∀ c ∈ value.toList, c ≠ '(' ∧ Text.isLineEnd c = false) :
    passedKey? (valueSetter (literal name) value isArray) = some (utf8 name.toList) := by
  obtain ⟨loop, callee, closing, htext, hopening, hcallee⟩ :=
    exists_call (literal name) isArray hvalue
  obtain ⟨hcall, hloop⟩ := List.forall_mem_cons.1 hopening
  rw [← List.append_assoc] at htext
  have hmark : '(' ∉ loop.flatMap (· ++ ['\n']) ++ callee := by
    rw [List.mem_append, not_or]
    exact ⟨notMem_openings List.not_mem_nil hloop, fun hmem => (hcall.1 _ hmem).1 rfl⟩
  rw [passedKey?_eq htext hmark (hcallee.imp (·.trans (List.suffix_append _ _))
    (·.trans (List.suffix_append _ _))), literal, String.toList_ofList, readString_literalChars]
  rfl

/-- Indented statements pass the name on exactly if it has no separators. -/
theorem passedKey?_guard_iff (name : String) {field value : String} (isArray : Bool)
    (hfield : Alphanumeric field.toList)
    (hvalue : ∀ c ∈ value.toList, c ≠ '(' ∧ Text.isLineEnd c = false) :
    passedKey? ("\tif query." ++ field ++ " != nil \x7b\n" ++
        Text.indentLines (valueSetter (literal name) value isArray) ++ "\t\x7d\n") =
          some (utf8 name.toList) ↔
      ∀ c ∈ name.toList, c ∉ separators := by
  obtain ⟨loop, callee, closing, htext, hopening, hcallee⟩ :=
    exists_call (literal name) isArray hvalue
  obtain ⟨hcall, hloop⟩ := List.forall_mem_cons.1 hopening
  have hkey : (literal name).toList = literalChars name.toList := String.toList_ofList
  have hindent := toList_indentLines_call htext hopening
  rw [hkey] at hindent
  have hguard : ("\tif query." ++ field ++ " != nil \x7b\n" ++
      Text.indentLines (valueSetter (literal name) value isArray) ++ "\t\x7d\n").toList =
        ("\tif query.".toList ++ field.toList ++ " != nil \x7b\n".toList ++
          (loop.flatMap fun l => ['\t'] ++ (l ++ ['\n'])) ++ '\t' :: callee) ++
        '(' :: (indentRest (literalChars name.toList ++ closing) ++ "\t\x7d\n".toList) := by
    simp only [String.toList_append, hindent, List.append_assoc, List.cons_append]
  have hmark : '(' ∉ "\tif query.".toList ++ field.toList ++ " != nil \x7b\n".toList ++
      (loop.flatMap fun l => ['\t'] ++ (l ++ ['\n'])) ++ '\t' :: callee := by
    have hname : '(' ∉ field.toList := fun hmem => absurd (hfield _ hmem) (by decide)
    have hcallee : '(' ∉ '\t' :: callee := by
      rw [List.mem_cons, not_or]
      exact ⟨by decide, fun hmem => (hcall.1 _ hmem).1 rfl⟩
    simp only [List.mem_append, not_or]
    exact ⟨⟨⟨⟨by decide, hname⟩, by decide⟩, notMem_openings (by decide) hloop⟩, hcallee⟩
  have hsuffix : callee <:+ "\tif query.".toList ++ field.toList ++ " != nil \x7b\n".toList ++
      (loop.flatMap fun l => ['\t'] ++ (l ++ ['\n'])) ++ '\t' :: callee :=
    (List.suffix_cons _ _).trans (List.suffix_append _ _)
  rw [passedKey?_eq hguard hmark (hcallee.imp (·.trans hsuffix) (·.trans hsuffix)),
    readString_indentRest_iff]

/-- The key that the statements for a parameter pass on is the name of the parameter exactly if the
parameter is required or its name has no separators. If it is for an optional parameter, the
statements are guarded: between the test of the field and the closing brace stand the lines of the
statements for the dereferenced field, each with a tab before it and without any other change. -/
theorem querySetter_keeps_key (p : Parameter) {field : String}
    (hfield : Alphanumeric field.toList) :
    (passedKey? (querySetter p field) = some (utf8 p.name.toList) ↔
      p.type.required = true ∨ ∀ c ∈ p.name.toList, c ∉ separators) ∧
    (p.type.required = false → passedKey? (querySetter p field) = some (utf8 p.name.toList) →
      ∃ lines : List String, (∀ l ∈ lines, '\n' ∉ l.toList) ∧
        valueSetter (literal p.name) ("*query." ++ field) p.type.isArray =
          Text.concat (lines.map fun l => l ++ "\n") ∧
        querySetter p field = "\tif query." ++ field ++ " != nil \x7b\n" ++
          Text.concat (lines.map fun l => "\t" ++ l ++ "\n") ++ "\t\x7d\n") := by
  have hvalue := of_mem_selector "query." hfield (List.forall_iff_forall_mem.1 (by decide))
  have hpointer := of_mem_selector "*query." hfield (List.forall_iff_forall_mem.1 (by decide))
  have hkept : passedKey? (querySetter p field) = some (utf8 p.name.toList) ↔
      p.type.required = true ∨ ∀ c ∈ p.name.toList, c ∉ separators := by
    unfold querySetter
    split
    · rename_i hrequired
      exact iff_of_true (passedKey?_valueSetter p.name _ hvalue) (.inl hrequired)
    · rename_i hrequired
      rw [passedKey?_guard_iff p.name _ hfield hpointer]
      exact ⟨.inr, fun h => h.resolve_left hrequired⟩
  refine ⟨hkept, fun hoptional hpassed => ?_⟩
  have hseparators : ∀ c ∈ p.name.toList, c ∉ separators :=
    (hkept.1 hpassed).resolve_left (by simp [hoptional])
  have hkey : ∀ c ∈ (literal p.name).toList, Text.isLineEnd c = false := by
    rw [literal, String.toList_ofList, literalChars, List.forall_mem_cons]
    exact ⟨by decide, isLineEnd_of_mem_literal hseparators⟩
  have hlines := of_mem_setterLines p.type.isArray hkey fun c hc => (hpointer c hc).2
  have hindent := indentAll_lines (List.forall_mem_map.2 hlines) []
  refine ⟨setterLines (literal p.name) ("*query." ++ field) p.type.isArray, ?_,
    valueSetter_eq _ _ _, ?_⟩
  · intro l hl hmem
    exact absurd ((hlines l hl).1 _ hmem) (by decide)
  · simp only [List.flatMap_map, List.append_nil, indentAll_nil] at hindent
    rw [← String.toList_inj, querySetter, if_neg (by simp [hoptional])]
    simp only [String.toList_append, toList_indentLines, valueSetter_eq, toList_concat,
      List.flatMap_map]
    rw [show "\n".toList = ['\n'] from rfl, hindent]
    rfl

/-- A line separator in the name of an optional parameter takes a tab into the key; the name of an
array is kept. -/
theorem querySetter_keeps_key_pages :
    let page : Parameter := ⟨"page\u2028size", ⟨"integer", false, none, []⟩⟩
    let tags : Parameter := ⟨"tags", ⟨"array", false, some ⟨"string", true, none, []⟩, []⟩⟩
    (Alphanumeric "PageSize".toList ∧
      passedKey? (querySetter page "PageSize") ≠ some (utf8 page.name.toList)) ∧
    Alphanumeric "Tags".toList ∧ tags.type.required = false ∧
      passedKey? (querySetter tags "Tags") = some (utf8 tags.name.toList) ∧
      ∃ lines : List String, (∀ l ∈ lines, '\n' ∉ l.toList) ∧
        valueSetter (literal tags.name) "*query.Tags" tags.type.isArray =
          Text.concat (lines.map fun l => l ++ "\n") ∧
        querySetter tags "Tags" = "\tif query.Tags != nil \x7b\n" ++
          Text.concat (lines.map fun l => "\t" ++ l ++ "\n") ++ "\t\x7d\n" := by
  intro page tags
  have hpage : Alphanumeric "PageSize".toList := by decide
  have htags : Alphanumeric "Tags".toList := by decide
  have hkept : passedKey? (querySetter tags "Tags") = some (utf8 tags.name.toList) :=
    (querySetter_keeps_key tags htags).1.2 (.inr (List.forall_iff_forall_mem.1 (by decide)))
  refine ⟨⟨hpage, ?_⟩, htags, rfl, hkept, (querySetter_keeps_key tags htags).2 rfl hkept⟩
  rw [ne_eq, (querySetter_keeps_key page hpage).1]
  exact fun h => h.elim (by decide) fun h => h '\u2028' (by decide) (by decide)

end RamlClient.Client
