import RamlClient.Go.Render
import RamlClient.Proofs.StringLiterals
import RamlClient.Proofs.WireNames
/-!
# JSON names in field tags

Three notations stand in one another where a field names its property in JSON texts. The tag is a
raw string literal between backquotes; in the tag, a key has a string literal as its value; and in
that value, the name ends at the first comma, while a hyphen alone leaves the field out. The name of
a property is put there as it is. So it is read back exactly if it has no character that means
something else in one of the notations.
-/

namespace RamlClient.Go

/-! ### Reading tags -/

/-- The value of the first raw string literal in a code, and what follows it: the text between two
backquotes without carriage returns. -/
def rawString? (code : List Char) : Option (List Char × List Char) :=
  match (Text.cutAtChar '\x60' code).2 with
  | some content =>
    match Text.cutAtChar '\x60' content with
    | (value, some rest) => some (value.filter (· != '\r'), rest)
    | _ => none
  | none => none

/-- The value of the first key in a tag, if that is the given one. -/
def tagValue? (key : String) (tag : List Char) : Option (List UInt8) :=
  match Text.cutAtChar ':' tag with
  | (first, some value) => if first = key.toList then (readString value).map Prod.fst else none
  | _ => none

/-- The byte of a comma. -/
def commaByte : UInt8 := 44

/-- The name that a value gives in JSON texts: it ends at the first comma, and a hyphen alone gives
none. -/
def jsonName? (value : List UInt8) : Option (List UInt8) :=
  if value = utf8 ['-'] then none else some (value.takeWhile (· != commaByte))

/-- The name in JSON texts of the field that a code begins with. -/
def fieldJsonName? (code : List Char) : Option (List UInt8) := do
  let (tag, _) ← rawString? code
  let value ← tagValue? "json" tag
  jsonName? value

example : fieldJsonName? "\tID int \x60json:\x22id,omitempty\x22\x60".toList =
    some (utf8 "id".toList) := by
  decide +kernel

/-! ### Bytes -/

/-- Characters are encoded by at least as many bytes. -/
theorem length_le_utf8 (cs : List Char) : cs.length ≤ (utf8 cs).length := by
  induction cs with
  | nil => rfl
  | cons c r ih =>
    have hpos := c.utf8Size_pos
    rw [utf8_cons, List.length_append, String.length_utf8EncodeChar, List.length_cons]
    omega

/-- Only the encoding of a comma has the byte of a comma: the bytes of longer encodings have their
highest bit set. -/
theorem commaByte_mem_utf8EncodeChar {c : Char} (h : commaByte ∈ String.utf8EncodeChar c) :
    c = ',' := by
  have hbyte (n : Nat) : commaByte = UInt8.ofNat n ↔ 44 = n % 256 := by
    rw [← UInt8.toNat_inj, UInt8.toNat_ofNat']
    rfl
  unfold String.utf8EncodeChar at h
  dsimp only at h
  split at h
  · rw [List.mem_singleton, hbyte] at h
    have hcode : c.toNat = 44 := by
      change c.val.toNat = 44
      omega
    rw [← Char.ofNat_toNat c, hcode]
  iterate 2
    split at h
    · simp only [List.mem_cons, List.not_mem_nil, or_false, hbyte] at h
      omega
  · simp only [List.mem_cons, List.not_mem_nil, or_false, hbyte] at h
    omega

/-- The bytes of a text have that of a comma if the text has a comma. -/
theorem commaByte_mem_utf8 {cs : List Char} : commaByte ∈ utf8 cs ↔ ',' ∈ cs := by
  rw [utf8, List.mem_flatMap]
  constructor
  · rintro ⟨c, hc, hbyte⟩
    exact commaByte_mem_utf8EncodeChar hbyte ▸ hc
  · intro h
    exact ⟨',', h, by decide⟩

/-- Each carriage return is encoded by one byte. -/
theorem length_utf8_filter (cs : List Char) :
    (utf8 (cs.filter (· != '\r'))).length + cs.count '\r' = (utf8 cs).length := by
  induction cs with
  | nil => rfl
  | cons c r ih =>
    by_cases hc : c = '\r'
    · have hone : (String.utf8EncodeChar '\r').length = 1 := by decide
      rw [hc, List.filter_cons_of_neg (by decide), List.count_cons_self, utf8_cons,
        List.length_append, hone]
      omega
    · rw [List.filter_cons_of_pos (by simpa using hc), List.count_cons_of_ne hc, utf8_cons,
        utf8_cons, List.length_append, List.length_append]
      omega

/-! ### Elements and what they stand for -/

/-- A character that stands for itself in string literals. -/
def StandsForItself (c : Char) : Prop := c ≠ Text.doubleQuote ∧ c ≠ '\\' ∧ c ≠ '\n'

/-- The byte of a number is one byte. -/
theorem length_of_byteOf? {n : Nat} {value : List UInt8} (h : byteOf? n = some value) :
    value.length = 1 := by
  rw [byteOf?] at h
  split at h
  · cases h
    rfl
  · cases h

/-- A character is encoded by at most four bytes. -/
theorem length_of_codePoint? {n : Nat} {value : List UInt8} (h : codePoint? n = some value) :
    value.length ≤ 4 := by
  rw [codePoint?] at h
  split at h
  · cases h
    rw [String.length_utf8EncodeChar]
    exact Char.utf8Size_le_four _
  · cases h

/-- An escape has more characters than what it stands for has bytes. -/
theorem LiteralElement.length_value_lt {e : LiteralElement} {value : List UInt8}
    (h : e.value? = some value) (hescape : ∀ c, e ≠ plain c) : value.length < e.text.length := by
  cases e with
  | plain c => exact absurd rfl (hescape c)
  | letter e =>
    obtain ⟨c, hc, rfl⟩ := Option.map_eq_some_iff.1 h
    obtain ⟨-, -, -, hsmall⟩ := of_escapedChar? hc
    have hone : c.utf8Size = 1 :=
      Char.utf8Size_eq_one_iff.2 (UInt32.le_iff_toNat_le.2 (Nat.le_of_lt_succ hsmall))
    rw [String.length_utf8EncodeChar, hone]
    exact Nat.lt_succ_self 1
  | octal digits =>
    obtain ⟨hlength, n, -, hvalue⟩ := value?_octal_iff.1 h
    rw [length_of_byteOf? hvalue, text, List.length_cons, hlength]
    decide
  | hex mark digits =>
    obtain ⟨hwidth, n, -, hvalue⟩ := value?_hex_iff.1 h
    have hshort : ∀ w ∈ hexWidths, 1 < w.2 + 2 ∧ (w.1 ≠ 'x' → 4 < w.2 + 2) := by decide
    obtain ⟨hbyte, hcode⟩ := hshort _ hwidth
    rw [text, List.length_cons, List.length_cons]
    split at hvalue
    · rw [length_of_byteOf? hvalue]
      exact hbyte
    · exact (length_of_codePoint? hvalue).trans_lt (hcode ‹_›)

/-- The value of a row of elements has fewer bytes than its text, unless all characters stand for
themselves. -/
theorem length_valueOfAll?_lt {es : List LiteralElement} {value : List UInt8}
    (h : valueOfAll? es = some value) :
    value.length < (utf8 (es.flatMap LiteralElement.text)).length ∨
      value = utf8 (es.flatMap LiteralElement.text) ∧ ∀ c ∈ es.flatMap LiteralElement.text,
      StandsForItself c := by
  induction es generalizing value with
  | nil =>
    obtain rfl := Option.some.inj h
    exact .inr ⟨rfl, nofun⟩
  | cons e r ih =>
    obtain ⟨first, hfirst, h⟩ := Option.bind_eq_some_iff.1 h
    obtain ⟨others, hothers, h⟩ := Option.bind_eq_some_iff.1 h
    obtain rfl := Option.some.inj h
    rw [List.flatMap_cons, utf8_append, List.length_append, List.length_append]
    have hrest : others.length ≤ (utf8 (r.flatMap LiteralElement.text)).length := by
      rcases ih hothers with hlt | ⟨heq, -⟩
      · exact hlt.le
      · exact heq ▸ le_rfl
    by_cases hplain : ∃ c, e = .plain c
    · obtain ⟨c, rfl⟩ := hplain
      obtain ⟨hc, rfl⟩ := LiteralElement.value?_plain_iff.1 hfirst
      rcases ih hothers with hlt | ⟨rfl, hall⟩
      · left
        simpa [LiteralElement.text] using hlt
      · right
        have hfirst : ∀ d ∈ (LiteralElement.plain c).text, StandsForItself d :=
          List.forall_mem_singleton.2 hc
        exact ⟨by simp [LiteralElement.text], List.forall_mem_append.2 ⟨hfirst, hall⟩⟩
    · left
      have hlt := LiteralElement.length_value_lt hfirst fun c hc => hplain ⟨c, hc⟩
      have hbytes := length_le_utf8 e.text
      omega

/-! ### What readers of literals go through -/

/-- An element has at least one character. -/
theorem LiteralElement.length_text_pos (e : LiteralElement) : 0 < e.text.length := by
  cases e <;> exact Nat.succ_pos _

/-- The element that a text begins with is its beginning. -/
theorem LiteralElement.text_elementAt (c : Char) (r : List Char) :
    (elementAt c r).text <+: c :: r := by
  have hcons {a : Char} {as bs : List Char} (h : as <+: bs) : a :: as <+: a :: bs :=
    (List.prefix_cons_inj a).2 h
  unfold elementAt
  split
  · exact List.prefix_rfl
  · rename_i e r
    split
    · rename_i hslash
      rw [hslash, escapeAt]
      split
      · rename_i mark width hfound
        have hmark : mark = e := by simpa using List.find?_some hfound
        rw [hmark]
        exact hcons (hcons (List.take_prefix width r))
      · split
        · exact hcons (hcons (List.take_prefix 2 r))
        · exact hcons (hcons List.nil_prefix)
    · exact hcons List.nil_prefix

/-- The elements that are read are the text up to a quote. What is skipped of it is what an element
has besides its first character. -/
theorem readElements_eq_some {skip : Nat} {cs rest : List Char} {es : List LiteralElement}
    (h : readElements skip cs = some (es, rest)) :
    cs.drop skip = es.flatMap LiteralElement.text ++ Text.doubleQuote :: rest := by
  induction cs generalizing skip es with
  | nil => cases skip <;> cases h
  | cons c r ih =>
    cases skip with
    | succ skip => exact ih h
    | zero =>
      rw [readElements] at h
      split at h
      · rename_i hquote
        cases h
        rw [hquote]
        rfl
      · obtain ⟨⟨others, _⟩, hothers, h⟩ := Option.map_eq_some_iff.1 h
        cases h
        have hpos := (LiteralElement.elementAt c r).length_text_pos
        obtain ⟨tail, htail⟩ := LiteralElement.text_elementAt c r
        have hdrop : r.drop ((LiteralElement.elementAt c r).text.length - 1) = tail := by
          rw [← List.drop_succ_cons (a := c), Nat.sub_add_cancel hpos, ← htail, List.drop_left]
        rw [List.drop_zero, List.flatMap_cons, List.append_assoc, ← ih hothers, hdrop, htail]

/-- The value of a string literal has fewer bytes than the text between its quotes, unless all
characters there stand for themselves. -/
theorem readString_eq_some {cs rest : List Char} {value : List UInt8}
    (h : readString (Text.doubleQuote :: cs) = some (value, rest)) :
    ∃ text, cs = text ++ Text.doubleQuote :: rest ∧
      (value.length < (utf8 text).length ∨ value = utf8 text ∧ ∀ c ∈ text, StandsForItself c) := by
  rw [readString, if_pos rfl] at h
  obtain ⟨⟨es, _⟩, hes, h⟩ := Option.bind_eq_some_iff.1 h
  obtain ⟨value, hvalue, h⟩ := Option.bind_eq_some_iff.1 h
  cases h
  exact ⟨_, readElements_eq_some hes, length_valueOfAll?_lt hvalue⟩

/-- Characters that stand for themselves are read as they are. -/
theorem readString_plain {cs : List Char} (h : ∀ c ∈ cs, StandsForItself c) (rest : List Char) :
    readString (Text.doubleQuote :: (cs ++ Text.doubleQuote :: rest)) = some (utf8 cs, rest) := by
  have hes : ∀ cs : List Char, (∀ c ∈ cs, StandsForItself c) →
      (cs.map LiteralElement.plain).flatMap LiteralElement.text = cs ∧
        valueOfAll? (cs.map LiteralElement.plain) = some (utf8 cs) := by
    intro cs h
    induction cs with
    | nil => exact ⟨rfl, rfl⟩
    | cons c r ih =>
      obtain ⟨hc, hr⟩ := List.forall_mem_cons.1 h
      obtain ⟨htext, hvalue⟩ := ih hr
      have hplain := LiteralElement.value?_plain_iff.2 ⟨hc, rfl⟩
      exact ⟨congrArg (c :: ·) htext, by simp [valueOfAll?, hplain, hvalue]⟩
  obtain ⟨htext, hvalue⟩ := hes cs h
  rw [← readString_flatMap hvalue rest, htext]

/-! ### Names that are read -/

/-- A raw string literal is read from between the first two backquotes. -/
theorem rawString?_eq {start content rest : List Char} (hstart : '\x60' ∉ start)
    (hcontent : '\x60' ∉ content) :
    rawString? (start ++ '\x60' :: (content ++ '\x60' :: rest)) =
      some (content.filter (· != '\r'), rest) := by
  simp only [rawString?, Text.cutAtChar_append hstart, Text.cutAtChar_append hcontent]

/-- The value of a tag with the key for JSON is the literal behind the key. -/
theorem tagValue?_json (value : List Char) :
    tagValue? "json" ("json:".toList ++ value) = (readString value).map Prod.fst := by
  have hkey : "json:".toList ++ value = "json".toList ++ ':' :: value := rfl
  rw [tagValue?, hkey, Text.cutAtChar_append (by decide)]
  exact if_pos rfl

/-- The name that a string literal gives, from behind its opening quote. -/
def literalJsonName? (cs : List Char) : Option (List UInt8) :=
  (readString (Text.doubleQuote :: cs)).bind fun x => jsonName? x.1

/-- The name of a field in JSON texts is read from the tag behind its first backquote. -/
theorem fieldJsonName?_eq {start content rest : List Char} (hstart : '\x60' ∉ start)
    (hcontent : '\x60' ∉ content) :
    fieldJsonName? (start ++ '\x60' :: ("json:\x22".toList ++ content ++ '\x60' :: rest)) =
      literalJsonName? (content.filter (· != '\r')) := by
  have hall : '\x60' ∉ "json:\x22".toList ++ content := by
    rw [List.mem_append, not_or]
    exact ⟨by decide, hcontent⟩
  have hfilter : ("json:\x22".toList ++ content).filter (· != '\r') =
      "json:".toList ++ Text.doubleQuote :: content.filter (· != '\r') := by
    rw [List.filter_append]
    rfl
  rw [fieldJsonName?, rawString?_eq hstart hall, hfilter, Option.bind_eq_bind, Option.bind_some]
  simp only [tagValue?_json, literalJsonName?]
  cases readString (Text.doubleQuote :: content.filter (· != '\r')) <;> rfl

/-- A name has no more bytes than its value, and if it has as many, it is the value. -/
theorem jsonName?_bound {value name : List UInt8} (h : jsonName? value = some name) :
    name.length ≤ value.length ∧
      (name.length = value.length → name = value ∧ name ≠ utf8 ['-'] ∧ commaByte ∉ name) := by
  rw [jsonName?] at h
  split at h
  · cases h
  · rename_i hhyphen
    obtain rfl := Option.some.inj h
    have htaken := List.takeWhile_prefix (l := value) (· != commaByte)
    refine ⟨htaken.length_le, fun hlength => ?_⟩
    have heq := htaken.eq_of_length hlength
    refine ⟨heq, fun hname => hhyphen (heq ▸ hname), fun hmem => ?_⟩
    exact absurd (List.mem_takeWhile_imp hmem) (by simp)

/-- A name has no more bytes than the text between the quotes, and if it has as many, it is that
text. -/
theorem literalJsonName?_bound {cs : List Char} {name : List UInt8}
    (h : literalJsonName? cs = some name) :
    ∃ text rest, cs = text ++ Text.doubleQuote :: rest ∧ name.length ≤ (utf8 text).length ∧
      (name.length = (utf8 text).length → name = utf8 text ∧ name ≠ utf8 ['-'] ∧ commaByte ∉ name ∧
        ∀ c ∈ text, StandsForItself c) := by
  obtain ⟨⟨value, rest⟩, hread, hname⟩ := Option.bind_eq_some_iff.1 h
  obtain ⟨text, hcs, hvalue⟩ := readString_eq_some hread
  obtain ⟨hle, hsame⟩ := jsonName?_bound hname
  dsimp only at hle hsame
  refine ⟨text, rest, hcs, ?_, fun hlength => ?_⟩
  · rcases hvalue with hlt | ⟨rfl, -⟩
    · exact hle.trans hlt.le
    · exact hle
  · rcases hvalue with hlt | ⟨rfl, hall⟩
    · omega
    · obtain ⟨rfl, hhyphen, hcomma⟩ := hsame hlength
      exact ⟨rfl, hhyphen, hcomma, hall⟩

/-- A text gives itself as a name exactly if it is not the hyphen and none of its characters has a
meaning: a name that is as long as the text leaves nothing of it out. -/
theorem literalJsonName?_iff (cs : List Char) :
    literalJsonName? ((cs ++ [Text.doubleQuote]).filter (· != '\r')) = some (utf8 cs) ↔
      cs ≠ ['-'] ∧ ∀ c ∈ cs, StandsForItself c ∧ c ≠ ',' ∧ c ≠ '\r' := by
  have hfilter : (cs ++ [Text.doubleQuote]).filter (· != '\r') =
    cs.filter (· != '\r') ++ [Text.doubleQuote] := by
    rw [List.filter_append]
    rfl
  have hcount := length_utf8_filter cs
  rw [hfilter]
  constructor
  · intro h
    obtain ⟨text, rest, hcs, hle, hsame⟩ := literalJsonName?_bound h
    have hbytes := congrArg (fun cs => (utf8 cs).length) hcs
    have hone : (String.utf8EncodeChar Text.doubleQuote).length = 1 := by decide
    simp only [utf8_append, utf8_cons, utf8_nil, List.append_nil, List.length_append,
      hone] at hbytes
    have hrest : rest = [] := List.eq_nil_of_length_eq_zero (by have := length_le_utf8 rest; omega)
    have hreturn : cs.count '\r' = 0 := by omega
    obtain ⟨heq, hhyphen, hcomma, hall⟩ := hsame (by omega)
    obtain rfl := utf8_injective heq
    refine ⟨fun hcs => hhyphen (congrArg utf8 hcs), fun c hc => ⟨hall c hc, ?_, ?_⟩⟩
    · rintro rfl
      exact hcomma (commaByte_mem_utf8.2 hc)
    · rintro rfl
      exact List.count_eq_zero.1 hreturn hc
  · rintro ⟨hhyphen, hall⟩
    have hkeep : cs.filter (· != '\r') = cs := List.filter_eq_self.2 fun c hc => by
      simpa using (hall c hc).2.2
    have hcomma : ∀ b ∈ utf8 cs, (b != commaByte) = true := by
      intro b hb
      rw [bne_iff_ne]
      rintro rfl
      exact (hall ',' (commaByte_mem_utf8.1 hb)).2.1 rfl
    rw [hkeep, literalJsonName?, readString_plain (fun c hc => (hall c hc).1), Option.bind_some,
      jsonName?, if_neg fun heq => hhyphen (utf8_injective heq), List.takeWhile_eq_self_iff.2
        hcomma]

/-- A literal that ends too early does not give the name. -/
theorem literalJsonName?_ne (before after : List Char) :
    literalJsonName? (before.filter (· != '\r')) ≠ some (utf8 (before ++ '\x60' :: after)) := by
  intro h
  obtain ⟨text, rest, hcs, hle, -⟩ := literalJsonName?_bound h
  have hcount := length_utf8_filter before
  have hbytes := congrArg (fun cs => (utf8 cs).length) hcs
  have hone : (String.utf8EncodeChar Text.doubleQuote).length = 1 := by decide
  simp only [utf8_append, utf8_cons, List.length_append, hone] at hbytes hle
  omega

end RamlClient.Go

namespace RamlClient.Client

open Api Go

/-- The characters that mean something else in a raw string literal, in a string literal or in the
value for a name. -/
def tagMarks : List Char := ['\x60', '\r', Text.doubleQuote, '\\', '\n', ',']

/-- The line of a property up to its tag. -/
def beforeTag (p : Property) : List Char :=
  ("\t" ++ exportedName p.name ++ " " ++ typeText p.type ++ " ").toList

/-- No backquote stands before the tag of a property. -/
theorem backquote_notMem_beforeTag (p : Property) : '\x60' ∉ beforeTag p := by
  have hname : '\x60' ∉ (exportedName p.name).toList := by
    intro hmem
    exact absurd (alphanumeric_exportedName p.name _ hmem) (by decide)
  have htype : '\x60' ∉ (typeText p.type).toList := by
    intro hmem
    exact absurd (mem_typeText p.type _ hmem) (by decide)
  simp only [beforeTag, String.toList_append, List.mem_append, not_or]
  exact ⟨⟨⟨⟨by decide, hname⟩, by decide⟩, htype⟩, by decide⟩

/-- The line of a property ends with its tag. -/
theorem toList_propertyField (p : Property) : (propertyField p).text.toList =
    beforeTag p ++ '\x60' :: ("json:\x22".toList ++ (p.wireName.toList ++ [Text.doubleQuote]) ++
      ['\x60']) := by
  simp [Field.text, propertyField, tagText, beforeTag, jsonTag, Text.doubleQuote]

/-- The tag of a property in code that goes on: up to a backquote in the name, or else up to the end
of the line. -/
theorem exists_content (p : Property) (rest : List Char) : ∃ content after, '\x60' ∉ content ∧
    (propertyField p).text.toList ++ rest =
      beforeTag p ++ '\x60' :: ("json:\x22".toList ++ content ++ '\x60' :: after) ∧
    ('\x60' ∉ p.wireName.toList ∧ content = p.wireName.toList ++ [Text.doubleQuote] ∧ after = rest ∨
      ∃ later, p.wireName.toList = content ++ '\x60' :: later ∧
        after = later ++ Text.doubleQuote :: '\x60' :: rest) := by
  rw [toList_propertyField]
  by_cases hmem : '\x60' ∈ p.wireName.toList
  · obtain ⟨content, later, hname, hcontent⟩ := List.eq_append_cons_of_mem hmem
    refine ⟨content, later ++ Text.doubleQuote :: '\x60' :: rest, hcontent, ?_,
      .inr ⟨later, hname, rfl⟩⟩
    rw [hname]
    simp
  · refine ⟨p.wireName.toList ++ [Text.doubleQuote], rest, ?_, by simp, .inl ⟨hmem, rfl, rfl⟩⟩
    rw [List.mem_append, not_or]
    exact ⟨hmem, by decide⟩

/-- A name without marks is one that stands for itself in a tag. -/
theorem notMem_tagMarks_iff {cs : List Char} : (∀ c ∈ cs, c ∉ tagMarks) ↔
    '\x60' ∉ cs ∧ ∀ c ∈ cs, StandsForItself c ∧ c ≠ ',' ∧ c ≠ '\r' := by
  constructor
  · intro h
    refine ⟨fun hmem => h _ hmem (by decide), fun c hc => ?_⟩
    have hmarks := h c hc
    simp only [tagMarks, List.mem_cons, List.not_mem_nil, or_false, not_or] at hmarks
    obtain ⟨-, hreturn, hquote, hslash, hline, hcomma⟩ := hmarks
    exact ⟨⟨hquote, hslash, hline⟩, hcomma, hreturn⟩
  · rintro ⟨hbackquote, hall⟩ c hc
    obtain ⟨⟨hquote, hslash, hline⟩, hcomma, hreturn⟩ := hall c hc
    have hne : c ≠ '\x60' := fun heq => hbackquote (heq ▸ hc)
    simp only [tagMarks, List.mem_cons, List.not_mem_nil, or_false, not_or]
    exact ⟨hne, hreturn, hquote, hslash, hline, hcomma⟩

/-- The text of a struct has the line of each field. -/
theorem text_of_fields (name : String) (before after : List Field) (f : Field) :
    (Struct.mk name (before ++ f :: after)).text =
      Text.join "\n" (("type " ++ name ++ " struct \x7b") :: before.map Field.text) ++ "\n" ++
        f.text ++ ("\n" ++ Text.join "\n" (after.map Field.text ++ ["\x7d"])) := by
  rw [← String.toList_inj]
  cases after with
  | nil => simp [Struct.text, toList_join_cons, Text.join]
  | cons g r => simp [Struct.text, toList_join_cons]

/-- The line of a property in a struct, read with what follows it. The raw string literal ends at
the end of the line exactly if there is no backquote in the name of the property, and the name for
JSON texts is that name exactly if it is not the hyphen and has no character that means something
else in one of the notations. -/
theorem fieldJsonName?_propertyField_iff (name : String) (before after : List Field)
    (p : Property) :
    let rest := "\n" ++ Text.join "\n" (after.map Field.text ++ ["\x7d"])
    let code := ((propertyField p).text ++ rest).toList
    (Struct.mk name (before ++ propertyField p :: after)).text =
        Text.join "\n" (("type " ++ name ++ " struct \x7b") :: before.map Field.text) ++ "\n" ++
          (propertyField p).text ++ rest ∧
      ((∃ tag, rawString? code = some (tag, rest.toList)) ↔ '\x60' ∉ p.wireName.toList) ∧
      (fieldJsonName? code = some (utf8 p.wireName.toList) ↔
        p.wireName ≠ "-" ∧ ∀ c ∈ p.wireName.toList, c ∉ tagMarks) := by
  intro rest code
  obtain ⟨content, after', hcontent, htext, hcases⟩ := exists_content p rest.toList
  have hcode :
    code = beforeTag p ++ '\x60' :: ("json:\x22".toList ++ content ++ '\x60' :: after') := by
    rw [← htext, ← String.toList_append]
  have hall : '\x60' ∉ "json:\x22".toList ++ content := by
    rw [List.mem_append, not_or]
    exact ⟨by decide, hcontent⟩
  have hraw : (∃ tag, rawString? code = some (tag, rest.toList)) ↔ after' = rest.toList := by
    rw [hcode, rawString?_eq (backquote_notMem_beforeTag p) hall]
    simp
  refine ⟨text_of_fields name before after (propertyField p), ?_, ?_⟩
  · rw [hraw]
    rcases hcases with ⟨hnot, -, hafter⟩ | ⟨later, hname, hafter⟩
    · exact iff_of_true hafter hnot
    · refine iff_of_false (fun heq => ?_) (by simp [hname])
      have hlengths := congrArg List.length (hafter.symm.trans heq)
      simp only [List.length_append, List.length_cons] at hlengths
      omega
  · rw [hcode, fieldJsonName?_eq (backquote_notMem_beforeTag p) hcontent, notMem_tagMarks_iff]
    rcases hcases with ⟨hnot, rfl, -⟩ | ⟨later, hname, -⟩
    · have hhyphen : p.wireName.toList ≠ ['-'] ↔ p.wireName ≠ "-" := by
        rw [show ['-'] = "-".toList from rfl, ne_eq, String.toList_inj]
      rw [literalJsonName?_iff, hhyphen, and_iff_right hnot]
    · rw [hname]
      refine iff_of_false (literalJsonName?_ne content later) ?_
      simp

/-- The document with a quote in a name is drafted with the name as it is. -/
theorem draft_quoted :
    (modelled? "models.go" (keyedDocument "say\x22hi")).any (draftsKeyed · "say\x22hi"
    [⟨"UserID", "string", some (jsonTag "user_id")⟩,
      ⟨"SayHi", "string", some (jsonTag "say\x22hi")⟩]) = true := by
  delta modelled? generateModels generateModel
  simp only [isObjectType, generateStruct, lineage_eq_upTo]
  decide +kernel

/-- A quote in the name of a property ends the name for JSON texts. -/
theorem not_fieldJsonName?_propertyField_quoted :
    ∃ api d', buildModel (keyedDocument "say\x22hi") = .ok api ∧
      (generateModels "models.go" api).run ⟨(Package.empty.reserve []).1.withFile "models.go", []⟩ =
        .ok () d' ∧
      ∃ t ∈ api.types, ∃ p ∈ t.properties, p.wireName = "say\x22hi" ∧
        ∃ first, d'.package.struct? "models.go" "User" = some ⟨"User", [first, propertyField p]⟩ ∧
          (Struct.mk "User" [first, propertyField p]).text =
            "type User struct \x7b\n" ++ first.text ++ "\n" ++ (propertyField p).text ++ "\n\x7d" ∧
          fieldJsonName? ((propertyField p).text ++ "\n\x7d").toList = some (utf8 "say".toList) ∧
          fieldJsonName? ((propertyField p).text ++ "\n\x7d").toList ≠
            some (utf8 p.wireName.toList) := by
  obtain ⟨⟨api, d'⟩, hx, hdrafts⟩ := (Option.any_eq_true _ _).1 draft_quoted
  obtain ⟨hapi, hrun⟩ := modelled?_eq_some hx
  simp only [draftsKeyed, Bool.and_eq_true, decide_eq_true_eq] at hdrafts
  obtain ⟨htypes, hstruct⟩ := hdrafts
  have ht : keyedType "say\x22hi" ∈ api.types := by
    rw [htypes]
    exact List.mem_cons_self
  have hfield : propertyField ⟨"say\x22hi", ⟨"string", true, none, []⟩, "say\x22hi"⟩ =
      ⟨"SayHi", "string", some (jsonTag "say\x22hi")⟩ := by decide +kernel
  refine ⟨api, d', hapi, hrun, _, ht, ⟨"say\x22hi", ⟨"string", true, none, []⟩, "say\x22hi"⟩, by
    simp [keyedType], rfl, ⟨"UserID", "string", some (jsonTag "user_id")⟩, ?_⟩
  rw [hfield]
  refine ⟨hstruct, ?_, ?_, ?_⟩
  · decide +kernel
  · decide +kernel
  · decide +kernel

end RamlClient.Client
