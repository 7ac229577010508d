import Mathlib.Data.List.Basic
import Mathlib.Logic.Function.Basic
import RamlClient.Proofs.FormatStrings
import RamlClient.Proofs.Identifiers
import RamlClient.Text.Numeral
/-!
# Interpreted string literals

An interpreted string literal is a row of elements between double quotes. An element is a character
that stands for itself or an escape: a letter, three octal digits, or two, four or eight hexadecimal
digits behind a mark that tells how many there are. The value of a literal is a row of bytes: octal
digits and two hexadecimal digits give one byte, and all else the bytes that encode a character.
Literals are written for texts such that their values are the bytes that encode the texts.
-/

namespace RamlClient.Go

/-! ### Bytes of texts -/

/-- The bytes that encode characters. -/
def utf8 (cs : List Char) : List UInt8 := cs.flatMap String.utf8EncodeChar

/-- No characters are encoded by no bytes. -/
@[simp] theorem utf8_nil : utf8 [] = [] := rfl

/-- The bytes of the first character stand before those of the rest. -/
@[simp] theorem utf8_cons (c : Char) (cs : List Char) :
    utf8 (c :: cs) = String.utf8EncodeChar c ++ utf8 cs := rfl

/-- The bytes of texts in a row are those of one after the other. -/
@[simp] theorem utf8_append (as bs : List Char) : utf8 (as ++ bs) = utf8 as ++ utf8 bs :=
  List.flatMap_append

/-- A text is kept as the bytes that encode its characters. -/
theorem toByteArray_eq_utf8 (s : String) : s.toByteArray = (utf8 s.toList).toByteArray := by
  rw [← String.utf8Encode_toList, List.utf8Encode, utf8]

/-- Texts that are encoded by the same bytes are the same. -/
theorem utf8_injective : Function.Injective utf8 := by
  intro as bs h
  have hbytes : (String.ofList as).toByteArray = (String.ofList bs).toByteArray := by
    rw [toByteArray_eq_utf8, toByteArray_eq_utf8, String.toList_ofList, String.toList_ofList, h]
  rw [← String.toList_ofList (l := as), String.toByteArray_inj.1 hbytes, String.toList_ofList]

/-! ### Elements -/

/-- An element of a string literal. -/
inductive LiteralElement where
  /-- A character that stands for itself. -/
  | plain (c : Char)
  /-- A letter or a mark behind a backslash. -/
  | letter (e : Char)
  /-- Octal digits behind a backslash. -/
  | octal (digits : List Char)
  /-- Hexadecimal digits behind a backslash and a mark. -/
  | hex (mark : Char) (digits : List Char)
deriving DecidableEq

/-- The marks of hexadecimal digits, with the number of digits that each takes. -/
def hexWidths : List (Char × Nat) := [('x', 2), ('u', 4), ('U', 8)]

/-- The number that digits write in a base up to sixteen. -/
def digitsNumber? (base : Nat) (digits : List Char) : Option Nat :=
  let values := digits.map fun c => (Yaml.hexValue? c).getD base
  if values.all (· < base) then some (Text.ofDigits base values) else none

/-- The byte of a number. -/
def byteOf? (n : Nat) : Option (List UInt8) := if n < 256 then some [UInt8.ofNat n] else none

/-- The bytes that encode the character of a code. -/
def codePoint? (n : Nat) : Option (List UInt8) :=
  if n.isValidChar then some (String.utf8EncodeChar (Char.ofNat n)) else none

namespace LiteralElement

/-- An element as it is written. -/
def text : LiteralElement → List Char
  | .plain c => [c]
  | .letter e => ['\\', e]
  | .octal digits => '\\' :: digits
  | .hex mark digits => '\\' :: mark :: digits

/-- The bytes that an element stands for, if it can stand in a string literal. -/
def value? : LiteralElement → Option (List UInt8)
  | .plain c =>
    if c = Text.doubleQuote ∨ c = '\\' ∨ c = '\n' then none else some (String.utf8EncodeChar c)
  | .letter e => (escapedChar? e).map String.utf8EncodeChar
  | .octal digits => if digits.length = 3 then (digitsNumber? 8 digits).bind byteOf? else none
  | .hex mark digits =>
    if (mark, digits.length) ∈ hexWidths then
      (digitsNumber? 16 digits).bind (if mark = 'x' then byteOf? else codePoint?)
    else none

/-- The escape that a text begins with, from behind its backslash. -/
def escapeAt (e : Char) (rest : List Char) : LiteralElement :=
  match hexWidths.find? (·.1 == e) with
  | some (mark, width) => .hex mark (rest.take width)
  | none => if '0' ≤ e ∧ e ≤ '7' then .octal (e :: rest.take 2) else .letter e

/-- The element that a text begins with. -/
def elementAt (c : Char) (rest : List Char) : LiteralElement :=
  match rest with
  | [] => .plain c
  | e :: r => if c = '\\' then escapeAt e r else .plain c

end LiteralElement

/-- The bytes that elements stand for, if all can stand in a string literal. -/
def valueOfAll? : List LiteralElement → Option (List UInt8)
  | [] => some []
  | e :: r => do
    let value ← e.value?
    let values ← valueOfAll? r
    pure (value ++ values)

/-- The elements of a string literal from behind its opening quote, and what follows its closing
quote. `skip` characters of the text belong to an element that has been read. -/
def readElements : Nat → List Char → Option (List LiteralElement × List Char)
  | _, [] => none
  | skip + 1, _ :: r => readElements skip r
  | 0, c :: r =>
    if c = Text.doubleQuote then some ([], r)
    else (readElements ((LiteralElement.elementAt c r).text.length - 1) r).map fun x =>
      (LiteralElement.elementAt c r :: x.1, x.2)

/-- The value of a string literal, and what follows it. -/
def readString : List Char → Option (List UInt8 × List Char)
  | [] => none
  | c :: r =>
    if c = Text.doubleQuote then do
      let (elements, rest) ← readElements 0 r
      let value ← valueOfAll? elements
      pure (value, rest)
    else none

/-- What follows the first quote that is not behind a backslash. -/
def afterQuote? : List Char → Option (List Char)
  | [] => none
  | c :: r =>
    if c = Text.doubleQuote then some r
    else if c = '\\' then
      match r with
      | [] => none
      | _ :: r => afterQuote? r
    else afterQuote? r

example : readString "\x22\\U0001F600\\x7e\\176\x22+q".toList =
    some ([0xf0, 0x9f, 0x98, 0x80, 0x7e, 0x7e], "+q".toList) := by decide +kernel

/-! ### Digits -/

/-- Characters that write a number are digits of its base. -/
theorem forall_mem_of_digitsNumber? {base n : Nat} {digits : List Char}
    (h : digitsNumber? base digits = some n) :
    ∀ c ∈ digits, ∃ v < base, Yaml.hexValue? c = some v := by
  rw [digitsNumber?] at h
  split at h
  · rename_i hsmall
    intro c hc
    have hvalue := List.all_eq_true.1 hsmall _ (List.mem_map_of_mem hc)
    cases hhex : Yaml.hexValue? c with
    | none => simp [hhex] at hvalue
    | some v => exact ⟨v, by simpa [hhex] using hvalue, rfl⟩
  · cases h

/-- A hexadecimal digit is a letter or a digit, and one of a value below eight is an octal digit. -/
theorem of_hexValue? {c : Char} {v : Nat} (h : Yaml.hexValue? c = some v) :
    c.isAlphanum = true ∧ (v < 8 → '0' ≤ c ∧ c ≤ '7') := by
  have hle (a b : Char) : a ≤ b ↔ a.toNat ≤ b.toNat := Iff.rfl
  simp only [Yaml.hexValue?, hle, isAlphanum_iff, Char.isDigit_iff_toNat, Char.reduceToNat,
    Bool.and_eq_true, decide_eq_true_eq] at h ⊢
  split at h
  · cases h
    omega
  split at h
  · cases h
    omega
  split at h
  · cases h
    omega
  · cases h

/-- Digits are neither quotes nor backslashes, and do not end lines. -/
theorem plain_of_digitsNumber? {base n : Nat} {digits : List Char}
    (h : digitsNumber? base digits = some n) :
    ∀ c ∈ digits, c ≠ Text.doubleQuote ∧ c ≠ '\\' ∧ c ≠ '\n' := by
  intro c hc
  obtain ⟨v, -, hv⟩ := forall_mem_of_digitsNumber? h c hc
  have hword := (of_hexValue? hv).1
  refine ⟨?_, ?_, ?_⟩
  all_goals
    rintro rfl
    exact absurd hword (by decide)

/-- The letters of escapes mark no digits and are none, and stand for characters of one byte. -/
theorem of_escapedChar? {e c : Char} (h : escapedChar? e = some c) :
    hexWidths.find? (·.1 == e) = none ∧ ¬('0' ≤ e ∧ e ≤ '7') ∧ e ≠ '\n' ∧ c.toNat < 128 := by
  obtain ⟨⟨letter, char⟩, hfound, rfl⟩ := Option.map_eq_some_iff.1 h
  have hletter : letter = e := by simpa using List.find?_some hfound
  have hmem := List.mem_of_find?_eq_some hfound
  subst hletter
  simp only [List.mem_cons, Prod.mk.injEq, List.not_mem_nil, or_false] at hmem
  rcases hmem with ⟨rfl, rfl⟩ | ⟨rfl, rfl⟩ | ⟨rfl, rfl⟩ | ⟨rfl, rfl⟩ | ⟨rfl, rfl⟩ | ⟨rfl, rfl⟩ |
    ⟨rfl, rfl⟩ | ⟨rfl, rfl⟩ | ⟨rfl, rfl⟩ <;> decide

namespace LiteralElement

variable {value : List UInt8}

/-- A character stands for itself unless it ends the literal, begins an escape or ends the line. -/
theorem value?_plain_iff {c : Char} : (plain c).value? = some value ↔
    (c ≠ Text.doubleQuote ∧ c ≠ '\\' ∧ c ≠ '\n') ∧ value = String.utf8EncodeChar c := by
  rw [value?]
  split
  · rename_i h
    refine iff_of_false nofun fun hc => ?_
    exact h.elim hc.1.1 fun h => h.elim hc.1.2.1 hc.1.2.2
  · rename_i h
    rw [not_or, not_or] at h
    exact ⟨fun hv => ⟨h, (Option.some.inj hv).symm⟩, fun hv => hv.2 ▸ rfl⟩

/-- An octal escape has three digits and stands for a byte. -/
theorem value?_octal_iff {digits : List Char} : (octal digits).value? = some value ↔
    digits.length = 3 ∧ ∃ n, digitsNumber? 8 digits = some n ∧ byteOf? n = some value := by
  rw [value?]
  split
  · rename_i hlength
    rw [Option.bind_eq_some_iff, and_iff_right hlength]
  · rename_i hlength
    exact iff_of_false nofun fun h => hlength h.1

/-- A hexadecimal escape has the digits that its mark asks for, and stands for a byte or a
character. -/
theorem value?_hex_iff {mark : Char} {digits : List Char} : (hex mark digits).value? = some value ↔
    (mark, digits.length) ∈ hexWidths ∧ ∃ n, digitsNumber? 16 digits = some n ∧
      (if mark = 'x' then byteOf? else codePoint?) n = some value := by
  rw [value?]
  split
  · rename_i hwidth
    rw [Option.bind_eq_some_iff, and_iff_right hwidth]
  · rename_i hwidth
    exact iff_of_false nofun fun h => hwidth h.1

end LiteralElement

/-! ### Reading -/

/-- The element that a text begins with is found whatever follows, if it can stand in a string
literal. -/
theorem LiteralElement.elementAt_text {e : LiteralElement} {value : List UInt8}
    (h : e.value? = some value) : ∃ c r, e.text = c :: r ∧ c ≠ Text.doubleQuote ∧
      ∀ rest, elementAt c (r ++ rest) = e := by
  have hslash : '\\' ≠ Text.doubleQuote := by decide
  cases e with
  | plain c =>
    obtain ⟨hc, -⟩ := value?_plain_iff.1 h
    refine ⟨c, [], rfl, hc.1, fun rest => ?_⟩
    cases rest <;> simp [elementAt, hc.2.1]
  | letter e =>
    obtain ⟨c, hc, -⟩ := Option.map_eq_some_iff.1 h
    obtain ⟨hmark, hoctal, -⟩ := of_escapedChar? hc
    refine ⟨'\\', [e], rfl, hslash, fun rest => ?_⟩
    simp [elementAt, escapeAt, hmark, hoctal]
  | octal digits =>
    obtain ⟨hlength, n, hn, -⟩ := value?_octal_iff.1 h
    obtain ⟨a, b, c, rfl⟩ := List.length_eq_three.1 hlength
    obtain ⟨v, hv, hhex⟩ := forall_mem_of_digitsNumber? hn a List.mem_cons_self
    have hoctal := (of_hexValue? hhex).2 hv
    have hmark : hexWidths.find? (·.1 == a) = none := by
      refine List.find?_eq_none.2 fun w hw => ?_
      have hlarge : ∀ w ∈ hexWidths, ¬(w.1 ≤ '7') := by decide
      intro heq
      exact hlarge w hw (beq_iff_eq.1 heq ▸ hoctal.2)
    refine ⟨'\\', [a, b, c], rfl, hslash, fun rest => ?_⟩
    simp [elementAt, escapeAt, hmark, hoctal]
  | hex mark digits =>
    obtain ⟨hwidth, -⟩ := value?_hex_iff.1 h
    have hmark : ∀ w ∈ hexWidths, hexWidths.find? (·.1 == w.1) = some w := by decide
    refine ⟨'\\', mark :: digits, rfl, hslash, fun rest => ?_⟩
    simp [elementAt, escapeAt, hmark _ hwidth]

/-- Characters of an element that has been read are skipped. -/
theorem readElements_skip (skipped rest : List Char) :
    readElements skipped.length (skipped ++ rest) = readElements 0 rest := by
  induction skipped with
  | nil => rfl
  | cons c r ih => exact ih

/-- A quote ends a literal. -/
@[simp] theorem readElements_quote (rest : List Char) :
    readElements 0 (Text.doubleQuote :: rest) = some ([], rest) := by
  rw [readElements, if_pos rfl]

/-- An element that can stand in a string literal is read where a text begins with it. -/
theorem readElements_text {e : LiteralElement} {value : List UInt8} (h : e.value? = some value)
    (rest : List Char) :
    readElements 0 (e.text ++ rest) = (readElements 0 rest).map fun x => (e :: x.1, x.2) := by
  obtain ⟨c, r, htext, hquote, hat⟩ := e.elementAt_text h
  have hskip : e.text.length - 1 = r.length := by rw [htext, List.length_cons, Nat.add_sub_cancel]
  rw [htext, List.cons_append, readElements, if_neg hquote, hat, hskip, readElements_skip]

/-- A row of elements is read up to the closing quote. -/
theorem readElements_flatMap {es : List LiteralElement} {value : List UInt8}
    (h : valueOfAll? es = some value) (rest : List Char) :
    readElements 0 (es.flatMap LiteralElement.text ++ Text.doubleQuote :: rest) =
      some (es, rest) := by
  induction es generalizing value with
  | nil => exact readElements_quote rest
  | cons e r ih =>
    obtain ⟨first, hfirst, h⟩ := Option.bind_eq_some_iff.1 h
    obtain ⟨others, hothers, -⟩ := Option.bind_eq_some_iff.1 h
    rw [List.flatMap_cons, List.append_assoc, readElements_text hfirst, ih hothers, Option.map_some]

/-- Elements that stand for bytes are read back from between two quotes. -/
theorem readString_flatMap {es : List LiteralElement} {value : List UInt8}
    (h : valueOfAll? es = some value) (rest : List Char) :
    readString (Text.doubleQuote :: (es.flatMap LiteralElement.text ++ Text.doubleQuote :: rest)) =
      some (value, rest) := by
  rw [readString, if_pos rfl, readElements_flatMap h]
  simp [h]

/-! ### Quotes and line ends -/

/-- A text without quotes and backslashes is passed over. -/
theorem afterQuote?_append {cs : List Char} (h : ∀ c ∈ cs, c ≠ Text.doubleQuote ∧ c ≠ '\\')
    (rest : List Char) : afterQuote? (cs ++ rest) = afterQuote? rest := by
  induction cs with
  | nil => rfl
  | cons c r ih =>
    obtain ⟨⟨hquote, hslash⟩, hr⟩ := List.forall_mem_cons.1 h
    rw [List.cons_append, afterQuote?.eq_def]
    simp only [if_neg hquote, if_neg hslash]
    exact ih hr

/-- A character behind a backslash is passed over. -/
theorem afterQuote?_escape (e : Char) (rest : List Char) :
    afterQuote? ('\\' :: e :: rest) = afterQuote? rest := by
  rw [afterQuote?.eq_def]
  simp only [if_neg (show '\\' ≠ Text.doubleQuote by decide), if_true]

/-- In an element that can stand in a string literal, a quote stands behind a backslash only, and no
line ends. -/
theorem LiteralElement.closed_text {e : LiteralElement} {value : List UInt8}
    (h : e.value? = some value) :
    (∀ rest, afterQuote? (e.text ++ rest) = afterQuote? rest) ∧ '\n' ∉ e.text := by
  cases e with
  | plain c =>
    obtain ⟨hc, -⟩ := value?_plain_iff.1 h
    refine ⟨afterQuote?_append (by simpa [text] using ⟨hc.1, hc.2.1⟩), ?_⟩
    simpa [text, eq_comm] using hc.2.2
  | letter e =>
    obtain ⟨c, hc, -⟩ := Option.map_eq_some_iff.1 h
    obtain ⟨-, -, hline, -⟩ := of_escapedChar? hc
    exact ⟨afterQuote?_escape e, by simpa [text, eq_comm] using hline⟩
  | octal digits =>
    obtain ⟨hlength, n, hn, -⟩ := value?_octal_iff.1 h
    have hplain := plain_of_digitsNumber? hn
    obtain ⟨a, b, c, rfl⟩ := List.length_eq_three.1 hlength
    refine ⟨fun rest => ?_, fun hmem => ?_⟩
    · exact (afterQuote?_escape a _).trans (afterQuote?_append
        (fun d hd =>
          ⟨(hplain d (List.mem_cons_of_mem a hd)).1, (hplain d (List.mem_cons_of_mem a hd)).2.1⟩)
        rest)
    · rcases List.mem_cons.1 hmem with heq | hmem
      · exact absurd heq (by decide)
      · exact (hplain _ hmem).2.2 rfl
  | hex mark digits =>
    obtain ⟨hwidth, n, hn, -⟩ := value?_hex_iff.1 h
    have hplain := plain_of_digitsNumber? hn
    have hmark : ∀ w ∈ hexWidths, '\n' ≠ w.1 := by decide
    refine ⟨fun rest => ?_, fun hmem => ?_⟩
    · exact (afterQuote?_escape mark _).trans (afterQuote?_append
        (fun d hd => ⟨(hplain d hd).1, (hplain d hd).2.1⟩) rest)
    · rcases List.mem_cons.1 hmem with heq | hmem
      · exact absurd heq (by decide)
      rcases List.mem_cons.1 hmem with heq | hmem
      · exact hmark _ hwidth heq
      · exact (hplain _ hmem).2.2 rfl

/-- In a row of elements, quotes stand behind backslashes only, and no line ends. -/
theorem closed_flatMap {es : List LiteralElement} {value : List UInt8}
    (h : valueOfAll? es = some value) :
    (∀ rest, afterQuote? (es.flatMap LiteralElement.text ++ rest) = afterQuote? rest) ∧
      '\n' ∉ es.flatMap LiteralElement.text := by
  induction es generalizing value with
  | nil => exact ⟨fun _ => rfl, List.not_mem_nil⟩
  | cons e r ih =>
    obtain ⟨first, hfirst, h⟩ := Option.bind_eq_some_iff.1 h
    obtain ⟨others, hothers, -⟩ := Option.bind_eq_some_iff.1 h
    obtain ⟨hquotes, hlines⟩ := ih hothers
    obtain ⟨hquote, hline⟩ := e.closed_text hfirst
    refine ⟨fun rest => ?_, ?_⟩
    · rw [List.flatMap_cons, List.append_assoc, hquote, hquotes]
    · rw [List.flatMap_cons, List.mem_append, not_or]
      exact ⟨hline, hlines⟩

/-! ### Written literals -/

/-- The element that a character is written as. -/
def writtenElement (c : Char) : LiteralElement :=
  if c = Text.doubleQuote then .letter Text.doubleQuote
  else if c = '\\' then .letter '\\'
  else if c = '\n' then .letter 'n'
  else if c = '\r' then .letter 'r'
  else if c = '\t' then .letter 't'
  else if c = '\x0c' then .letter 'f'
  else if c = '\x08' then .letter 'b'
  else if c.toNat < 32 then .hex 'u' (Text.hexPadded 4 c.toNat)
  else .plain c

/-- The element for a character is written as the character in a literal. -/
theorem text_writtenElement (c : Char) : (writtenElement c).text = literalChar c := by
  unfold writtenElement literalChar
  iterate 7
    split
    · rfl
  split <;> rfl

/-- The four digits of a control character write its code. -/
theorem value?_controlCode {n : Nat} (h : n < 32) :
    (LiteralElement.hex 'u' (Text.hexPadded 4 n)).value? =
      some (String.utf8EncodeChar (Char.ofNat n)) := by
  have hall : ∀ n < 32, (LiteralElement.hex 'u' (Text.hexPadded 4 n)).value? =
      some (String.utf8EncodeChar (Char.ofNat n)) := by decide +kernel
  exact hall n h

/-- A character is written as an element with its bytes. -/
theorem value?_writtenElement (c : Char) :
    (writtenElement c).value? = some (String.utf8EncodeChar c) := by
  unfold writtenElement
  iterate 7
    split
    · rename_i h
      rw [h]
      rfl
  rename_i hquote hslash hline _ _ _ _
  split
  · rename_i hcontrol
    rw [value?_controlCode hcontrol, Char.ofNat_toNat]
  · rw [LiteralElement.value?, if_neg (by simp [hquote, hslash, hline])]

/-- The elements for characters stand for the bytes that encode them. -/
theorem valueOfAll?_writtenElement (cs : List Char) :
    valueOfAll? (cs.map writtenElement) = some (utf8 cs) := by
  induction cs with
  | nil => rfl
  | cons c r ih => simp [valueOfAll?, value?_writtenElement, ih]

/-- The elements for characters are written as the characters in a literal. -/
theorem flatMap_writtenElement (cs : List Char) :
    (cs.map writtenElement).flatMap LiteralElement.text = cs.flatMap literalChar := by
  rw [List.flatMap_map]
  simp only [text_writtenElement]

/-- A literal is a quote, the elements for its characters and a quote. -/
theorem literalChars_eq (cs : List Char) : literalChars cs =
    Text.doubleQuote :: ((cs.map writtenElement).flatMap LiteralElement.text ++
      [Text.doubleQuote]) := by
  rw [flatMap_writtenElement, literalChars]

/-- A string literal has the bytes of its text as its value. -/
theorem readString_literalChars (cs rest : List Char) :
    readString (literalChars cs ++ rest) = some (utf8 cs, rest) := by
  rw [literalChars_eq, List.cons_append, List.append_assoc, List.singleton_append]
  exact readString_flatMap (valueOfAll?_writtenElement cs) rest

/-- The literal of any text is one interpreted string literal: it is a row of elements between
double quotes, without a line end in between and without a quote that is not behind a backslash. All
elements can stand in a string literal, the reader finds just these up to the end, and together they
stand for the bytes that encode the text. So texts with the same literal are the same. -/
theorem literal_denotes :
    (∀ s : String, ∃ elements : List LiteralElement,
      (literal s).toList =
        Text.doubleQuote :: (elements.flatMap LiteralElement.text ++ [Text.doubleQuote]) ∧
      '\n' ∉ elements.flatMap LiteralElement.text ∧
      afterQuote? (elements.flatMap LiteralElement.text) = none ∧
      readElements 0 (literal s).toList.tail = some (elements, []) ∧
      valueOfAll? elements = some (utf8 s.toList) ∧
      readString (literal s).toList = some (utf8 s.toList, [])) ∧
    Function.Injective literal := by
  have hchars (s : String) : (literal s).toList = literalChars s.toList := String.toList_ofList
  have hread (s : String) : readString (literal s).toList = some (utf8 s.toList, []) := by
    rw [hchars, ← List.append_nil (literalChars s.toList), readString_literalChars]
  constructor
  · intro s
    have hvalue := valueOfAll?_writtenElement s.toList
    obtain ⟨hquotes, hlines⟩ := closed_flatMap hvalue
    refine ⟨s.toList.map writtenElement, ?_, hlines, ?_, ?_, hvalue, hread s⟩
    · rw [hchars, literalChars_eq]
    · rw [← List.append_nil (List.flatMap _ _), hquotes]
      rfl
    · rw [hchars, literalChars_eq, List.tail_cons]
      exact readElements_flatMap hvalue []
  · intro s t h
    have hsame := hread s
    rw [h, hread t, Option.some.injEq, Prod.mk.injEq] at hsame
    exact String.toList_inj.1 (utf8_injective hsame.1).symm

end RamlClient.Go
