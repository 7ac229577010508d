import RamlClient.Go.Literal
import RamlClient.Yaml.Cursor
/-!
# Format strings

A string literal is read back as the text that it was written for. A text with verbs is a format
string: a verb is a percent sign and a letter and takes the next argument, and two percent signs
stand for one.
-/

namespace RamlClient.Go

/-! ### String literals -/

/-- The character that a letter stands for after a backslash. -/
def escapedChar? (letter : Char) : Option Char :=
  ([('a', '\x07'), ('b', '\x08'), ('f', '\x0c'), ('n', '\n'), ('r', '\r'), ('t', '\t'),
    ('v', '\x0b'), ('\\', '\\'), (Text.doubleQuote, Text.doubleQuote)].find? (·.1 == letter)).map
      (·.2)

/-- The text of a string literal from behind its opening quote, and what follows its closing
quote. -/
def readQuoted : List Char → Option (List Char × List Char)
  | [] => none
  | c :: r =>
    if c = Text.doubleQuote then some ([], r)
    else if c = '\\' then
      match r with
      | 'u' :: a :: b :: c :: d :: r =>
        (Yaml.hexNumber? [a, b, c, d]).bind fun n =>
          (readQuoted r).map fun x => (Char.ofNat n :: x.1, x.2)
      | e :: r => (escapedChar? e).bind fun c => (readQuoted r).map fun x => (c :: x.1, x.2)
      | [] => none
    else if c = '\n' then none
    else (readQuoted r).map fun x => (c :: x.1, x.2)

/-- The text of a string literal, and what follows it. -/
def readLiteral : List Char → Option (List Char × List Char)
  | [] => none
  | c :: r => if c = Text.doubleQuote then readQuoted r else none

/-- A quote ends the text. -/
@[simp] theorem readQuoted_quote (rest : List Char) :
    readQuoted (Text.doubleQuote :: rest) = some ([], rest) := by
  rw [readQuoted.eq_def]
  exact if_pos rfl

/-- A character that is no quote and begins no escape stands for itself. -/
theorem readQuoted_plain {c : Char} (hquote : c ≠ Text.doubleQuote) (hslash : c ≠ '\\')
    (hline : c ≠ '\n') (rest : List Char) :
    readQuoted (c :: rest) = (readQuoted rest).map fun x => (c :: x.1, x.2) := by
  rw [readQuoted.eq_def]
  simp only [if_neg hquote, if_neg hslash, if_neg hline]

/-- An escape with four digits stands for the character of their number. -/
theorem readQuoted_hex (a b c d : Char) (rest : List Char) :
    readQuoted ('\\' :: 'u' :: a :: b :: c :: d :: rest) =
      (Yaml.hexNumber? [a, b, c, d]).bind fun n =>
        (readQuoted rest).map fun x => (Char.ofNat n :: x.1, x.2) := by
  rw [readQuoted.eq_def]
  rfl

/-- An escape with a letter stands for the character of the letter. -/
theorem readQuoted_escape {e : Char} (he : e ≠ 'u') (rest : List Char) :
    readQuoted ('\\' :: e :: rest) =
      (escapedChar? e).bind fun c => (readQuoted rest).map fun x => (c :: x.1, x.2) := by
  rw [readQuoted.eq_def]
  simp only [if_neg (show '\\' ≠ Text.doubleQuote by decide), if_true]
  split
  · rename_i heq
    exact absurd (List.cons.inj heq).1 he
  · rename_i heq
    obtain ⟨rfl, rfl⟩ := List.cons.inj heq
    rfl
  · rename_i heq
    cases heq

/-- Padded digits are read back as their number. -/
theorem hexNumber?_hexPadded {n : Nat} (h : n < 32) : ∃ a b c d,
    Text.hexPadded 4 n = [a, b, c, d] ∧ Yaml.hexNumber? [a, b, c, d] = some n := by
  have hall : ∀ n < 32, Text.hexPadded 4 n = ['0', '0', (Text.hexPadded 2 n).headD '0',
      (Text.hexPadded 1 n).getLastD '0'] ∧
      Yaml.hexNumber? ['0', '0', (Text.hexPadded 2 n).headD '0',
        (Text.hexPadded 1 n).getLastD '0'] = some n := by decide +kernel
  exact ⟨_, _, _, _, hall n h⟩

/-- A written character is read back. -/
theorem readQuoted_literalChar (c : Char) (rest : List Char) :
    readQuoted (literalChar c ++ rest) = (readQuoted rest).map fun x => (c :: x.1, x.2) := by
  have hescape {e : Char} (he : e ≠ 'u') (hc : escapedChar? e = some c) :
      readQuoted (['\\', e] ++ rest) = (readQuoted rest).map fun x => (c :: x.1, x.2) := by
    rw [List.cons_append, List.singleton_append, readQuoted_escape he, hc, Option.bind_some]
  unfold literalChar
  iterate 7
    split
    · rename_i h
      exact hescape (by decide) (by rw [h]; rfl)
  rename_i hquote hslash hline _ _ _ _
  split
  · rename_i hcontrol
    obtain ⟨x, y, z, w, hdigits, hnumber⟩ := hexNumber?_hexPadded hcontrol
    rw [hdigits, List.cons_append, List.cons_append]
    exact (readQuoted_hex x y z w rest).trans (by rw [hnumber, Option.bind_some, Char.ofNat_toNat])
  · exact readQuoted_plain hquote hslash hline rest

/-- A string literal is read back as its text. -/
theorem readLiteral_literalChars (cs rest : List Char) :
    readLiteral (literalChars cs ++ rest) = some (cs, rest) := by
  have hcontent : readQuoted (cs.flatMap literalChar ++ (Text.doubleQuote :: rest)) =
    some (cs, rest) := by
    induction cs with
    | nil => exact readQuoted_quote rest
    | cons c r ih => rw [List.flatMap_cons, List.append_assoc, readQuoted_literalChar, ih,
        Option.map_some]
  rw [literalChars, List.cons_append, List.append_assoc, List.singleton_append, readLiteral,
    if_pos rfl, hcontent]

/-! ### Verbs -/

/-- A piece of a format string. -/
inductive FormatPiece where
  /-- A character that stands for itself. -/
  | char (c : Char)
  /-- A verb with its letter. -/
  | verb (letter : Char)
deriving DecidableEq

/-- The letters of the verbs. -/
def verbLetters : List Char := ['d', 't', 's', 'v']

/-- The pieces of a format string. -/
def readFormat : List Char → Option (List FormatPiece)
  | [] => some []
  | c :: r =>
    if c = '%' then
      match r with
      | [] => none
      | v :: r =>
        if v = '%' then (readFormat r).map (.char '%' :: ·)
        else if v ∈ verbLetters then (readFormat r).map (.verb v :: ·)
        else none
    else (readFormat r).map (.char c :: ·)

/-- A character that is no percent sign stands for itself. -/
theorem readFormat_char {c : Char} (hc : c ≠ '%') (rest : List Char) :
    readFormat (c :: rest) = (readFormat rest).map (.char c :: ·) := by
  rw [readFormat.eq_def]
  simp only [if_neg hc]

/-- The letter of the verb that a piece is. -/
def FormatPiece.letter? : FormatPiece → Option Char
  | .verb letter => some letter
  | .char _ => none

/-- The text of a format string with a value in the place of each verb; there must be as many values
as verbs. -/
def fill : List FormatPiece → List (List Char) → Option (List Char)
  | [], [] => some []
  | [], _ :: _ => none
  | .char c :: pieces, values => (fill pieces values).map (c :: ·)
  | .verb _ :: pieces, value :: values => (fill pieces values).map (value ++ ·)
  | .verb _ :: _, [] => none

/-- A character with percent signs doubled. -/
def doubledChar (c : Char) : List Char := if c = '%' then ['%', '%'] else [c]

/-- A piece as it is written. -/
def FormatPiece.written : FormatPiece → List Char
  | .char c => doubledChar c
  | .verb letter => ['%', letter]

/-- A format string is read as the pieces that it is written from. -/
theorem readFormat_written {pieces : List FormatPiece}
    (h : ∀ letter, .verb letter ∈ pieces → letter ∈ verbLetters) :
    readFormat (pieces.flatMap FormatPiece.written) = some pieces := by
  induction pieces with
  | nil => rfl
  | cons piece rest ih =>
    have ih := ih fun letter hletter => h letter (List.mem_cons_of_mem piece hletter)
    cases piece with
    | char c =>
      by_cases hc : c = '%'
      · subst hc
        simp [FormatPiece.written, doubledChar, readFormat, ih]
      · simp [FormatPiece.written, doubledChar, readFormat_char hc, hc, ih]
    | verb letter =>
      have hletter := h letter List.mem_cons_self
      have hpercent : letter ≠ '%' := by
        rintro rfl
        exact absurd hletter (by decide)
      simp [FormatPiece.written, readFormat, hpercent, hletter, ih]

example : readFormat "%d/100%%".toList =
    some (.verb 'd' :: "/100%".toList.map FormatPiece.char) := by decide +kernel

end RamlClient.Go
