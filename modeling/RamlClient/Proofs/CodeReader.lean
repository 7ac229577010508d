import RamlClient.Go.Literal
import RamlClient.Proofs.Identifiers
import RamlClient.Text.Line
/-!
# Reading code

A reader of Go code tells the identifiers that a text uses by themselves: not those behind a dot,
not the names of fields before a colon, no keywords, and nothing in string literals. What it finds
in a text does not depend on what follows, so texts of code are read one after another.
-/

namespace RamlClient.Go

/-! ### Reading code -/

/-- Where a reader of code stands. -/
inductive ReaderState where
  /-- Outside of words and string literals; `selector` tells that a dot came last. -/
  | code (selector : Bool)
  /-- In a word, with the characters of it that have been read. -/
  | word (selector : Bool) (chars : List Char)
  /-- In a string literal. -/
  | quoted
  /-- In a string literal, behind a backslash. -/
  | escaped
deriving DecidableEq

/-- Whether a character belongs to words. -/
def isWordChar (c : Char) : Bool := c.isAlphanum || c == '_'

/-- Whether a word names something: it is no number, no keyword and not blank. -/
def isIdentifier (w : List Char) : Bool :=
  match w with
  | [] => false
  | c :: _ => !c.isDigit && w != ['_'] && keywords.all fun k => k.1 != String.ofList w

/-- What a reader finds where a word ends before a character. -/
def endWord (selector : Bool) (w : List Char) (next : Char) : List String :=
  if !selector && next != ':' && isIdentifier w then [String.ofList w] else []

/-- Where a reader stands after a character that belongs to no word. -/
def afterMark (c : Char) : ReaderState := if c = Text.doubleQuote then .quoted else .code (c == '.')

/-- A step of a reader over a character, with the identifier that ends before it. -/
def readerStep : ReaderState → Char → List String × ReaderState
  | .code selector, c => ([], if isWordChar c then .word selector [c] else afterMark c)
  | .word selector w, c =>
    if isWordChar c then ([], .word selector (w ++ [c])) else (endWord selector w c, afterMark c)
  | .quoted, c =>
    ([], if c = '\\' then .escaped else if c = Text.doubleQuote then .code false else .quoted)
  | .escaped, _ => ([], .quoted)

/-- The identifiers that end in a text, and where a reader stands behind it. -/
def readCode : ReaderState → List Char → List String × ReaderState
  | s, [] => ([], s)
  | s, c :: r =>
    ((readerStep s c).1 ++ (readCode (readerStep s c).2 r).1, (readCode (readerStep s c).2 r).2)

/-- The identifiers that a text of code uses by themselves. -/
def identifiers (code : String) : List String := (readCode (.code false) (code.toList ++ ['\n'])).1

example : identifiers "if err := c.do(&T\x7bname: \x22a b\x22\x7d); err != nil" =
    ["err", "c", "T", "err", "nil"] := by decide +kernel

/-- Texts in a row are read one after the other. -/
theorem readCode_append (s : ReaderState) (as bs : List Char) :
    readCode s (as ++ bs) =
      ((readCode s as).1 ++ (readCode (readCode s as).2 bs).1,
        (readCode (readCode s as).2 bs).2) := by
  induction as generalizing s with
  | nil => rfl
  | cons c r ih => rw [List.cons_append, readCode, ih, readCode, List.append_assoc]

/-! ### Words -/

/-- The characters of a word are kept while it is read. -/
theorem readCode_word {selector : Bool} {w cs : List Char} (h : ∀ c ∈ cs, isWordChar c = true) :
    readCode (.word selector w) cs = ([], .word selector (w ++ cs)) := by
  induction cs generalizing w with
  | nil => rw [readCode, List.append_nil]
  | cons c r ih =>
    obtain ⟨hc, hr⟩ := List.forall_mem_cons.1 h
    rw [readCode, readerStep, if_pos hc, ih hr]
    simp

/-- A word before a mark: it is found if it names something and does not stand behind a dot. -/
theorem readCode_word_mark {selector : Bool} {cs : List Char} (h : ∀ c ∈ cs, isWordChar c = true)
    {mark : Char} (hmark : isWordChar mark = false) :
    readCode (.code selector) (cs ++ [mark]) = (endWord selector cs mark, afterMark mark) := by
  cases cs with
  | nil => simp [readCode, readerStep, hmark, endWord, isIdentifier]
  | cons c r =>
    obtain ⟨hc, hr⟩ := List.forall_mem_cons.1 h
    rw [List.cons_append, readCode, readerStep, if_pos hc, readCode_append, readCode_word hr]
    simp [readCode, readerStep, hmark]

/-- A word before a mark is found without what follows. -/
theorem readCode_word_cons {selector : Bool} {cs : List Char} (h : ∀ c ∈ cs, isWordChar c = true)
    {mark : Char} (hmark : isWordChar mark = false) (rest : List Char) :
    readCode (.code selector) (cs ++ mark :: rest) =
      (endWord selector cs mark ++ (readCode (.code false) (mark :: rest)).1,
        (readCode (.code false) (mark :: rest)).2) := by
  have hnext : readerStep (.code false) mark = ([], afterMark mark) := by simp [readerStep, hmark]
  rw [List.append_cons, readCode_append, readCode_word_mark h hmark, readCode, hnext]
  rfl

/-- Letters and digits belong to words. -/
theorem isWordChar_of_alphanumeric {cs : List Char} (h : Alphanumeric cs) :
    ∀ c ∈ cs, isWordChar c = true := fun c hc => by simp [isWordChar, h c hc]

/-- What is found names something. -/
theorem isIdentifier_of_mem_readCode {s : ReaderState} {cs : List Char} {n : String}
    (h : n ∈ (readCode s cs).1) : isIdentifier n.toList = true := by
  induction cs generalizing s with
  | nil => cases h
  | cons c r ih =>
    rcases List.mem_append.1 h with h | h
    · cases s with
      | word selector w =>
        rw [readerStep] at h
        split at h
        · cases h
        · unfold endWord at h
          split at h
          · rename_i hcond
            simp only [Bool.and_eq_true] at hcond
            rw [List.mem_singleton.1 h, String.toList_ofList]
            exact hcond.2
          · cases h
      | code selector => cases h
      | quoted => cases h
      | escaped => cases h
    · exact ih h

/-! ### String literals -/

/-- In a literal, the text for a character is passed over. -/
theorem readCode_literalChar (c : Char) : readCode .quoted (literalChar c) = ([], .quoted) := by
  unfold literalChar
  iterate 7
    split
    · rfl
  rename_i hquote hslash _ _ _ _ _
  split
  · have hall : ∀ n < 32, readCode .quoted ('\\' :: 'u' :: Text.hexPadded 4 n) = ([], .quoted) := by
      decide +kernel
    exact hall _ ‹_›
  · simp [readCode, readerStep, hquote, hslash]

/-- A string literal has no identifiers. -/
theorem readCode_literal (selector : Bool) (cs : List Char) :
    readCode (.code selector) (literalChars cs) = ([], .code false) := by
  have hcontent : readCode .quoted (cs.flatMap literalChar) = ([], .quoted) := by
    induction cs with
    | nil => rfl
    | cons c r ih => rw [List.flatMap_cons, readCode_append, readCode_literalChar, ih]; rfl
  have hopen : readerStep (.code selector) Text.doubleQuote = ([], .quoted) := by
    cases selector <;> decide
  rw [literalChars, readCode, readCode_append, hopen, hcontent]
  rfl

/-! ### Indented lines -/

/-- Where a reader may stand at the start of a line. -/
def AtLineStart (s : ReaderState) : Prop := s = .code false ∨ s = .quoted

/-- A tab at the start of a line is passed over. -/
theorem readCode_tab {s : ReaderState} (h : AtLineStart s) (cs : List Char) :
    readCode s ('\t' :: cs) = readCode s cs := by
  obtain rfl | rfl := h <;> rfl

/-- The codes of line ends. -/
theorem toNat_mem_of_isLineEnd {c : Char} (h : Text.isLineEnd c = true) :
    c.toNat ∈ [10, 11, 12, 13, 28, 29, 30, 133, 8232, 8233] := by
  simp [Text.isLineEnd, Text.CodeRanges.contains] at h
  simp
  omega

/-- Behind a line end a line starts. -/
theorem atLineStart_of_isLineEnd (s : ReaderState) {c : Char} (h : Text.isLineEnd c = true) :
    AtLineStart (readerStep s c).2 := by
  have hmark : isWordChar c = false ∧ c ≠ Text.doubleQuote ∧ c ≠ '.' ∧ c ≠ '\\' := by
    have hall : ∀ n ∈ [10, 11, 12, 13, 28, 29, 30, 133, 8232, 8233],
      isWordChar (Char.ofNat n) = false ∧
        Char.ofNat n ≠ Text.doubleQuote ∧ Char.ofNat n ≠ '.' ∧ Char.ofNat n ≠ '\\' := by
      decide +kernel
    simpa only [Char.ofNat_toNat] using hall _ (toNat_mem_of_isLineEnd h)
  obtain ⟨hword, hquote, hdot, hslash⟩ := hmark
  have hafter : afterMark c = .code false := by simp [afterMark, hquote, hdot]
  cases s with
  | code selector =>
    left
    simp [readerStep, hword, hafter]
  | word selector w =>
    left
    simp [readerStep, hword, hafter]
  | quoted =>
    right
    simp [readerStep, hslash, hquote]
  | escaped => exact .inr rfl

/-- A line with a tab before it unless it is blank. -/
def indentLine (line : List Char) : List Char :=
  if line.all Text.isBlank then line else '\t' :: line

/-- An indented line is read as the line itself. -/
theorem readCode_indentLine {s : ReaderState} (h : AtLineStart s) (line rest : List Char) :
    readCode s (indentLine line ++ rest) = readCode s (line ++ rest) := by
  unfold indentLine
  split
  · rfl
  · exact readCode_tab h _

/-- Lines are indented behind line ends, where a tab makes no difference. -/
theorem readCode_lines (s : ReaderState) (cs : List Char) :
    readCode s ((Text.lines cs).headD [] ++ (Text.lines cs).tail.flatMap indentLine) =
      readCode s cs := by
  induction cs generalizing s with
  | nil => rfl
  | cons c r ih =>
    rw [Text.lines]
    split
    · rename_i hline
      simp only [Bool.and_eq_true] at hline
      have hstart := atLineStart_of_isLineEnd s hline.1
      rw [List.headD_cons, List.tail_cons, List.singleton_append, readCode, readCode, ← ih]
      cases Text.lines r with
      | nil => rfl
      | cons line rest => rw [List.flatMap_cons, readCode_indentLine hstart, List.headD_cons,
          List.tail_cons]
    · split
      · rename_i hnil
        rw [List.headD_cons, List.tail_cons, List.flatMap_nil, List.append_nil, readCode, readCode,
          readCode, ← ih, hnil]
        rfl
      · rename_i line rest hcons
        rw [List.headD_cons, List.tail_cons, List.cons_append, readCode, readCode, ← ih, hcons,
          List.headD_cons, List.tail_cons]

/-- Indenting lines does not change what they use. -/
theorem readCode_indentLines {s : ReaderState} (h : AtLineStart s) (code : String) :
    readCode s (Text.indentLines code).toList = readCode s code.toList := by
  have hindent : (Text.indentLines code).toList = (Text.lines code.toList).flatMap indentLine := by
    rw [Text.indentLines, String.toList_ofList]
    rfl
  rw [hindent, ← readCode_lines s code.toList]
  cases Text.lines code.toList with
  | nil => rfl
  | cons line rest => rw [List.flatMap_cons, readCode_indentLine h, List.headD_cons, List.tail_cons]

end RamlClient.Go
