/-!
# Cutting texts apart and putting them together

Splitting at a character, finding and replacing a piece of text, and joining. All functions work
on lists of characters.
-/

namespace RamlClient.Text

/-- The pieces of a text between the characters of a class; a text without them is one piece. -/
def splitWhere (p : Char → Bool) : List Char → List (List Char)
  | [] => [[]]
  | c :: r =>
    if p c then [] :: splitWhere p r
    else match splitWhere p r with
      | [] => [[c]]
      | piece :: pieces => (c :: piece) :: pieces

/-- The pieces of a text between the occurrences of a character. -/
def splitAtChar (sep : Char) (cs : List Char) : List (List Char) := splitWhere (· == sep) cs

/-- A text has at least one piece. -/
theorem splitWhere_ne_nil (p : Char → Bool) (cs : List Char) : splitWhere p cs ≠ [] := by
  cases cs with
  | nil => simp [splitWhere]
  | cons c r =>
    rw [splitWhere]
    split
    · simp
    · split <;> simp

/-- A text is split at a separator in it. -/
theorem splitWhere_append {p : Char → Bool} {c : Char} (hc : p c = true) (as bs : List Char) :
    splitWhere p (as ++ c :: bs) = splitWhere p as ++ splitWhere p bs := by
  induction as with
  | nil => simp [splitWhere, hc]
  | cons a as ih =>
    rw [List.cons_append, splitWhere, splitWhere, ih]
    split
    · rfl
    · cases has : splitWhere p as with
      | nil => exact absurd has (splitWhere_ne_nil p as)
      | cons piece pieces => rfl

/-- A text without separators is its only piece. -/
theorem splitWhere_of_forall {p : Char → Bool} {cs : List Char} (h : ∀ c ∈ cs, p c = false) :
    splitWhere p cs = [cs] := by
  induction cs with
  | nil => rfl
  | cons c r ih =>
    rw [splitWhere, ih fun d hd => h d (List.mem_cons_of_mem c hd), h c List.mem_cons_self]
    rfl

/-- A text without the character is its only piece. -/
theorem splitAtChar_of_notMem {c : Char} {cs : List Char} (h : c ∉ cs) : splitAtChar c cs = [cs] :=
  splitWhere_of_forall fun d hd => by
    rw [beq_eq_false_iff_ne]
    rintro rfl
    exact h hd

/-- The text before the first occurrence of a character, and the text after it if there is one. -/
def cutAtChar (sep : Char) : List Char → List Char × Option (List Char)
  | [] => ([], none)
  | c :: r =>
    if c = sep then ([], some r)
    else
      let rest := cutAtChar sep r
      (c :: rest.1, rest.2)

/-- A text is cut at the first occurrence. -/
theorem cutAtChar_append {sep : Char} {as : List Char} (h : sep ∉ as) (rest : List Char) :
    cutAtChar sep (as ++ sep :: rest) = (as, some rest) := by
  induction as with
  | nil => rw [List.nil_append, cutAtChar, if_pos rfl]
  | cons c r ih =>
    obtain ⟨hc, hr⟩ := List.ne_and_not_mem_of_not_mem_cons h
    rw [List.cons_append, cutAtChar, if_neg hc.symm, ih hr]

/-- The text after the last occurrence of a character, or the whole text. -/
def afterLastChar (sep : Char) (cs : List Char) : List Char :=
  (cs.reverse.takeWhile (· != sep)).reverse

/-- Replaces, from left to right, each occurrence of `old` whose following text passes a test;
`skip` characters of the text belong to an occurrence that has been replaced. -/
def replaceWhenFrom (old new : List Char) (follow : List Char → Bool) : Nat → List Char → List Char
  | _, [] => []
  | skip + 1, _ :: r => replaceWhenFrom old new follow skip r
  | 0, c :: r =>
    if old.isPrefixOf (c :: r) && follow ((c :: r).drop old.length) then
      new ++ replaceWhenFrom old new follow (old.length - 1) r
    else c :: replaceWhenFrom old new follow 0 r

/-- Replaces, from left to right, each occurrence of a non-empty text whose following text passes a
test. -/
def replaceWhen (old new : List Char) (follow : List Char → Bool) (cs : List Char) : List Char :=
  replaceWhenFrom old new follow 0 cs

/-- Replaces each occurrence of a non-empty text. -/
def replaceAll (old new text : String) : String :=
  String.ofList (replaceWhen old.toList new.toList (fun _ => true) text.toList)

/-- The texts one after another with a separator between them. -/
def join (sep : String) : List String → String
  | [] => ""
  | [s] => s
  | s :: t :: r => s ++ sep ++ join sep (t :: r)

/-- The texts one after another. -/
def concat (parts : List String) : String := join "" parts

/-- The text in ASCII lower case. -/
def lower (s : String) : String := String.ofList (s.toList.map Char.toLower)

/-- The text in ASCII upper case. -/
def upper (s : String) : String := String.ofList (s.toList.map Char.toUpper)

/-- Whether a text begins with another. -/
def startsWith (s start : String) : Bool := start.toList.isPrefixOf s.toList

/-- Whether a text ends with another. -/
def endsWith (s ending : String) : Bool := ending.toList.isSuffixOf s.toList

end RamlClient.Text
