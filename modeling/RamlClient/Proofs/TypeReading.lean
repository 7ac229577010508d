import RamlClient.Api.TypeExpression
/-!
# Reading type expressions

The texts that are read inside a type expression are shorter than it. So the length of an expression
is depth enough to read it, and its type is found from the types of the texts inside it, whatever
the form of the expression is.
-/

namespace RamlClient.Api.TypeExpression

/-! ### The lengths of the texts inside a text -/

/-- Characters at the end of a text are dropped from it. -/
theorem length_dropRightWhile_le (p : Char → Bool) (cs : List Char) :
    (Text.dropRightWhile p cs).length ≤ cs.length := by
  have h := (List.dropWhile_sublist p (l := cs.reverse)).length_le
  simpa [Text.dropRightWhile] using h

/-- A text gets no longer without the white space around it. -/
theorem length_trimChars_le (cs : List Char) : (Text.trimChars cs).length ≤ cs.length :=
  Nat.le_trans (length_dropRightWhile_le _ _) (List.dropWhile_sublist _).length_le

/-- The pieces of a text and the bars between them are the whole text. -/
theorem length_pieces (depth : Int) (cs : List Char) :
    (pieces depth cs).flatten.length + (pieces depth cs).length = cs.length + 1 := by
  induction cs generalizing depth with
  | nil => rfl
  | cons c r ih =>
    rw [pieces]
    split
    · have h := ih 0
      simp only [List.flatten_cons, List.nil_append, List.length_cons]
      omega
    · have h := ih (depthAfter depth c)
      split <;> rename_i hpieces <;>
        simp only [hpieces, List.flatten_cons, List.flatten_nil, List.length_append,
          List.length_cons, List.length_nil] at h ⊢ <;> omega

/-- An alternative besides others is shorter than the text. -/
theorem length_lt_of_mem_alternatives {cs m : List Char} (hm : m ∈ alternatives cs)
    (hmany : 1 < (alternatives cs).length) : m.length < cs.length := by
  obtain ⟨piece, hpiece, rfl⟩ := List.mem_map.1 (List.mem_filter.1 hm).1
  have hcount : (alternatives cs).length ≤ (pieces 0 cs).length := by
    simpa [alternatives] using List.length_filter_le (fun m => !m.isEmpty)
      ((pieces 0 cs).map Text.trimChars)
  have hwithin : piece.length ≤ (pieces 0 cs).flatten.length :=
    (List.sublist_flatten_of_mem hpiece).length_le
  have htotal := length_pieces 0 cs
  have htrim := length_trimChars_le piece
  omega

/-! ### Reading a text once -/

/-- The alternatives of a text besides `nil`. -/
def keptAlternatives (text : List Char) : List (List Char) :=
  (alternatives text).filter (· != nilName)

/-- A row that is neither empty nor a single element has at least two. -/
theorem one_lt_length {α : Type} {as : List α} (hnil : as ≠ []) (hsingle : ∀ a, as ≠ [a]) :
    1 < as.length := by
  cases as with
  | nil => exact absurd rfl hnil
  | cons a rest =>
    cases rest with
    | nil => exact absurd rfl (hsingle a)
    | cons b rest => simp

/-- What a text without blanks at its ends is read as, by its form. The texts inside it are read by
`read`. -/
inductive ReadOnce (read : List Char → Bool → TypeDescriptor) (text : List Char) (required : Bool) :
    TypeDescriptor → Prop where
  /-- There is no text. -/
  | blank (hnil : text = []) : ReadOnce read text required (.named "string" required)
  /-- The text is a schema. -/
  | schema (hschema : text.head? = some '\x7b' ∨ text.head? = some '<') :
    ReadOnce read text required (.named "any" required)
  /-- All alternatives are `nil`. -/
  | onlyNil (hschema : ¬ (text.head? = some '\x7b' ∨ text.head? = some '<'))
    (hmany : 1 < (alternatives text).length) (hkept : keptAlternatives text = []) :
    ReadOnce read text required (.named "nil" false)
  /-- One alternative is left when `nil` is dropped. -/
  | optional {m : List Char} (hschema : ¬ (text.head? = some '\x7b' ∨ text.head? = some '<'))
    (hmany : 1 < (alternatives text).length) (hkept : keptAlternatives text = [m]) :
    ReadOnce read text required (read m false)
  /-- Several alternatives are left. -/
  | union (hmany : 1 < (alternatives text).length) (hkept : 1 < (keptAlternatives text).length) :
    ReadOnce read text required (.unionOf ((keptAlternatives text).map String.ofList) required)
  /-- Brackets stand behind the text of the elements. -/
  | array (hone : ¬ 1 < (alternatives text).length) (hbrackets : [']', '['] <+: text.reverse) :
    ReadOnce read text required (.arrayOf (read text.dropLast.dropLast true) required)
  /-- Parentheses stand around the text. -/
  | group (hone : ¬ 1 < (alternatives text).length)
    (hgroup : text.head? = some '(' ∧ text.getLast? = some ')') :
    ReadOnce read text required (read text.tail.dropLast required)
  /-- The text is a name. -/
  | name (hone : ¬ 1 < (alternatives text).length)
    (hgroup : ¬ (text.head? = some '(' ∧ text.getLast? = some ')')) :
    ReadOnce read text required (.named (String.ofList text) required)

/-- A text is read by its form, without the white space around it. -/
theorem readOnce_descriptorBy (read : List Char → Bool → TypeDescriptor) (cs : List Char)
    (required : Bool) :
    ReadOnce read (Text.trimChars cs) required (descriptorBy read cs required) := by
  unfold descriptorBy
  dsimp only
  split
  · rename_i hnil
    exact .blank hnil
  split
  · rename_i hschema
    exact .schema hschema
  rename_i hschema
  split
  · rename_i hmany
    split
    · rename_i hkept
      exact .onlyNil hschema hmany hkept
    · rename_i m hkept
      exact .optional hschema hmany hkept
    · rename_i members hnone hone
      exact .union hmany (one_lt_length hnone hone)
  rename_i hone
  split
  · rename_i hbrackets
    exact .array hone (List.isPrefixOf_iff_prefix.1 hbrackets)
  split
  · rename_i hgroup
    exact .group hone hgroup
  · rename_i hgroup
    exact .name hone hgroup

/-- An alternative that alone is kept is shorter than the text. -/
theorem length_lt_of_keptAlternatives {text m : List Char} (hmany : 1 < (alternatives text).length)
    (hkept : keptAlternatives text = [m]) : m.length < text.length := by
  have hm : m ∈ keptAlternatives text := by simp [hkept]
  exact length_lt_of_mem_alternatives (List.mem_filter.1 hm).1 hmany

/-- A text that ends with brackets is longer than the text before them. -/
theorem length_dropLast_dropLast_lt {text : List Char} (hbrackets : [']', '['] <+: text.reverse) :
    text.dropLast.dropLast.length < text.length := by
  have h := hbrackets.length_le
  simp only [List.length_cons, List.length_nil, List.length_reverse, List.length_dropLast] at h ⊢
  omega

/-- A text with a first character is longer than the text between its ends. -/
theorem length_tail_dropLast_lt {text : List Char} {c : Char} (h : text.head? = some c) :
    text.tail.dropLast.length < text.length := by
  cases text with
  | nil => cases h
  | cons _ _ =>
    simp only [List.tail_cons, List.length_dropLast, List.length_cons]
    omega

/-! ### The length of a text is enough -/

/-- Readers that agree on shorter texts read a text alike. -/
theorem descriptorBy_congr {read read' : List Char → Bool → TypeDescriptor} {cs : List Char}
    (h : ∀ inner r, inner.length < cs.length → read inner r = read' inner r) (required : Bool) :
    descriptorBy read cs required = descriptorBy read' cs required := by
  have hinner {inner : List Char} {r : Bool} (hlt : inner.length < (Text.trimChars cs).length) :
      read inner r = read' inner r := h inner r (Nat.lt_of_lt_of_le hlt (length_trimChars_le cs))
  unfold descriptorBy
  dsimp only
  split
  · rfl
  split
  · rfl
  split
  · rename_i hmany
    split
    · rfl
    · rename_i m hkept
      exact hinner (length_lt_of_keptAlternatives hmany hkept)
    · rfl
  split
  · rename_i hbrackets
    rw [hinner (length_dropLast_dropLast_lt (List.isPrefixOf_iff_prefix.1 hbrackets))]
  split
  · rename_i hgroup
    exact hinner (length_tail_dropLast_lt hgroup.1)
  · rfl

/-- A text is read alike within its length and within any greater one. -/
theorem descriptorWithin_of_le {n : Nat} {cs : List Char} (h : cs.length ≤ n) (required : Bool) :
    descriptorWithin n cs required = descriptorWithin cs.length cs required := by
  induction n using Nat.strongRecOn generalizing cs required with
  | ind n ih =>
    cases n with
    | zero => rw [Nat.le_zero.1 h]
    | succ n =>
      cases hlength : cs.length with
      | zero =>
        rw [List.length_eq_zero_iff.1 hlength]
        rfl
      | succ length =>
        refine descriptorBy_congr (fun inner r hinner => ?_) required
        rw [ih n (by omega) (by omega), ih length (by omega) (by omega)]

/-- The type of an expression is found from the types of the texts inside it. -/
theorem parse_eq_descriptorBy (s : String) (required : Bool) :
    parse s required = descriptorBy (fun cs => parse (String.ofList cs)) s.toList required := by
  rw [parse, ← descriptorWithin_of_le (Nat.le_succ _)]
  refine descriptorBy_congr (fun inner r hinner => ?_) required
  rw [parse, String.toList_ofList, descriptorWithin_of_le (Nat.le_of_lt hinner)]

end RamlClient.Api.TypeExpression
