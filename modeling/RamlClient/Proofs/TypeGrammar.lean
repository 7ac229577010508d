import RamlClient.Proofs.TypeReading
/-!
# The grammar of type expressions

A type expression is a name, an expression in parentheses, an array of something that is not a
union, or a union of at least two alternatives that are not unions themselves. White space may stand
around bars, inside parentheses and before the brackets of an array. A syntax tree holds all of
this, its text is what it is written as, and its meaning is the type that the grammar gives it. The
reader finds the meaning in the text by counting parentheses, so the proofs follow the depth through
the text of a tree.
-/

namespace RamlClient.Api.TypeExpression

/-! ### Syntax trees -/

/-- White space, possibly none. -/
structure Blanks where
  /-- The characters. -/
  text : List Char
  /-- All of them are white space. -/
  blank : ∀ c ∈ text, Text.isBlank c = true

/-- The text begins and ends with characters that are not white space. -/
structure Tight (cs : List Char) : Prop where
  /-- The first character is not white space. -/
  begins : ∃ c r, cs = c :: r ∧ Text.isBlank c = false
  /-- The last character is not white space. -/
  ends : ∃ r c, cs = r ++ [c] ∧ Text.isBlank c = false

/-- The characters that type expressions are put together with. -/
def marks : List Char := ['|', '(', ')', '[', ']']

/-- The text does not look like a schema of some other kind. -/
def NoSchema (cs : List Char) : Prop := cs.head? ≠ some '\x7b' ∧ cs.head? ≠ some '<'

/-- The name of a type. -/
structure Name where
  /-- The characters. -/
  text : List Char
  /-- There is a character, and no white space around the name. -/
  tight : Tight text
  /-- The name is one word of the grammar. -/
  unmarked : ∀ c ∈ text, c ∉ marks
  /-- The name is not taken for a schema. -/
  noSchema : NoSchema text

/-- Whether bars stand outside the parentheses of an expression. -/
inductive Shape where
  /-- They do not. -/
  | single
  /-- They do. -/
  | union

/-- The syntax trees of type expressions. A union is its first alternative and what follows the bar,
which is the last alternative or a union again. -/
inductive Tree : Shape → Type where
  /-- A name. -/
  | name (n : Name) : Tree .single
  /-- An expression in parentheses. -/
  | group {s : Shape} (before : Blanks) (e : Tree s) (after : Blanks) : Tree .single
  /-- An array. -/
  | array (e : Tree .single) (before : Blanks) : Tree .single
  /-- A union. -/
  | union {s : Shape} (first : Tree .single) (before after : Blanks) (rest : Tree s) : Tree .union

namespace Tree

/-- What an expression is written as. -/
def text : {s : Shape} → Tree s → List Char
  | _, .name n => n.text
  | _, .group before e after => '(' :: (before.text ++ e.text ++ after.text ++ [')'])
  | _, .array e before => e.text ++ before.text ++ ['[', ']']
  | _, .union first before after rest =>
    first.text ++ before.text ++ '|' :: (after.text ++ rest.text)

/-- The alternatives of an expression. An expression that is not a union is the only one of
itself. -/
def members : {s : Shape} → Tree s → List (Tree .single)
  | _, .name n => [.name n]
  | _, .group before e after => [.group before e after]
  | _, .array e before => [.array e before]
  | _, .union first _ _ rest => first :: rest.members

/-- The alternatives that are not written `nil`. -/
def kept {s : Shape} (e : Tree s) : List (Tree .single) := e.members.filter (·.text != nilName)

/-- An alternative is no greater than its expression. -/
theorem sizeOf_members_le {s : Shape} {e : Tree s} {m : Tree .single} (h : m ∈ e.members) :
    sizeOf m ≤ sizeOf e := by
  induction e with
  | name n => simp_all [members]
  | group before e after => simp_all [members]
  | array e before => simp_all [members]
  | union first before after rest _ ih =>
    simp only [members, List.mem_cons] at h
    simp only [union.sizeOf_spec]
    rcases h with rfl | h
    · omega
    · have := ih h
      omega

/-- An alternative that is left of a union is smaller than the union. -/
theorem sizeOf_lt_of_kept {s : Shape} {first : Tree .single} {before after : Blanks} {rest : Tree s}
    {m : Tree .single} (h : (union first before after rest).kept = [m]) :
    sizeOf m < sizeOf (union first before after rest) := by
  have hm : m ∈ (union first before after rest).kept := by simp [h]
  have hm' := (List.mem_filter.1 hm).1
  simp only [members, List.mem_cons] at hm'
  simp only [union.sizeOf_spec]
  rcases hm' with rfl | hm'
  · omega
  · have := sizeOf_members_le hm'
    omega

/-- The type that an expression stands for. -/
def meaning : {s : Shape} → Tree s → Bool → TypeDescriptor
  | _, .name n, required => .named (String.ofList n.text) required
  | _, .group _ e _, required => e.meaning required
  | _, .array e _, required => .arrayOf (e.meaning true) required
  | _, .union first before after rest, required =>
    match _h : (union first before after rest).kept with
    | [] => .named "nil" false
    | [m] => m.meaning false
    | ms => .unionOf (ms.map fun m => String.ofList m.text) required
termination_by _ e => sizeOf e
decreasing_by
  · simp +arith
  · simp +arith
  · exact sizeOf_lt_of_kept ‹_›

end Tree

/-! ### White space around texts -/

/-- Without the white space around it, a tight text is left. -/
theorem trimChars_of_tight {cs before after : List Char} (h : Tight cs)
    (hb : ∀ c ∈ before, Text.isBlank c = true) (ha : ∀ c ∈ after, Text.isBlank c = true) :
    Text.trimChars (before ++ cs ++ after) = cs := by
  obtain ⟨c, r, rfl, hc⟩ := h.begins
  obtain ⟨r', c', hr', hc'⟩ := h.ends
  have hleft : (before ++ c :: r ++ after).dropWhile Text.isBlank = c :: r ++ after := by
    rw [List.append_assoc, List.dropWhile_append_of_pos hb]
    simp [hc]
  rw [Text.trimChars, hleft, Text.dropRightWhile, hr', List.reverse_append,
    List.dropWhile_append_of_pos (by simpa using ha)]
  simp [hc']

/-! ### Bars outside parentheses -/

/-- Puts a text before the first piece. -/
def prepend (cs : List Char) : List (List Char) → List (List Char)
  | [] => [cs]
  | piece :: rest => (cs ++ piece) :: rest

/-- The text has no bar outside parentheses when it is read from one depth to another. -/
def Passes (d d' : Int) (cs : List Char) : Prop :=
  ∀ rest, pieces d (cs ++ rest) = prepend cs (pieces d' rest)

/-- A text has at least one piece. -/
theorem pieces_ne_nil (d : Int) (cs : List Char) : pieces d cs ≠ [] := by
  cases cs with
  | nil => simp [pieces]
  | cons c r =>
    rw [pieces]
    split
    · simp
    · split <;> simp

/-- A text can be put before the first piece in two portions. -/
theorem prepend_append (cs cs' : List Char) {ps : List (List Char)} :
    prepend cs (prepend cs' ps) = prepend (cs ++ cs') ps := by
  cases ps with
  | nil => rfl
  | cons p ps => simp [prepend]

/-- An empty text has no bar. -/
theorem Passes.nil (d : Int) : Passes d d [] := by
  intro rest
  obtain ⟨p, ps, hps⟩ := List.exists_cons_of_ne_nil (pieces_ne_nil d rest)
  simp [hps, prepend]

/-- Texts in a row without bars have none together. -/
theorem Passes.append {d d' d'' : Int} {cs cs' : List Char} (h : Passes d d' cs)
    (h' : Passes d' d'' cs') :
    Passes d d'' (cs ++ cs') := by
  intro rest
  rw [List.append_assoc, h, h', prepend_append]

/-- A character is passed unless it is a bar outside parentheses. -/
theorem passes_char {d : Int} {c : Char} (h : c = '|' → d ≠ 0) : Passes d (depthAfter d c) [c] := by
  intro rest
  obtain ⟨p, ps, hps⟩ := List.exists_cons_of_ne_nil (pieces_ne_nil (depthAfter d c) rest)
  have hbar : ¬ (c = '|' ∧ d = 0) := fun hc => h hc.1 hc.2
  simp [pieces, hbar, hps, prepend]

/-- Characters that are no marks leave the depth as it is. -/
theorem passes_of_unmarked {cs : List Char} (h : ∀ c ∈ cs, c ∉ marks) (d : Int) :
    Passes d d cs := by
  induction cs with
  | nil => exact Passes.nil d
  | cons c r ih =>
    obtain ⟨hc, hr⟩ := List.forall_mem_cons.1 h
    simp only [marks, List.mem_cons, not_or] at hc
    obtain ⟨hbar, hopen, hclose, -⟩ := hc
    have hdepth : depthAfter d c = d := by simp [depthAfter, hopen, hclose]
    have hpass : Passes d (depthAfter d c) [c] := passes_char fun h => absurd h hbar
    rw [hdepth] at hpass
    exact hpass.append (ih hr)

/-- White space has no marks. -/
theorem Blanks.unmarked (b : Blanks) : ∀ c ∈ b.text, c ∉ marks := by
  intro c hc hmark
  have hblank : c ∈ marks.filter Text.isBlank := List.mem_filter.2 ⟨hmark, b.blank c hc⟩
  have hnone : marks.filter Text.isBlank = [] := by decide
  rw [hnone] at hblank
  cases hblank

/-- An expression is passed inside parentheses, and outside of them if it is not a union. -/
theorem Tree.passes {s : Shape} (e : Tree s) {d : Int} (hd : 0 ≤ d) (hs : s = .union → d ≠ 0) :
    Passes d d e.text := by
  induction e generalizing d with
  | name n => exact passes_of_unmarked n.unmarked d
  | group before e after ih =>
    have hopen : Passes d (d + 1) ['('] := passes_char (by simp)
    have hclose : Passes (d + 1) d [')'] := by
      have := passes_char (d := d + 1) (c := ')') (by simp)
      simpa [depthAfter] using this
    have hinner : Passes (d + 1) (d + 1) e.text := ih (by omega) (by omega)
    have hbefore := passes_of_unmarked before.unmarked (d + 1)
    have hafter := passes_of_unmarked after.unmarked (d + 1)
    exact hopen.append (((hbefore.append hinner).append hafter).append hclose)
  | array e before ih =>
    have hbrackets : Passes d d ['[', ']'] := by
      have hleft := passes_char (d := d) (c := '[') (by simp)
      have hright := passes_char (d := d) (c := ']') (by simp)
      exact hleft.append hright
    exact ((ih hd nofun).append (passes_of_unmarked before.unmarked d)).append hbrackets
  | union first before after rest ihf ihr =>
    have hd0 : d ≠ 0 := hs rfl
    have hbar : Passes d d ['|'] := passes_char fun _ => hd0
    have hfirst := (ihf hd nofun).append (passes_of_unmarked before.unmarked d)
    have hrest := (passes_of_unmarked after.unmarked d).append (ihr hd fun _ => hd0)
    exact hfirst.append (hbar.append hrest)

/-! ### The texts of trees -/

/-- A text is tight that begins and ends with tight texts. -/
theorem Tight.append {cs cs' : List Char} (h : Tight cs) (mid : List Char) (h' : Tight cs') :
    Tight (cs ++ mid ++ cs') := by
  obtain ⟨c, r, rfl, hc⟩ := h.begins
  obtain ⟨r', c', rfl, hc'⟩ := h'.ends
  exact ⟨⟨c, r ++ mid ++ (r' ++ [c']), by simp, hc⟩, ⟨c :: r ++ mid ++ r', c', by simp, hc'⟩⟩

/-- A character that is not white space is a tight text. -/
theorem tight_singleton {c : Char} (h : Text.isBlank c = false) : Tight [c] :=
  ⟨⟨c, [], rfl, h⟩, ⟨[], c, rfl, h⟩⟩

/-- Whether a text looks like a schema is told by its beginning. -/
theorem NoSchema.append {cs : List Char} (h : NoSchema cs) (hcs : cs ≠ []) (rest : List Char) :
    NoSchema (cs ++ rest) := by
  obtain ⟨c, r, rfl⟩ := List.exists_cons_of_ne_nil hcs
  exact h

namespace Tree

/-- Expressions are written as tight texts. -/
theorem tight_text {s : Shape} (e : Tree s) : Tight e.text := by
  induction e with
  | name n => exact n.tight
  | group before e after _ =>
    have hopen : Tight ['('] := tight_singleton (by decide)
    have hclose : Tight [')'] := tight_singleton (by decide)
    simpa [text] using hopen.append (before.text ++ e.text ++ after.text) hclose
  | array e before ih =>
    have hclose : Tight [']'] := tight_singleton (by decide)
    simpa [text] using ih.append (before.text ++ ['[']) hclose
  | union first before after rest ihf ihr =>
    simpa [text] using ihf.append (before.text ++ '|' :: after.text) ihr

/-- Expressions are not written as empty texts. -/
theorem text_ne_nil {s : Shape} (e : Tree s) : e.text ≠ [] := by
  obtain ⟨c, r, hcr, -⟩ := e.tight_text.begins
  simp [hcr]

/-- Expressions do not look like schemas. -/
theorem noSchema_text {s : Shape} (e : Tree s) : NoSchema e.text := by
  induction e with
  | name n => exact n.noSchema
  | group before e after _ => simp [NoSchema, text]
  | array e before ih =>
    rw [text, List.append_assoc]
    exact ih.append e.text_ne_nil _
  | union first before after rest ih _ =>
    rw [text, List.append_assoc]
    exact ih.append first.text_ne_nil _

/-- An expression without bars outside parentheses is one piece. -/
theorem pieces_text (e : Tree .single) (b : Blanks) :
    pieces 0 (b.text ++ e.text) = [b.text ++ e.text] := by
  have hpass := (passes_of_unmarked b.unmarked 0).append (e.passes (Int.le_refl 0) nofun) []
  simpa [pieces, prepend] using hpass

/-- The pieces between the bars are the alternatives with the white space around them. -/
theorem map_trimChars_pieces {s : Shape} (e : Tree s) (b : Blanks) :
    (pieces 0 (b.text ++ e.text)).map Text.trimChars = e.members.map text := by
  have hone (m : Tree .single) : (pieces 0 (b.text ++ m.text)).map Text.trimChars = [m.text] := by
    rw [m.pieces_text b]
    simpa using trimChars_of_tight m.tight_text b.blank (List.forall_mem_nil _)
  induction e generalizing b with
  | name n => exact hone _
  | group before e after _ => exact hone _
  | array e before _ => exact hone _
  | union first before after rest _ ih =>
    have hpass : Passes 0 0 (b.text ++ first.text ++ before.text) :=
      ((passes_of_unmarked b.unmarked 0).append (first.passes (Int.le_refl 0) nofun)).append
        (passes_of_unmarked before.unmarked 0)
    have hcut : pieces 0 (b.text ++ (union first before after rest).text) =
        (b.text ++ first.text ++ before.text) :: pieces 0 (after.text ++ rest.text) := by
      have := hpass ('|' :: (after.text ++ rest.text))
      simpa [text, pieces, prepend] using this
    have hfirst := trimChars_of_tight first.tight_text b.blank before.blank
    have hrest := ih after fun m => by
      rw [m.pieces_text after]
      simpa using trimChars_of_tight m.tight_text after.blank (List.forall_mem_nil _)
    rw [hcut, List.map_cons, hfirst, hrest]
    rfl

/-- The parser finds the alternatives of an expression. -/
theorem alternatives_text {s : Shape} (e : Tree s) : alternatives e.text = e.members.map text := by
  have hpieces := e.map_trimChars_pieces ⟨[], nofun⟩
  rw [alternatives, ← List.nil_append e.text, hpieces, List.filter_eq_self]
  intro cs hcs
  obtain ⟨m, -, rfl⟩ := List.mem_map.1 hcs
  simp [m.text_ne_nil]

/-- The alternatives of a text besides `nil` are those of its expression. -/
theorem filter_alternatives_text {s : Shape} (e : Tree s) :
    (alternatives e.text).filter (· != nilName) = e.kept.map text := by
  rw [alternatives_text, List.filter_map]
  rfl

/-- A union has at least two alternatives. -/
theorem length_members_union {s : Shape} (first : Tree .single) (before after : Blanks)
    (rest : Tree s) :
    1 < (union first before after rest).members.length := by
  have hrest : rest.members ≠ [] := by cases rest <;> simp [members]
  have := List.length_pos_iff.2 hrest
  simp only [members, List.length_cons]
  omega

/-- An expression that is no union has one alternative. -/
theorem length_members_single (e : Tree .single) : ¬ 1 < e.members.length := by
  cases e <;> simp [members]

/-! ### Reading the text of a tree -/

/-- An expression is read as its meaning, whatever white space stands around it. -/
def Reads {s : Shape} (e : Tree s) : Prop :=
  ∀ (before after : Blanks) (required : Bool),
    parse (String.ofList (before.text ++ e.text ++ after.text)) required = e.meaning required

/-- What remains to be read once the white space is gone and the text is no schema. -/
theorem parse_blanks {s : Shape} (e : Tree s) (before after : Blanks) (required : Bool) :
    parse (String.ofList (before.text ++ e.text ++ after.text)) required =
      if 1 < e.members.length then
        match e.kept.map text with
        | [] => .named "nil" false
        | [m] => parse (String.ofList m) false
        | members => .unionOf (members.map String.ofList) required
      else if [']', '['].isPrefixOf e.text.reverse then
        .arrayOf (parse (String.ofList e.text.dropLast.dropLast) true) required
      else if e.text.head? = some '(' ∧ e.text.getLast? = some ')' then
        parse (String.ofList e.text.tail.dropLast) required
      else .named (String.ofList e.text) required := by
  have htrim := trimChars_of_tight e.tight_text before.blank after.blank
  have hschema : ¬ (e.text.head? = some '\x7b' ∨ e.text.head? = some '<') := by
    rintro (h | h)
    · exact e.noSchema_text.1 h
    · exact e.noSchema_text.2 h
  rw [parse_eq_descriptorBy, String.toList_ofList, descriptorBy]
  simp only [htrim, if_neg e.text_ne_nil, if_neg hschema, alternatives_text, List.length_map]
  rw [← alternatives_text]
  exact filter_alternatives_text e ▸ rfl

/-- A name is read as itself: it has no marks that anything else is told by. -/
theorem reads_name (n : Name) : Reads (.name n) := by
  intro before after required
  have hbracket : ¬ [']', '['].isPrefixOf n.text.reverse = true := by
    intro h
    have hbrackets : [']', '['] <+: n.text.reverse := List.isPrefixOf_iff_prefix.1 h
    exact n.unmarked ']' (List.mem_reverse.1 (hbrackets.subset (by simp))) (by decide)
  have hopen : n.text.head? ≠ some '(' := by
    intro h
    exact n.unmarked '(' (List.mem_of_mem_head? h) (by decide)
  rw [parse_blanks, if_neg (length_members_single _)]
  simp [text, hbracket, hopen, meaning]

/-- Parentheses are taken off. -/
theorem reads_group {s : Shape} {e : Tree s} (h : Reads e) (before after : Blanks) :
    Reads (.group before e after) := by
  intro before' after' required
  have hbracket : ¬ [']', '['].isPrefixOf (group before e after).text.reverse = true := by
    simp [text]
  have hlast : (group before e after).text.getLast? = some ')' := by
    rw [text, ← List.cons_append]
    exact List.getLast?_concat
  have hinner : (group before e after).text.tail.dropLast =
    before.text ++ e.text ++ after.text := by
    simp [text]
  rw [parse_blanks, if_neg (length_members_single _), if_neg hbracket, if_pos ⟨rfl, hlast⟩, hinner,
    h before after required, meaning]

/-- Brackets are taken off, and what stands before them is the type of the elements. -/
theorem reads_array {e : Tree .single} (h : Reads e) (before : Blanks) :
    Reads (.array e before) := by
  intro before' after' required
  have hbracket : [']', '['].isPrefixOf (array e before).text.reverse = true := by simp [text]
  have hitems : (array e before).text.dropLast.dropLast = [] ++ e.text ++ before.text := by
    simp [text]
  have hread := h ⟨[], nofun⟩ before true
  rw [parse_blanks, if_neg (length_members_single _), if_pos hbracket, hitems, hread, meaning]

/-- A union is read as its alternatives, and as the only one of them that is no `nil`. -/
theorem reads_union {s : Shape} {first : Tree .single} {before after : Blanks} {rest : Tree s}
    (h : ∀ m ∈ (union first before after rest).members, Reads m) :
    Reads (union first before after rest) := by
  intro before' after' required
  rw [parse_blanks, if_pos (length_members_union _ _ _ _), meaning]
  match hkept : (union first before after rest).kept with
  | [] => simp
  | [m] =>
    have hm : m ∈ (union first before after rest).kept := by simp [hkept]
    have hread := h m (List.mem_filter.1 hm).1 ⟨[], nofun⟩ ⟨[], nofun⟩ false
    simpa using hread
  | m :: m' :: ms => simp [Function.comp_def]

/-- Every expression is read, and so is each of its alternatives. What is left of a union may be any
of its alternatives, so the induction carries all of them along. -/
theorem reads_and_members {s : Shape} (e : Tree s) : Reads e ∧ ∀ m ∈ e.members, Reads m := by
  induction e with
  | name n =>
    have h := reads_name n
    exact ⟨h, List.forall_mem_singleton.2 h⟩
  | group before e after ih =>
    have h := reads_group ih.1 before after
    exact ⟨h, List.forall_mem_singleton.2 h⟩
  | array e before ih =>
    have h := reads_array ih.1 before
    exact ⟨h, List.forall_mem_singleton.2 h⟩
  | union first before after rest ihf ihr =>
    have hmembers : ∀ m ∈ (union first before after rest).members, Reads m :=
      List.forall_mem_cons.2 ⟨ihf.1, ihr.2⟩
    exact ⟨reads_union hmembers, hmembers⟩

/-- The text of an expression, with white space around it or not, is read as the meaning that the
grammar gives the expression, however deep the expression is. -/
theorem parse_text {s : Shape} (e : Tree s) (before after : Blanks) (required : Bool) :
    parse (String.ofList (before.text ++ e.text ++ after.text)) required = e.meaning required :=
  e.reads_and_members.1 before after required

end Tree

end RamlClient.Api.TypeExpression
