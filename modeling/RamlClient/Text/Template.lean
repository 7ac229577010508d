import RamlClient.Text.NameChar
import RamlClient.Text.Numeral
/-!
# Replacement templates

The text that replaces a matched text is written as a template. A backslash starts an escape: a
control character, a character by its octal code, or a reference to the matched text. The pattern
that is matched has no numbered or named groups, so a reference can only be to the whole match,
`\g<0>`.
-/

namespace RamlClient.Text

/-- A piece of a template. -/
inductive TemplatePiece where
  /-- A text that stands for itself. -/
  | literal (cs : List Char)
  /-- The matched text. -/
  | matched
deriving DecidableEq, Repr

/-- Why a template cannot be read. -/
inductive TemplateError where
  /-- An escape or a reference is malformed, or refers to a numbered group. -/
  | malformed
  /-- A reference names a group. -/
  | unknownGroup
deriving DecidableEq, Repr

/-- What a template is made of: characters that stand for themselves and escaped characters. -/
inductive TemplateMark where
  /-- A character on its own. -/
  | plain (c : Char)
  /-- A character after a backslash. -/
  | escaped (c : Char)
  /-- A backslash at the end of the template. -/
  | dangling
deriving DecidableEq, Repr

/-- The marks of a template. -/
def templateMarks : List Char → List TemplateMark
  | [] => []
  | ['\\'] => [.dangling]
  | '\\' :: c :: r => .escaped c :: templateMarks r
  | c :: r => .plain c :: templateMarks r

/-- The characters that a mark is written with. -/
def TemplateMark.chars : TemplateMark → List Char
  | .plain c => [c]
  | .escaped c => ['\\', c]
  | .dangling => ['\\']

/-- The name of a group, up to the closing bracket, and the marks after it. -/
def groupName? : List TemplateMark → Option (List Char × List TemplateMark)
  | [] => none
  | .plain '>' :: r => some ([], r)
  | m :: r => (groupName? r).map fun (name, rest) => (m.chars ++ name, rest)

/-- What follows the name of a group is shorter than the text with it. -/
theorem length_of_groupName? {ms rest : List TemplateMark} {name : List Char}
    (h : groupName? ms = some (name, rest)) : rest.length < ms.length := by
  induction ms generalizing name with
  | nil => simp [groupName?] at h
  | cons m r ih =>
    unfold groupName? at h
    split at h
    · simp at h
    · rename_i heq
      simp only [Option.some.injEq, Prod.mk.injEq, List.cons.injEq] at h heq
      obtain ⟨-, rfl⟩ := heq
      simp [← h.2]
    · rename_i heq
      obtain ⟨-, rfl⟩ := List.cons.inj heq
      obtain ⟨⟨n, s⟩, hs, hEq⟩ := Option.map_eq_some_iff.1 h
      simp only [Prod.mk.injEq] at hEq
      obtain ⟨-, rfl⟩ := hEq
      exact Nat.lt_succ_of_lt (ih hs)

/-- The value of an octal digit. -/
def octalValue? (c : Char) : Option Nat :=
  if '0' ≤ c && c ≤ '7' then some (c.toNat - 48) else none

/-- The character code that three octal digits write, the first of them escaped. -/
def octalCode? (c : Char) : List TemplateMark → Option Nat
  | .plain d :: .plain e :: _ => do
    let x ← octalValue? c
    let y ← octalValue? d
    let z ← octalValue? e
    pure (64 * x + 8 * y + z)
  | _ => none

/-- The character of an escape letter. -/
def escapeLetter? (c : Char) : Option Char :=
  match c with
  | 'a' => some '\x07'
  | 'b' => some '\x08'
  | 'f' => some '\x0c'
  | 'n' => some '\n'
  | 'r' => some '\r'
  | 't' => some '\t'
  | 'v' => some '\x0b'
  | '\\' => some '\\'
  | _ => none

/-- What a reference to a group stands for. -/
def groupReference (name : List Char) (rest : List TemplateMark) :
    Except TemplateError TemplatePiece :=
  if name.isEmpty then .error .malformed
  else if isName name then
    .error (if rest.head? = some .dangling then .malformed else .unknownGroup)
  else if intOfNumeral? name = some 0 then .ok .matched
  else .error .malformed

/-- Reads the pieces of a template. -/
def templatePieces (ms : List TemplateMark) : Except TemplateError (List TemplatePiece) :=
  match ms with
  | [] => .ok []
  | .dangling :: _ => .error .malformed
  | .plain c :: r => do
    let rest ← templatePieces r
    pure (.literal [c] :: rest)
  | .escaped 'g' :: .plain '<' :: r =>
    match h : groupName? r with
    | none => .error .malformed
    | some (name, r') => do
      have := length_of_groupName? h
      let piece ← groupReference name r'
      let rest ← templatePieces r'
      pure (piece :: rest)
  | .escaped '0' :: r =>
    let digits := (r.take 2).map fun m =>
      match m with
      | .plain c => octalValue? c
      | _ => none
    let (value, used) := match digits with
      | some a :: some b :: _ => (8 * a + b, 2)
      | some a :: _ => (a, 1)
      | _ => (0, 0)
    do
      let rest ← templatePieces (r.drop used)
      pure (.literal [Char.ofNat value] :: rest)
  | .escaped c :: r =>
    match octalCode? c r with
    | some n =>
      if n ≤ 255 then do
        let rest ← templatePieces (r.drop 2)
        pure (.literal [Char.ofNat n] :: rest)
      else .error .malformed
    | none =>
      match escapeLetter? c with
      | some d => do
        let rest ← templatePieces r
        pure (.literal [d] :: rest)
      | none =>
        if c.isAlphanum then .error .malformed
        else do
          let rest ← templatePieces r
          pure (.literal ['\\', c] :: rest)
termination_by ms.length
decreasing_by all_goals (simp_wf; try omega)

/-- The text of a template for a matched text. -/
def expandTemplate (template matched : List Char) : Except TemplateError (List Char) := do
  let pieces ← templatePieces (templateMarks template)
  pure (pieces.flatMap fun piece =>
    match piece with
    | .literal cs => cs
    | .matched => matched)

end RamlClient.Text
