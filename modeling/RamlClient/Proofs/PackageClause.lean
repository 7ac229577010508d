import RamlClient.Go.Render
import RamlClient.Proofs.Steps
/-!
# The package clause of a copied text

The name of the package is put into a copied text as a template. A name without a backslash stands
for itself there, so it cannot be malformed.
-/

namespace RamlClient

namespace Text

/-- A template without backslashes is read as its characters. -/
theorem templateMarks_of_notMem {cs : List Char} (h : '\\' ∉ cs) :
    templateMarks cs = cs.map .plain := by
  induction cs with
  | nil => rfl
  | cons c r ih =>
    rw [List.mem_cons, not_or] at h
    have hc : c ≠ '\\' := Ne.symm h.1
    rw [templateMarks, ih h.2, List.map_cons]
    · rintro rfl
      exact fun _ => hc rfl
    · rintro _ _ rfl
      exact fun _ => hc rfl

/-- Characters of a template stand for themselves. -/
theorem templatePieces_map_plain (cs : List Char) :
    templatePieces (cs.map .plain) = .ok (cs.map fun c => .literal [c]) := by
  induction cs with
  | nil =>
    rw [List.map_nil, templatePieces]
    rfl
  | cons c r ih =>
    rw [List.map_cons, templatePieces, ih]
    rfl

/-- A template without a backslash stands for itself. -/
theorem expandTemplate_of_notMem {template : List Char} (h : '\\' ∉ template)
    (matched : List Char) :
    expandTemplate template matched = .ok template := by
  rw [expandTemplate, templateMarks_of_notMem h, templatePieces_map_plain]
  simp [bind, Except.bind, pure, Except.pure, List.flatMap_map]

end Text

namespace Go

/-- The package clause of a text can name any package without a backslash in its name. -/
theorem exists_renderInclude {package : String} (h : '\\' ∉ package.toList) (text : String) :
    ∃ text', renderInclude text package = .ok text' := by
  have hclause : '\\' ∉ ("package " ++ package).toList := by
    rw [String.toList_append, List.mem_append, not_or]
    exact ⟨by decide +kernel, h⟩
  rw [renderInclude]
  split
  · refine ⟨text, ?_⟩
    simp only [Text.expandTemplate_of_notMem hclause, Steps.mapError_ok]
    rfl
  · rename_i before clause after _
    refine ⟨String.ofList (before ++ ("package " ++ package).toList ++ after), ?_⟩
    simp only [Text.expandTemplate_of_notMem hclause, Steps.mapError_ok]
    rfl

end Go

end RamlClient
