import RamlClient.Failure
import RamlClient.Value
/-!
# Sections of a description

A section of an API description is a mapping. It may also be written as a list of mappings, which
count as one mapping, and it may be empty.
-/

namespace RamlClient.Api

/-- Steps that build a part of a model. -/
abbrev Building := Except Failure

namespace Building

/-- The description has an error. -/
def fail {α : Type} (e : ModelError) : Building α := .error (.error (.model e))

/-- Goes on with a value unless it is a defect. -/
def orDefect {α : Type} (x : Except Defect α) : Building α := x.mapError .defect

end Building

/-- The text of a value. -/
def textOf (v : Value) : Building String := Building.orDefect v.toText

/-- The description has an error that is reported with a value. -/
def reject {α : Type} (cause : String → ModelError) (v : Value) : Building α := do
  let shown ← Building.orDefect v.shown
  Building.fail (cause shown)

/-- The entries of mappings in a list, merged in order. -/
def mergedEntries? : List (Value × Value) → List Value → Option (List (Value × Value))
  | entries, [] => some entries
  | entries, v :: rest =>
    match v.opened with
    | .mapping more => mergedEntries? (Value.mergeEntries entries more) rest
    | _ => none

/-- The entries of a section. -/
def sectionEntries (what : String) (v : Value) : Building (List (Value × Value)) :=
  match v.opened with
  | .null => .ok []
  | .mapping entries => .ok entries
  | .list items =>
    match mergedEntries? [] items with
    | some entries => .ok entries
    | none => Building.fail (.entriesNotMappings what)
  | _ => Building.fail (.notMapping what)

end RamlClient.Api
