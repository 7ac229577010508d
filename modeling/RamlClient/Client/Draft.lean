import RamlClient.Go.Package
/-!
# Drafts

A draft is a package under construction together with the notes taken about it. Drafting may fail;
what has been drafted before stays.
-/

namespace RamlClient.Client

open Go (Package)

/-- A package under construction, with notes. -/
structure Draft where
  /-- The package. -/
  package : Package
  /-- The notes in the order in which they were taken. -/
  notes : List String

/-- Steps that work on a draft and may fail. -/
abbrev Drafting := EStateM Failure Draft

namespace Drafting

/-- Fails with an error. -/
def fail {α : Type} (e : Error) : Drafting α := throw (.error e)

/-- Fails with an error if a condition holds. -/
def failWhen (condition : Bool) (e : Error) : Drafting Unit :=
  if condition then fail e else pure ()

/-- Goes on with a value unless it is a defect. -/
def orDefect {α : Type} (x : Except Defect α) : Drafting α :=
  match x with
  | .ok a => pure a
  | .error d => throw (.defect d)

/-- Goes on with a value unless it is an error. -/
def orError {α : Type} (x : Except Error α) : Drafting α :=
  match x with
  | .ok a => pure a
  | .error e => throw (.error e)

/-- The package as it is. -/
def package : Drafting Package := do pure (← get).package

/-- Changes the package. -/
def change (f : Package → Package) : Drafting Unit :=
  modify fun d => { d with package := f d.package }

/-- Changes the package, or fails and leaves it as it is. -/
def attempt (f : Package → Except Error Package) : Drafting Unit := do
  let p ← orError (f (← package))
  change fun _ => p

/-- Takes a note. -/
def note (s : String) : Drafting Unit := modify fun d => { d with notes := d.notes ++ [s] }

/-- Adds imports to a file. -/
def addImports (path : String) (imports : List String) : Drafting Unit :=
  change fun p => p.updateFile path fun f => f.addImports imports

/-- The file at a path, empty if there is none. -/
def file (path : String) : Drafting Go.File := do
  pure (((← package).file? path).getD (Go.File.empty path))

end Drafting

end RamlClient.Client
