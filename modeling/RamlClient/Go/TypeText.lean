import RamlClient.Api.TypeExpression
import RamlClient.Go.Identifier
/-!
# Go types

The Go type of a value: scalars have types of their own, arrays are slices, unions and values of any
kind are empty interfaces, and all other kinds are named types. What is not required is a pointer.
-/

namespace RamlClient.Go

open Api (TypeDescriptor)

/-- The type that holds any value. -/
def anyType : String := "interface\x7b\x7d"

/-- The Go types of the scalar kinds. -/
def scalarTypes : List (String × String) :=
  [("string", "string"), ("integer", "int"), ("number", "int"), ("uint", "uint"),
   ("boolean", "bool"), ("object", "map[string]interface\x7b\x7d"), ("any", anyType),
   ("nil", anyType), ("file", "io.Reader"), ("date-only", "time.Time"), ("time-only", "time.Time"),
   ("datetime-only", "time.Time"), ("datetime", "time.Time"), ("IsoDate", "time.Time"),
   ("UnixTimestampMillis", "time.Time")]

/-- The Go types of other packages, with the packages. -/
def packageOfType : List (String × String) := [("io.Reader", "io"), ("time.Time", "time")]

/-- The Go type of a scalar kind. -/
def scalarType? (kind : String) : Option String :=
  (scalarTypes.find? fun s => s.1 == kind).map (·.2)

/-- The Go type of a kind. -/
def kindType (kind : String) : String := (scalarType? kind).getD (exportedName kind)

/-- The packages that the Go type of a kind needs. -/
def kindPackages (kind : String) : List String :=
  match scalarType? kind with
  | some type => ((packageOfType.find? fun p => p.1 == type).map (·.2)).toList
  | none => []

/-- The Go type of a value that is present. -/
def presentType : TypeDescriptor → String
  | ⟨_, _, some items, members⟩ => if 1 < members.length then anyType else "[]" ++ presentType items
  | ⟨kind, _, none, members⟩ => if 1 < members.length then anyType else kindType kind

/-- The packages that the Go type of a value needs. -/
def typePackages : TypeDescriptor → List String
  | ⟨_, _, some items, members⟩ => if 1 < members.length then [] else typePackages items
  | ⟨kind, _, none, members⟩ => if 1 < members.length then [] else kindPackages kind

/-- The Go type of a value. -/
def typeText (d : TypeDescriptor) : String :=
  if d.required then presentType d else "*" ++ presentType d

end RamlClient.Go
