import RamlClient.Client.Draft
import RamlClient.Client.Inheritance
import RamlClient.Go.TypeText
/-!
# Structs and type definitions for declared types

A declared type that describes an object becomes a struct with its own properties and those of its
lineage. Every other declaration becomes a type definition.
-/

namespace RamlClient.Client

open Api Go

/-- The tag that gives a field its name in JSON texts. -/
def jsonTag (wireName : String) : String := "json:\x22" ++ wireName ++ "\x22"

/-- The field for a property. -/
def propertyField (p : Property) : Field :=
  ⟨exportedName p.name, typeText p.type, some (jsonTag p.wireName)⟩

/-- The members whose names are new: neither among some names nor the name of an earlier member. -/
def newMembers {α : Type} (name : α → String) (names : List String) : List α → List α
  | [] => []
  | a :: r =>
    if name a ∈ names then newMembers name names r
    else a :: newMembers name (names ++ [name a]) r

/-- The properties whose fields are new: neither among some field names nor the field of an earlier
property. -/
def newProperties (names : List String) (properties : List Property) : List Property :=
  newMembers (fun p => exportedName p.name) names properties

/-- A lineage must not lead back to itself. -/
def checkAcyclic : Option (List String) → Except Error Unit
  | some chain => .error (.model (.inheritanceCycle chain))
  | none => .ok ()

/-- Declares a struct with the properties of a lineage; fields that are there stay. The result are
the packages that the types of the new fields need. -/
def generateStruct (path : String) (api : Model) (name : String) (d : TypeDeclaration) :
    Drafting (List String) := do
  Drafting.attempt fun p => p.declareStruct path name
  let (visited, cycle) := lineage api d
  let file ← Drafting.file path
  let fields := ((file.struct? name).map (·.fields)).getD []
  let added := newProperties (fields.map (·.name)) (visited.flatMap (·.properties))
  Drafting.change fun p => p.updateFile path fun f => f.updateStruct name fun s =>
    { s with fields := s.fields ++ added.map propertyField }
  Drafting.orError (checkAcyclic cycle)
  Drafting.note ("struct " ++ name ++ ": " ++ toString (fields.length + added.length) ++ " fields")
  pure (added.flatMap fun p => typePackages p.type)

/-- Declares the definition of a declared type, unless the file has one of its name. The result are
the packages that it needs. -/
def generateModel (path : String) (api : Model) (d : TypeDeclaration) :
    Drafting (List String) := do
  let name := exportedName d.name
  let file ← Drafting.file path
  if file.hasStruct name || file.hasTypeDef name then pure []
  else if ← Drafting.orError (isObjectType api d) then generateStruct path api name d
  else
    Drafting.attempt fun p => p.declareTypeDef path name (typeText d.descriptor)
    pure (typePackages d.descriptor)

/-- Declares the definitions of all declared types, and then imports the packages they need. -/
def generateModels (path : String) (api : Model) : Drafting Unit := do
  let packages ← api.types.mapM (generateModel path api)
  Drafting.addImports path packages.flatten

end RamlClient.Client
