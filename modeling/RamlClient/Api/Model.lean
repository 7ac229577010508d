import RamlClient.Api.TypeExpression
import RamlClient.Failure
import RamlClient.Text.Numeral
import RamlClient.Value
/-!
# Models of an API

A model holds the declared types, the traits and the tree of resources of an API description, with
all its types resolved to descriptors.
-/

namespace RamlClient.Api

/-- A property of a declared type or of a body. -/
structure Property where
  /-- The declared name without its mark of optionality. -/
  name : String
  /-- The type of the property. -/
  type : TypeDescriptor
  /-- The name that the property has in JSON texts. -/
  wireName : String
deriving DecidableEq, Repr

/-- A named type. -/
structure TypeDeclaration where
  /-- The declared name. -/
  name : String
  /-- The names of the types that it inherits from, in declared order. -/
  supertypes : List String
  /-- The properties declared on the type itself. -/
  properties : List Property
  /-- The type that the declaration stands for. -/
  descriptor : TypeDescriptor
deriving DecidableEq, Repr

/-- A parameter of a path or of a query. -/
structure Parameter where
  /-- The declared name. -/
  name : String
  /-- The type of the parameter. -/
  type : TypeDescriptor
deriving DecidableEq, Repr

/-- A request or response body for one content type. -/
structure Body where
  /-- The content type. -/
  contentType : String
  /-- The type of the body. -/
  type : TypeDescriptor
  /-- The properties declared inline. -/
  properties : List Property
deriving DecidableEq, Repr

/-- A response to an operation. -/
structure Response where
  /-- The status code as it is written. -/
  code : String
  /-- The bodies of the response. -/
  bodies : List Body
deriving DecidableEq, Repr

/-- Query parameters and bodies that operations can share. -/
structure Trait where
  /-- The key that the trait is declared under. -/
  key : Value
  /-- The query parameters it contributes. -/
  queryParameters : List Parameter
  /-- The bodies it contributes. -/
  bodies : List Body

/-- An operation on a resource. -/
structure Method where
  /-- The verb in lower case. -/
  verb : String
  /-- The declared name of the operation, if there is one. -/
  displayName : Option String
  /-- The query parameters declared on the operation itself. -/
  queryParameters : List Parameter
  /-- The request bodies declared on the operation itself. -/
  bodies : List Body
  /-- The responses in declared order. -/
  responses : List Response
  /-- The traits of the operation, those of its resource first. -/
  traits : List Trait

/-- A node of the tree of paths. -/
structure Resource where
  /-- The part of the path that the node itself declares. -/
  relativeUri : String
  /-- The path from the base of the API. -/
  path : String
  /-- The parameters of the whole path, from its start on. -/
  uriParameters : List Parameter
  /-- The operations on the resource. -/
  methods : List Method
  /-- The nodes below. -/
  resources : List Resource

/-- A whole API. -/
structure Model where
  /-- The title. -/
  title : String
  /-- The version. -/
  version : String
  /-- The base address, which may mention the version. -/
  baseUri : String
  /-- The content type of bodies that name none. -/
  mediaType : String
  /-- The declared types. -/
  types : List TypeDeclaration
  /-- The traits in declared order. -/
  traits : List Trait
  /-- The resources at the top of the tree. -/
  resources : List Resource

/-! ### Queries -/

/-- Whether a response reports success: its code is a numeral below 300. A code of digits that are
no decimal digits has no value. -/
def Response.isSuccess (r : Response) : Except Defect Bool :=
  if !r.code.isEmpty && r.code.toList.all Text.isDigit then
    match Text.intOfNumeral? r.code.toList with
    | some n => .ok (n < 300)
    | none => .error .malformedNumeral
  else .ok false

/-- The first response that reports success. -/
def firstSuccess : List Response → Except Defect (Option Response)
  | [] => .ok none
  | r :: rest => do
    if ← r.isSuccess then pure (some r) else firstSuccess rest

namespace Method

/-- The query parameters of the operation, followed by those of its traits. -/
def allQueryParameters (m : Method) : List Parameter :=
  m.queryParameters ++ m.traits.flatMap (·.queryParameters)

/-- The request bodies of the operation, followed by those of its traits. -/
def allBodies (m : Method) : List Body := m.bodies ++ m.traits.flatMap (·.bodies)

/-- The first response that reports success. -/
def successResponse (m : Method) : Except Defect (Option Response) := firstSuccess m.responses

end Method

mutual
/-- The resource and all resources below it, parents first. -/
def Resource.walk : Resource → List Resource
  | ⟨relativeUri, path, uriParameters, methods, resources⟩ =>
    ⟨relativeUri, path, uriParameters, methods, resources⟩ :: walkAll resources
termination_by structural r => r

/-- Resources, each followed by all resources below it. -/
def walkAll : List Resource → List Resource
  | [] => []
  | r :: rest => r.walk ++ walkAll rest
termination_by structural rs => rs
end

namespace Model

/-- The base address with the version in it and without slashes at its end. -/
def defaultBaseUrl (api : Model) : String :=
  String.ofList (Text.dropRightWhile (· == '/')
    (Text.replaceAll "\x7bversion\x7d" api.version api.baseUri).toList)

/-- The first declaration of a name. -/
def findType? (api : Model) (name : String) : Option TypeDeclaration :=
  api.types.find? (·.name == name)

/-- All resources, parents first. -/
def walkResources (api : Model) : List Resource := walkAll api.resources

/-- All operations with their resources, in the order of the tree. -/
def operations (api : Model) : List (Resource × Method) :=
  api.walkResources.flatMap fun r => r.methods.map fun m => (r, m)

end Model

end RamlClient.Api
