import RamlClient.Api.Model
import RamlClient.Api.Section
/-!
# From a document to a model

The sections of a document are read into the model of the API that they describe. Types of all
kinds of declarations are resolved in one way, `describe`.

Declarations and resources are read as deep as they are nested. A way that goes on after that has
come back to where it was: the document contains itself there, and building its model ends with the
defect of an endless value.
-/

namespace RamlClient.Api

/-- The value under a key of some entries, or no value. -/
def facet (entries : List (Value × Value)) (key : String) : Value :=
  (Value.entryAt? entries key).getD .null

/-- Whether some entries have a key. -/
def hasFacet (entries : List (Value × Value)) (key : String) : Bool :=
  (Value.entryAt? entries key).isSome

/-! ### Types -/

/-- What a declaration gives as its type, under `type` or else under `schema`. -/
def declaredType (entries : List (Value × Value)) : Value :=
  match Value.entryAt? entries "type" with
  | some v => v
  | none => facet entries "schema"

/-- The type of a declaration: the first one of a list, and for a declaration without type an object
if it has properties, an array if it has items, and a text otherwise. -/
def typeFacet (entries : List (Value × Value)) : Value :=
  match (declaredType entries).opened with
  | .null =>
    .text (if hasFacet entries "properties" then "object"
      else if hasFacet entries "items" then "array" else "string")
  | .list [] => .text "object"
  | .list (v :: _) => v
  | _ => declaredType entries

/-- The type that a declaration stands for, nested to some depth at most. -/
def describeWithin : Nat → Value → Bool → Building TypeDescriptor
  | 0, _, _ => .error (.defect .endlessValue)
  | depth + 1, raw, required =>
    match raw.opened with
    | .null => .ok (.named "string" required)
    | .text s => .ok (TypeExpression.parse s required)
    | .mapping entries =>
      match typeFacet entries with
      | .text s =>
        if s = "array" then
          match facet entries "items" with
          | .null => .ok (.arrayOf (.named "any" true) required)
          | items => do
            let d ← describeWithin depth items true
            pure (.arrayOf d required)
        else .ok (TypeExpression.parse s required)
      | v =>
        if v.isMapping then do
          let d ← describeWithin depth v required
          pure { d with required }
        else reject .invalidType v
    | _ => reject .invalidDeclaration raw
termination_by structural depth => depth

/-- Whether a declaration may stand under a key of another one as its type or as its elements. -/
def isTypeKey : Value → Bool
  | .text s => ["type", "schema", "items"].contains s
  | _ => false

/-- The type that a declaration stands for. -/
def describe (raw : Value) (required : Bool) : Building TypeDescriptor :=
  describeWithin (raw.depthUnder isTypeKey + 1) raw required

/-- The name of a property without the question mark at its end, and whether it has none. -/
def unmarkedName (name : String) : String × Bool :=
  if Text.endsWith name "?" then (String.ofList name.toList.dropLast, false) else (name, true)

/-- Whether a property is required: the facet `required` of its declaration decides that, and
without it the mark of its name. -/
def isRequired (marked : Bool) (value : Value) : Bool :=
  match value.get? "required" with
  | some v => v.isTrue
  | none => marked

/-- The property that an entry declares. -/
def buildProperty (entry : Value × Value) : Building Property := do
  let (name, unmarked) := unmarkedName (← textOf entry.1)
  let type ← describe entry.2 (isRequired unmarked entry.2)
  pure { name, type, wireName := name }

/-- The properties of a section. -/
def buildProperties (raw : Value) : Building (List Property) := do
  let entries ← sectionEntries "properties" raw
  entries.mapM buildProperty

/-- The parameters of a section, which are declared like properties. -/
def buildParameters (raw : Value) : Building (List Parameter) := do
  let properties ← buildProperties raw
  pure (properties.map fun p => ⟨p.name, p.type⟩)

/-- The type that a type expression inherits from: arrays, unions and optional types inherit from
none. -/
def supertypesOf (expression : String) : List String :=
  let d := TypeExpression.parse expression true
  if d.isArray || d.isUnion || !d.required then [] else [d.kind]

/-- The types that a declaration inherits from. -/
def declaredSupertypes (entries : List (Value × Value)) : Building (List String) :=
  match (declaredType entries).opened with
  | .text s => .ok (supertypesOf s)
  | .list items => items.mapM textOf
  | .null => .ok (if hasFacet entries "properties" then ["object"] else [])
  | _ => .ok []

/-- The named type that an entry declares. -/
def buildType (entry : Value × Value) : Building TypeDeclaration := do
  let name ← textOf entry.1
  let (supertypes, properties) ← match entry.2.opened with
    | .null => pure ([], [])
    | .text s => pure (supertypesOf s, [])
    | .mapping entries => do
      let supertypes ← declaredSupertypes entries
      pure (supertypes, ← buildProperties (facet entries "properties"))
    | _ => Building.fail (.invalidNamedType name)
  let descriptor ← describe entry.2 true
  pure { name, supertypes, properties, descriptor }

/-! ### Bodies and traits -/

/-- The body of one content type. -/
def buildBody (contentType : String) (raw : Value) : Building Body :=
  match raw.opened with
  | .null => .ok ⟨contentType, .named "any" true, []⟩
  | .mapping entries => do
    let properties ← buildProperties (facet entries "properties")
    let type ← describe raw true
    pure ⟨contentType, type, properties⟩
  | _ => do
    let type ← describe raw true
    pure ⟨contentType, type, []⟩

/-- Whether all keys of some entries are content types. -/
def haveContentTypes : List (Value × Value) → Building Bool
  | [] => .ok true
  | (key, _) :: r => do
    if (← textOf key).toList.contains '/' then haveContentTypes r else pure false

/-- The bodies of a section: one for each content type, or one of the default content type. -/
def buildBodies (mediaType : String) (raw : Value) : Building (List Body) :=
  match raw.opened with
  | .null => .ok []
  | .mapping entries => do
    if !entries.isEmpty && (← haveContentTypes entries) then
      entries.mapM fun e => do buildBody (← textOf e.1) e.2
    else pure [← buildBody mediaType raw]
  | _ => do pure [← buildBody mediaType raw]

/-- The response that an entry declares. -/
def buildResponse (mediaType : String) (entry : Value × Value) : Building Response := do
  let code ← textOf entry.1
  let bodies ← buildBodies mediaType ((entry.2.get? "body").getD .null)
  pure ⟨code, bodies⟩

/-- The responses of a section. -/
def buildResponses (mediaType : String) (raw : Value) : Building (List Response) := do
  let entries ← sectionEntries "responses" raw
  entries.mapM (buildResponse mediaType)

/-- The trait that an entry declares. -/
def buildTrait (mediaType : String) (entry : Value × Value) : Building Trait := do
  let entries ← sectionEntries ("traits." ++ (← textOf entry.1)) entry.2
  let queryParameters ← buildParameters (facet entries "queryParameters")
  let bodies ← buildBodies mediaType (facet entries "body")
  pure ⟨entry.1, queryParameters, bodies⟩

/-- The traits of a section. -/
def buildTraits (mediaType : String) (raw : Value) : Building (List Trait) := do
  let entries ← sectionEntries "traits" raw
  entries.mapM (buildTrait mediaType)

/-- What a reference to traits mentions: a mapping mentions its keys. -/
def mentioned (v : Value) : List Value :=
  match v.opened with
  | .mapping entries => entries.map (·.1)
  | _ => [v]

/-- The mentions of a section that refers to traits. -/
def traitMentions (v : Value) : List Value :=
  match v.opened with
  | .null => []
  | .list refs => refs.flatMap mentioned
  | _ => mentioned v

/-- The trait that is declared under the text of a mention. -/
def findTrait (traits : List Trait) (mention : Value) : Building Trait := do
  let name ← textOf mention
  match traits.find? fun t => t.key.sameKey (.text name) with
  | some t => pure t
  | none => Building.fail (.unknownTrait name)

/-- The traits that a section refers to. -/
def traitRefs (traits : List Trait) (raw : Value) : Building (List Trait) :=
  (traitMentions raw).mapM (findTrait traits)

/-! ### Resources -/

/-- What the parts of a description share. -/
structure BuildContext where
  /-- The default content type. -/
  mediaType : String
  /-- The declared traits. -/
  traits : List Trait

/-- The verbs of operations. -/
def verbs : List String :=
  ["get", "put", "post", "patch", "delete", "options", "head", "trace", "connect"]

/-- The verb that a key is, if it is one. -/
def verb? : Value → Option String
  | .text s => if s ∈ verbs then some s else none
  | _ => none

/-- The part of a path that a key declares, if it does. -/
def relativeUri? : Value → Option String
  | .text s => if Text.startsWith s "/" then some s else none
  | _ => none

/-- The text of a value, if there is one. -/
def textIfGiven : Value → Building (Option String)
  | .null => .ok none
  | v => (textOf v).map some

/-- The operation of a verb. -/
def buildMethod (ctx : BuildContext) (inherited : List Trait) (verb : String) (raw : Value) :
    Building Method := do
  let entries ← sectionEntries verb raw
  let displayName ← textIfGiven (facet entries "displayName")
  let queryParameters ← buildParameters (facet entries "queryParameters")
  let bodies ← buildBodies ctx.mediaType (facet entries "body")
  let responses ← buildResponses ctx.mediaType (facet entries "responses")
  let own ← traitRefs ctx.traits (facet entries "is")
  pure { verb, displayName, queryParameters, bodies, responses, traits := inherited ++ own }

/-- The operations among the entries of a resource. -/
def buildMethods (ctx : BuildContext) (inherited : List Trait) (entries : List (Value × Value)) :
    Building (List Method) :=
  (entries.filterMap fun e => (verb? e.1).map (·, e.2)).mapM fun e =>
    buildMethod ctx inherited e.1 e.2

/-- Whether a character is no brace. -/
def isNoBrace (c : Char) : Bool := c != '\x7b' && c != '\x7d'

/-- The names between braces in a path, from left to right. -/
def placeholders : List Char → List (List Char)
  | [] => []
  | c :: r =>
    if c = '\x7b' ∧ r.takeWhile isNoBrace ≠ [] ∧ (r.dropWhile isNoBrace).head? = some '\x7d' then
      r.takeWhile isNoBrace :: placeholders r
    else placeholders r

/-- The parameter for a placeholder: the one declared last for its name, or a text. It is always
required. -/
def placeholderParameter (declared : List Parameter) (name : String) : Parameter :=
  match declared.reverse.find? (·.name == name) with
  | some p => ⟨p.name, { p.type with required := true }⟩
  | none => ⟨name, .named "string" true⟩

/-- A path without the slashes at its end, followed by the part that a resource declares. -/
def extendPath (parent relativeUri : String) : String :=
  String.ofList (Text.dropRightWhile (· == '/') parent.toList) ++ relativeUri

/-- A resource without the resources below it. -/
def buildNode (ctx : BuildContext) (parentPath : String) (parentParameters : List Parameter)
    (relativeUri : String) (entries : List (Value × Value)) : Building Resource := do
  let declared ← buildParameters (facet entries "uriParameters")
  let own := (placeholders relativeUri.toList).map fun n =>
    placeholderParameter declared (String.ofList n)
  let inherited ← traitRefs ctx.traits (facet entries "is")
  let methods ← buildMethods ctx inherited entries
  pure {
    relativeUri
    path := extendPath parentPath relativeUri
    uriParameters := parentParameters ++ own
    methods
    resources := [] }

/-- The resources that some entries declare, by the parts of their paths. -/
def resourceEntries (entries : List (Value × Value)) : List (String × Value) :=
  entries.filterMap fun e => (relativeUri? e.1).map (·, e.2)

/-- The resources among some entries, with the resources below them, nested to some depth at
most. -/
def buildResources (ctx : BuildContext) :
    Nat → String → List Parameter → List (Value × Value) → Building (List Resource)
  | 0, _, _, _ => .error (.defect .endlessValue)
  | depth + 1, parentPath, parentParameters, entries =>
    (resourceEntries entries).mapM fun e => do
      let inner ← sectionEntries e.1 e.2
      let node ← buildNode ctx parentPath parentParameters e.1 inner
      let below ← buildResources ctx depth node.path node.uriParameters inner
      pure { node with resources := below }
termination_by structural depth => depth

/-- How deep the resources among some entries are nested, and one more. -/
def resourceDepth (entries : List (Value × Value)) : Nat :=
  Value.entryDepthUnder (fun key => (relativeUri? key).isSome) entries + 2

/-! ### The whole model -/

/-- The content type of bodies that name none, unless the document says otherwise. -/
def defaultMediaType : String := "application/json"

/-- A content type of a document. -/
def mediaTypeOf : Value → Building String
  | .text s => .ok s
  | _ => Building.fail .mediaTypeNotText

/-- The default content type of a document; the first one of a list counts. -/
def buildMediaType (entries : List (Value × Value)) : Building String :=
  match Value.entryAt? entries "mediaType" with
  | none => .ok defaultMediaType
  | some v =>
    match v.opened with
    | .list [] => .ok defaultMediaType
    | .list (w :: _) => mediaTypeOf w
    | w => mediaTypeOf w

/-- The section of the declared types: under `types`, or else under `schemas`. What counts as false
is an empty section. -/
def typesSection (entries : List (Value × Value)) : Value :=
  let raw := match Value.entryAt? entries "types" with
    | some v => v
    | none => facet entries "schemas"
  if raw.isTrue then raw else .null

/-- The text of an entry of the document, empty if it is missing. -/
def textFacet (entries : List (Value × Value)) (key : String) : Building String :=
  match Value.entryAt? entries key with
  | some v => textOf v
  | none => .ok ""

/-- The model of the API that the entries of a document describe. -/
def buildModel (entries : List (Value × Value)) : Building Model := do
  let mediaType ← buildMediaType entries
  let types ← (← sectionEntries "types" (typesSection entries)).mapM buildType
  let traits ← buildTraits mediaType (facet entries "traits")
  let title ← textFacet entries "title"
  let version ← textFacet entries "version"
  let baseUri ← textFacet entries "baseUri"
  let resources ← buildResources ⟨mediaType, traits⟩ (resourceDepth entries) "" [] entries
  pure { title, version, baseUri, mediaType, types, traits, resources }

end RamlClient.Api
