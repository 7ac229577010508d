import RamlClient.Client.Models
import RamlClient.Client.OperationName
import RamlClient.Go.Literal
import RamlClient.Text.Line
/-!
# Client functions for operations

Every operation becomes one method of the client. It takes the parameters of the path, a struct of
query parameters if there are any, and a payload if the request has a body. It sends the request and
decodes the first successful response.
-/

namespace RamlClient.Client

open Api Go

/-- The receiver of the generated methods. -/
def clientReceiver : String := "c *Client"

/-- The function that returns the default base address. -/
def baseUrlFunc : String := "defaultBaseURL"

/-- The names that the body of a generated method uses itself. -/
def localNames : List String :=
  ["body", "bytes", "c", "err", "fmt", "http", "item", "json", "payload", "q", "query", "req",
   "res", "typ", "url", "v"]

/-! ### Parameters of the path -/

/-- The name of the argument for a parameter of the path, clear of the names in the body. -/
def pathArgName (name : String) : String :=
  let id := identifier name false
  if id ∈ localNames then id ++ "Param" else id

/-- The verb that formats a parameter of the path. -/
def pathVerb (d : TypeDescriptor) : String :=
  if d.kind ∈ ["integer", "number", "uint"] then "%d"
  else if d.kind = "boolean" then "%t"
  else if d.kind = "string" then "%s"
  else "%v"

/-- The arguments for the parameters of a path. -/
def pathArgs (parameters : List Parameter) : List Arg :=
  parameters.map fun p => ⟨pathArgName p.name, typeText p.type⟩

/-- A path with the format verbs of its parameters in place of the placeholders. -/
def pathTemplate (path : String) (parameters : List Parameter) : String :=
  parameters.foldl
    (fun template p =>
      Text.replaceAll ("\x7b" ++ p.name ++ "\x7d") (pathVerb p.type) template)
    (Text.replaceAll "%" "%%" path)

/-- The expression for the path of a resource. -/
def pathExpression (r : Resource) : String :=
  if r.uriParameters.isEmpty then literal r.path
  else call "fmt.Sprintf" (literal (pathTemplate r.path r.uriParameters) ::
    (pathArgs r.uriParameters).map (·.name))

/-! ### Query parameters -/

/-- The statements that set a query parameter from a value. -/
def valueSetter (key value : String) (isArray : Bool) : String :=
  if isArray then
    "\tfor _, item := range " ++ value ++ " \x7b\n\t\tv.Add(" ++ key ++
      ", fmt.Sprint(item))\n\t\x7d\n"
  else "\tv.Set(" ++ key ++ ", fmt.Sprint(" ++ value ++ "))\n"

/-- The statements that set a query parameter from a field; an optional one is set if it is
present. -/
def querySetter (p : Parameter) (field : String) : String :=
  let key := literal p.name
  if p.type.required then valueSetter key ("query." ++ field) p.type.isArray
  else
    "\tif query." ++ field ++ " != nil \x7b\n" ++
      Text.indentLines (valueSetter key ("*query." ++ field) p.type.isArray) ++ "\t\x7d\n"

/-- The field for a query parameter. -/
def queryField (p : Parameter) : Field := ⟨exportedName p.name, typeText p.type, none⟩

/-- The statements before the request that set the query. -/
def queryStatements (parameters : List Parameter) : String :=
  if parameters.isEmpty then "\tq := \x22\x22\n"
  else
    "\tv := url.Values\x7b\x7d\n" ++
      Text.concat (parameters.map fun p => querySetter p (exportedName p.name)) ++
      "\tq := \x22?\x22 + v.Encode()\n"

/-- Declares the struct of query parameters of a method, unless there are none. The result are the
argument for it and the packages that its fields need. -/
def generateQuery (path name : String) (parameters : List Parameter) :
    Drafting (List Arg × List String) := do
  if parameters.isEmpty then pure ([], [])
  else
    Drafting.addImports path ["net/url", "fmt"]
    let typeName := name ++ "Params"
    let declared := (← Drafting.file path).hasStruct typeName
    Drafting.attempt fun p => p.declareStruct path typeName
    let args := [⟨"query", typeName⟩]
    if declared then pure (args, [])
    else
      Drafting.change fun p => p.updateFile path fun f => f.updateStruct typeName fun s =>
        { s with fields := s.fields ++ parameters.map queryField }
      pure (args, parameters.flatMap fun p => typePackages p.type)

/-! ### Payloads -/

/-- Whether a content type is JSON. -/
def isJsonContentType (contentType : String) : Bool :=
  let media := Text.trimChars (Text.cutAtChar ';' contentType.toList).1
  let media := Text.lower (String.ofList media)
  media == "application/json" || Text.endsWith media "+json"

/-- Whether a name refers to a struct or a type definition. -/
def refersToType (p : Package) (name : String) : Bool :=
  match p.lookup name with
  | some (.struct _) => true
  | some (.typeDef _) => true
  | _ => false

/-- Whether the Go type of a body stands for it, without a struct of its own. -/
def standsForItself (p : Package) (api : Model) (body : Body) : Except Error Bool :=
  let d := body.type
  if !body.properties.isEmpty then .ok false
  else if d.isArray || d.isUnion then .ok true
  else if refersToType p (typeText d) then .ok true
  else if d.kind ∈ builtinKinds && d.kind != "object" then .ok true
  else match api.findType? d.kind with
    | none => .ok false
    | some declaration => (isObjectType api declaration).map (!·)

/-- The declaration of the struct for a body: it has the properties of the body and inherits from
the body's type if that is declared. -/
def payloadDeclaration (api : Model) (name : String) (body : Body) : TypeDeclaration where
  name
  supertypes := if (api.findType? body.type.kind).isSome then [body.type.kind] else []
  properties := body.properties
  descriptor := body.type

/-- The type of the payload of a method, with a struct declared for it if it needs one, and the
packages that are needed. -/
def generatePayload (path name : String) (api : Model) (body : Body) :
    Drafting (String × List String) := do
  let type := typeText body.type
  let packages := typePackages body.type
  if ← Drafting.orError (standsForItself (← Drafting.package) api body) then pure (type, packages)
  else
    let payloadName := name ++ "Payload"
    if (← Drafting.file path).hasStruct payloadName then pure (payloadName, packages)
    else
      let more ← generateStruct path api payloadName (payloadDeclaration api payloadName body)
      pure (payloadName, packages ++ more)

/-- The body of a request with the content type that it is sent with, the argument for it and the
packages that are needed. Only JSON bodies are supported. -/
def generateBody (path name : String) (api : Model) (r : Resource) (m : Method) :
    Drafting (Option String × List Arg × List String) := do
  match m.allBodies with
  | [] => pure (none, [], [])
  | body :: _ =>
    if isJsonContentType body.contentType then
      let (type, packages) ← generatePayload path name api body
      Drafting.addImports path ["bytes", "encoding/json"]
      pure (some body.contentType, [⟨"payload", type⟩], packages)
    else
      Drafting.fail (.unsupportedBody (Text.upper m.verb) r.path body.contentType)

/-! ### The method -/

/-- The descriptor of what a method decodes: the first body of the first successful response. -/
def resultDescriptor (response : Option Response) : Option TypeDescriptor :=
  match response with
  | some ⟨_, body :: _⟩ => some body.type
  | _ => none

/-- The Go type of what a method decodes. A type without text counts as none. -/
def resultType (response : Option Response) : Option String :=
  ((resultDescriptor response).map typeText).filter (· ≠ "")

/-- What a method returns before it has a response. -/
def failureValues (result : Option String) : String :=
  if result.isSome then "nil, typ, err" else "nil, err"

/-- Statements that leave a method if an error has occurred. -/
def returnOnError (values : String) : String :=
  "\tif err != nil \x7b\n\t\treturn " ++ values ++ "\n\t\x7d\n"

/-- The statement that declares the result. -/
def resultStatement : Option String → String
  | some type => "\tvar typ " ++ type ++ "\n"
  | none => ""

/-- The statements that encode the payload. -/
def payloadStatements (contentType result : Option String) : String :=
  match contentType with
  | some _ => "\tbody, err := json.Marshal(payload)\n" ++ returnOnError (failureValues result)
  | none => ""

/-- The statements that create the request. -/
def requestStatements (r : Resource) (m : Method) (contentType result : Option String) : String :=
  "\treq, err := http.NewRequest(" ++ literal (Text.upper m.verb) ++ ", c.url(" ++
    pathExpression r ++ " + q), " ++
    (if contentType.isSome then "bytes.NewReader(body)" else "nil") ++ ")\n" ++
    returnOnError (failureValues result)

/-- The statement that sets the content type of the request. -/
def headerStatement : Option String → String
  | some type => "\treq.Header.Set(\x22Content-Type\x22, " ++ literal type ++ ")\n"
  | none => ""

/-- The statements that send the request and decode the response. -/
def responseStatements (response : Option Response) (result : Option String) : String :=
  match response with
  | none => "\treturn c.do(req)\n"
  | some _ =>
    let values := if result.isSome then "res, typ, " else "res, "
    "\tres, err := c.do(req)\n" ++ returnOnError (values ++ "err") ++
      "\tif res.StatusCode >= 300 \x7b\n\t\treturn " ++ values ++
      "&StatusError\x7bResponse: res\x7d\n\t\x7d\n" ++
      if result.isSome then
        "\tdefer res.Body.Close()\n" ++
          "\tif err := json.NewDecoder(res.Body).Decode(&typ); err != nil \x7b\n" ++
          "\t\treturn res, typ, err\n\t\x7d\n\treturn res, typ, nil\n"
      else "\treturn res, nil\n"

/-- The results of a method. -/
def resultTypes (result : Option String) : List String :=
  ["*http.Response"] ++ result.toList ++ ["error"]

/-- The pieces of the body of a method. -/
def methodBody (r : Resource) (m : Method) (response : Option Response)
    (contentType : Option String) : List String :=
  let result := resultType response
  [resultStatement result ++ queryStatements m.allQueryParameters ++
      payloadStatements contentType result,
    requestStatements r m contentType result,
    headerStatement contentType,
    responseStatements response result]

/-- The packages that decoding the response and formatting the path need. -/
def statementImports (r : Resource) (response : Option Response) : List String :=
  (if (resultType response).isSome then ["encoding/json"] else []) ++
    if r.uriParameters.isEmpty then [] else ["fmt"]

/-- Declares the method for an operation. The result are the packages that its types need. -/
def generateMethod (path : String) (api : Model) (depth : Option Int) (r : Resource) (m : Method) :
    Drafting (List String) := do
  let verb := Text.upper m.verb
  let name ← Drafting.orDefect (configuredName r m depth)
  Drafting.failWhen ((← Drafting.package).isDeclared name) (.nameTaken verb r.path name)
  Drafting.addImports path ["net/http"]
  Drafting.attempt fun p => p.declareFunc path name
  let response ← Drafting.orDefect m.successResponse
  let (queryArgs, queryPackages) ← generateQuery path name m.allQueryParameters
  let (contentType, payloadArgs, payloadPackages) ← generateBody path name api r m
  Drafting.addImports path (statementImports r response)
  Drafting.change fun p => p.updateFunc path name fun f =>
    { f with
      receiver := some clientReceiver
      args := pathArgs r.uriParameters ++ queryArgs ++ payloadArgs
      results := resultTypes (resultType response)
      body := methodBody r m response contentType }
  Drafting.note (verb ++ " " ++ r.path ++ " -> " ++ name)
  pure (r.uriParameters.flatMap (fun p => typePackages p.type) ++
    ((resultDescriptor response).map typePackages).getD [] ++ queryPackages ++ payloadPackages)

/-- Declares the function that returns the default base address. -/
def generateBaseUrl (path : String) (api : Model) : Drafting Unit := do
  Drafting.attempt fun p => p.declareFunc path baseUrlFunc
  Drafting.change fun p => p.updateFunc path baseUrlFunc fun f =>
    { f with
      results := f.results ++ ["string"]
      body := f.body ++ ["\treturn " ++ literal api.defaultBaseUrl ++ "\n"] }

/-- Declares the methods for operations. The result are the packages that their types need. -/
def generateMethods (path : String) (api : Model) (depth : Option Int)
    (operations : List (Resource × Method)) : Drafting (List String) := do
  let packages ← operations.mapM fun o => generateMethod path api depth o.1 o.2
  pure packages.flatten

/-- Declares the function that returns the default base address, and the methods for all operations
in the order of the resources; then imports the packages that their types need. -/
def generateEndpoints (path : String) (api : Model) (depth : Option Int) : Drafting Unit := do
  generateBaseUrl path api
  let packages ← generateMethods path api depth api.operations
  Drafting.addImports path packages

end RamlClient.Client
