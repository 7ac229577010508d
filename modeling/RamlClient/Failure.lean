import RamlClient.Defect
import RamlClient.Files.Fault
import RamlClient.Text.Segment
/-!
# Failures

An error is a cause that a run reports with a message. A run ends with an error or with a defect of
its input.
-/

namespace RamlClient

/-- Why a document cannot be read. -/
inductive ReadError where
  /-- The file of the document cannot be read. -/
  | unreadable (path : String)
  /-- The document does not start with the header. -/
  | missingHeader (path : String)
  /-- The address of the document does not answer. -/
  | notFetched (url : String)
  /-- The document is not well formed. -/
  | malformed
  /-- The document is no mapping. -/
  | notMapping (origin : String)
  /-- A file includes itself, directly or through others. -/
  | includeCycle (chain : List String)
  /-- An included file cannot be read. -/
  | unreadableInclude (path : String)
  /-- The document has no title. -/
  | missingTitle

/-- Why a document describes no API. -/
inductive ModelError where
  /-- The default content type is no text. -/
  | mediaTypeNotText
  /-- A list that stands for a mapping has other entries. -/
  | entriesNotMappings (what : String)
  /-- A section is no mapping. -/
  | notMapping (what : String)
  /-- A value declares no type. -/
  | invalidDeclaration (shown : String)
  /-- A value is no type. -/
  | invalidType (shown : String)
  /-- A value declares no named type. -/
  | invalidNamedType (name : String)
  /-- A reference names no trait. -/
  | unknownTrait (reference : String)
  /-- A type inherits from itself. -/
  | inheritanceCycle (chain : List String)

/-- The causes that a run reports. -/
inductive Error where
  /-- The document cannot be read. -/
  | read (cause : ReadError)
  /-- The document describes no API. -/
  | model (cause : ModelError)
  /-- The content type of a request body is not supported. -/
  | unsupportedBody (verb path contentType : String)
  /-- The name of an operation is used already. -/
  | nameTaken (verb path name : String)
  /-- An identifier is declared already. -/
  | duplicateIdentifier (name : String)
  /-- No target has the name. -/
  | unknownTarget (name available : String)
  /-- A tool that a target needs is missing. -/
  | missingTool (executable : String)
  /-- The generated files cannot be written. -/
  | write (directory : String) (fault : Fault)
  /-- The formatter cannot be started. -/
  | formatterNotStarted (executable : String) (fault : Fault)
  /-- The formatter reports failure. -/
  | formatterFailed (executable : String) (exitCode : Int) (detail : String)

/-- What ends a run. -/
inductive Failure where
  /-- An error. -/
  | error (e : Error)
  /-- A defect of the input. -/
  | defect (d : Defect)

/-- The chain with arrows between its members. -/
def arrowChain (chain : List String) : String := Text.join " -> " chain

/-- The report of a document that cannot be read. -/
def ReadError.message : ReadError → String
  | .unreadable path => "Cannot read RAML document: " ++ path
  | .missingHeader path => "Missing '#%RAML' header: " ++ path
  | .notFetched url => "Failed to fetch URL: " ++ url
  | .malformed => "Invalid RAML document"
  | .notMapping origin => "RAML document must be a mapping: " ++ origin
  | .includeCycle chain => "Include cycle: " ++ arrowChain chain
  | .unreadableInclude path => "Cannot read included file: " ++ path
  | .missingTitle => "Missing or invalid 'title' field in document"

/-- The report of a document that describes no API. -/
def ModelError.message : ModelError → String
  | .mediaTypeNotText => "'mediaType' must be a string"
  | .entriesNotMappings what => "'" ++ what ++ "' entries must be mappings"
  | .notMapping what => "'" ++ what ++ "' must be a mapping"
  | .invalidDeclaration shown => "Invalid type declaration: " ++ shown
  | .invalidType shown => "Invalid type: " ++ shown
  | .invalidNamedType name => "Invalid declaration for type '" ++ name ++ "'"
  | .unknownTrait reference => "Unknown trait: " ++ reference
  | .inheritanceCycle chain => "Type inheritance cycle: " ++ arrowChain chain

/-- The report of an error. -/
def Error.message : Error → String
  | .read cause => cause.message
  | .model cause => cause.message
  | .unsupportedBody verb path contentType =>
    verb ++ " " ++ path ++ ": unsupported request body type '" ++ contentType ++ "'"
  | .nameTaken verb path name =>
    verb ++ " " ++ path ++ ": function name '" ++ name ++
      "' is already used; declare a displayName for one of the methods"
  | .duplicateIdentifier name => "Identifier '" ++ name ++ "' is already declared"
  | .unknownTarget name available =>
    "Invalid target \x22" ++ name ++ "\x22 (available: " ++ available ++ ")"
  | .missingTool executable =>
    "'" ++ executable ++ "' was not found on PATH; it is required to generate Go code"
  | .write directory fault =>
    "Cannot write generated sources to " ++ directory ++ ": " ++ fault.message
  | .formatterNotStarted executable fault =>
    "Cannot run formatter '" ++ executable ++ "': " ++ fault.message
  | .formatterFailed executable exitCode detail =>
    "Formatter '" ++ executable ++ "' failed with exit code " ++ toString exitCode ++ ": " ++ detail

end RamlClient
