import RamlClient.Client.Models
import RamlClient.Client.Operations
import RamlClient.Client.Profile
import RamlClient.Client.Runtime
import RamlClient.Client.Saving
/-!
# Generating a client

A run looks up its target, checks that the target's formatter is there, reads the document, drafts
the package, and writes it. Each step starts only after the one before it has succeeded, so nothing
is written unless the whole package could be drafted.
-/

namespace RamlClient.Client

/-- The names of the targets. -/
def targets : List String := ["go"]

/-- Checks the name of a target. -/
def checkTarget (name : String) : Except Error Unit :=
  if targets.contains name then .ok ()
  else .error (.unknownTarget name (Text.join ", " targets))

/-- The first word of a command. -/
def commandTool (command : List String) : Except Defect String :=
  match command with
  | [] => .error .emptyCommand
  | tool :: _ => .ok tool

/-- The path of the file for the declared types. -/
def modelsPath : String := "models.go"

/-- The path of the file for the operations. -/
def operationsPath : String := "endpoints.go"

/-- Drafts the declared types and then the operations, each in a file of their own. -/
def draftDefinitions (prefixDepth : Option Int) (api : Api.Model) : Drafting Unit := do
  Drafting.change fun p => p.withFile modelsPath
  generateModels modelsPath api
  Drafting.change fun p => p.withFile operationsPath
  generateEndpoints operationsPath api prefixDepth

/-- Drafts a package: the runtime, the declared types, and the operations. -/
def draftPackage (prefixDepth : Option Int) (api : Api.Model) : Drafting Unit := do
  Drafting.change fun p => p.withInclude runtimeInclude
  let (reserved, result) := (← Drafting.package).reserve runtimeNames
  Drafting.change fun _ => reserved
  Drafting.orError result
  draftDefinitions prefixDepth api

section

variable {σ : Type} (host : Host σ)

/-- Drafts, and writes the notes that are taken as records, also those taken before a failure. -/
def runDraft (draft : Drafting Unit) : Running σ Go.Package := do
  let start : Draft := ⟨Go.Package.empty, []⟩
  match draft.run start with
  | .ok _ d =>
    d.notes.forM (Running.log .debug)
    pure d.package
  | .error e d =>
    d.notes.forM (Running.log .debug)
    throw e

/-- Checks that the formatter of a profile is there. -/
def checkTools (profile : Profile) : Running σ Unit := do
  let tool ← Running.orDefect (commandTool profile.formatter)
  if !host.hasTool tool then Running.fail (.missingTool tool)

/-- Drafts the client of an API and writes it into a directory. The result are the paths in the
order of writing. -/
def generate (profile : Profile) (api : Api.Model) (directory : Path) :
    Running σ (List Path) := do
  let progress ← Running.report host fun now c => Progress.idle.start now "Generating Go code" c
  let package ← runDraft (draftPackage profile.prefixDepth api)
  let tool ← Running.orDefect (commandTool profile.formatter)
  let progress ← Running.report host fun now c => progress.start now ("Running " ++ tool) c
  let written ← save host directory profile.packageName (some profile.formatter) package
  discard (Running.report host fun now c => progress.finish now c)
  pure written

/-- The record of a document that has been read. -/
def loadedMessage (api : Api.Model) : String :=
  "loaded '" ++ api.title ++ "': " ++ toString api.types.length ++ " types, " ++
    toString api.resources.length ++ " top-level resources"

/-- Reads a document and builds its model. -/
def loadModel (source : DocumentSource) : Running σ Api.Model := do
  let api ← Running.orFailure (Document.load (host.sources (← get).host) none source)
  Running.log .debug (loadedMessage api)
  pure api

/-- Generates the client of the API that a document describes. The directory is not needed before
the document has been read. -/
def generatePackage (target : String) (profile : Profile) (source : DocumentSource)
    (directory : Option Path) : Running σ (List Path) := do
  Running.orError (checkTarget target)
  checkTools host profile
  let api ← loadModel host source
  let directory ← Running.needed directory
  let written ← generate host profile api directory
  Running.log .info ("wrote " ++ toString written.length ++ " files to " ++ directory.text)
  pure written

end

end RamlClient.Client
