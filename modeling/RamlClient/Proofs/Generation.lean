import RamlClient.Proofs.Building
import RamlClient.Proofs.Rendering
import RamlClient.Proofs.Writing
import RamlClient.Yaml.Outline
/-!
# Generating a client

A run that fails before it writes leaves its host as it is, and one that succeeds has written the
whole package and has run the formatter once after that. Each file then holds its rendering, unless
links lead the path of a later one to the same file.
-/

namespace RamlClient.Client

open Go

/-! ### How a run fails -/

/-- The kinds of errors. -/
inductive ErrorKind where
  /-- Something that is needed is missing. -/
  | dependencyMissing
  /-- The document cannot be read or describes no API. -/
  | modelLoad
  /-- The document has a construct that is not supported. -/
  | unsupportedConstruct
  /-- An identifier is declared twice. -/
  | duplicateIdentifier
  /-- The package cannot be written. -/
  | write
  /-- The package cannot be formatted. -/
  | format
deriving DecidableEq

/-- The kind of an error. -/
def errorKind : Error → ErrorKind
  | .unknownTarget .. | .missingTool .. => .dependencyMissing
  | .read .. | .model .. => .modelLoad
  | .unsupportedBody .. | .nameTaken .. => .unsupportedConstruct
  | .duplicateIdentifier .. => .duplicateIdentifier
  | .write .. => .write
  | .formatterNotStarted .. | .formatterFailed .. => .format

/-- The kinds of errors that come before anything is written. -/
def ErrorKind.isEarly : ErrorKind → Bool
  | .write | .format => false
  | _ => true

variable {σ : Type} {host : Host σ} {target : String} {profile : Profile} {source : DocumentSource}
  {directory : Option Path} {s s' : Session σ}

/-- Why a run fails before it writes, on a host in a state. -/
inductive Unready (host : Host σ) (target : String) (profile : Profile) (source : DocumentSource)
    (directory : Option Path) (state : σ) : Failure → Prop where
  /-- The target is not known. -/
  | target {e : Error} (h : checkTarget target = .error e) :
    Unready host target profile source directory state (.error e)
  /-- The formatter has no name. -/
  | command (h : profile.formatter = []) :
    Unready host target profile source directory state (.defect .emptyCommand)
  /-- The formatter is missing. -/
  | tool {tool : String} (h : host.hasTool tool = false) :
    Unready host target profile source directory state (.error (.missingTool tool))
  /-- The document cannot be loaded. -/
  | document {f : Failure} (h : Document.load (host.sources state) none source = .error f) :
    Unready host target profile source directory state f
  /-- No directory is given. -/
  | directory (h : directory = none) :
    Unready host target profile source directory state (.defect .missingOptionValue)
  /-- The package cannot be drafted. -/
  | draft {api : Api.Model} {f : Failure} {d : Draft}
    (hload : Document.load (host.sources state) none source = .ok api)
    (hdraft : (draftPackage profile.prefixDepth api).run ⟨Package.empty, []⟩ = .error f d) :
    Unready host target profile source directory state f

/-- The tool of a command is its first word. -/
theorem commandTool_eq_ok {command : List String} {tool : String}
    (h : commandTool command = .ok tool) :
    ∃ args, command = tool :: args := by
  cases command with
  | nil => cases h
  | cons first args =>
    cases h
    exact ⟨args, rfl⟩

/-- A command without a tool is empty. -/
theorem commandTool_eq_error {command : List String} {d : Defect}
    (h : commandTool command = .error d) :
    command = [] ∧ d = .emptyCommand := by
  cases command with
  | nil =>
    cases h
    exact ⟨rfl, rfl⟩
  | cons first args => cases h

/-- A command with a first word has it as its tool. -/
theorem run_commandTool (tool : String) (args : List String) :
    (Running.orDefect (commandTool (tool :: args))).run s = .ok tool s := rfl

/-- The check of the tools changes nothing and passes if there is a formatter. -/
theorem run_checkTools_eq_ok {u : Unit} (h : (checkTools host profile).run s = .ok u s') :
    s' = s ∧ ∃ tool args, profile.formatter = tool :: args := by
  rw [checkTools] at h
  obtain ⟨tool, _, htool, h⟩ := Steps.run_bind_eq_ok.1 h
  obtain ⟨hcommand, rfl⟩ := Running.run_orDefect_eq_ok.1 htool
  split at h
  · exact absurd h nofun
  · obtain ⟨-, rfl⟩ := Steps.run_pure_eq_ok.1 h
    exact ⟨rfl, tool, commandTool_eq_ok hcommand⟩

/-- A failed check of the tools comes before anything is written. -/
theorem run_checkTools_eq_error {f : Failure} (h : (checkTools host profile).run s = .error f s') :
    s'.host = s.host ∧ Unready host target profile source directory s.host f := by
  rw [checkTools] at h
  rcases Steps.run_bind_eq_error.1 h with h | ⟨tool, _, htool, h⟩
  · obtain ⟨d, hd, rfl, rfl⟩ := Running.run_orDefect_eq_error.1 h
    obtain ⟨hcommand, rfl⟩ := commandTool_eq_error hd
    exact ⟨rfl, .command hcommand⟩
  · obtain ⟨-, rfl⟩ := Running.run_orDefect_eq_ok.1 htool
    split at h
    · rename_i hhas
      cases h
      exact ⟨rfl, .tool (by simpa using hhas)⟩
    · exact absurd h nofun

/-- The check of the tools passes if the host has the formatter. -/
theorem run_checkTools_of_hasTool {tool : String} {args : List String}
    (htool : profile.formatter = tool :: args) (hhas : host.hasTool tool = true) :
    (checkTools host profile).run s = .ok () s := by
  rw [checkTools, htool, Steps.run_bind_of_ok (run_commandTool tool args), hhas]
  rfl

/-- Loading leaves the host alone and gives the API of the document. -/
theorem run_loadModel_eq_ok {api : Api.Model} (h : (loadModel host source).run s = .ok api s') :
    s'.host = s.host ∧ Document.load (host.sources s.host) none source = .ok api := by
  rw [loadModel] at h
  obtain ⟨_, _, hget, h⟩ := Steps.run_bind_eq_ok.1 h
  cases hget
  obtain ⟨_, _, hrun, h⟩ := Steps.run_bind_eq_ok.1 h
  obtain ⟨hload, rfl⟩ := Running.run_orFailure_eq_ok.1 hrun
  rw [Steps.run_bind_of_ok (Running.run_log _ _)] at h
  obtain ⟨rfl, rfl⟩ := Steps.run_pure_eq_ok.1 h
  exact ⟨rfl, hload⟩

/-- Loading that fails leaves everything alone. -/
theorem run_loadModel_eq_error {f : Failure} (h : (loadModel host source).run s = .error f s') :
    s' = s ∧ Document.load (host.sources s.host) none source = .error f := by
  rw [loadModel] at h
  rcases Steps.run_bind_eq_error.1 h with h | ⟨_, _, hget, h⟩
  · exact absurd h nofun
  cases hget
  rcases Steps.run_bind_eq_error.1 h with h | ⟨_, _, -, h⟩
  · obtain ⟨hload, rfl⟩ := Running.run_orFailure_eq_error.1 h
    exact ⟨rfl, hload⟩
  · rw [Steps.run_bind_of_ok (Running.run_log _ _)] at h
    exact absurd h nofun

/-- A document that can be loaded is loaded. -/
theorem exists_run_loadModel_eq_ok {api : Api.Model}
    (h : Document.load (host.sources s.host) none source = .ok api) :
    ∃ c, (loadModel host source).run s = .ok api ⟨s.host, c⟩ := by
  rw [loadModel, Steps.run_bind_of_ok (rfl : (get : Running σ (Session σ)).run s = .ok s s),
    Steps.run_bind_of_ok (Running.run_orFailure_eq_ok.2 ⟨h, rfl⟩),
    Steps.run_bind_of_ok (Running.run_log _ _)]
  exact ⟨_, rfl⟩

/-- A document that cannot be loaded fails as it does. -/
theorem run_loadModel_of_error {f : Failure}
    (h : Document.load (host.sources s.host) none source = .error f) :
    (loadModel host source).run s = .error f s := by
  rw [loadModel, Steps.run_bind_of_ok (rfl : (get : Running σ (Session σ)).run s = .ok s s)]
  exact Steps.run_bind_of_error (Running.run_orFailure_eq_error.2 ⟨h, rfl⟩)

/-- The package that is drafted has the runtime. -/
theorem includes_of_draftPackage {depth : Option Int} {api : Api.Model} {d : Draft}
    (h : (draftPackage depth api).run ⟨Package.empty, []⟩ = .ok () d) :
    d.package.includes = [.text runtimeName runtimeText] := by
  obtain ⟨_, hdrafted⟩ := draftPackage_eq_ok h
  rw [hdrafted.includes, includes_runtimePackage]
  rfl

/-- The package that is drafted has two files. -/
theorem files_of_draftPackage {depth : Option Int} {api : Api.Model} {d : Draft}
    (h : (draftPackage depth api).run ⟨Package.empty, []⟩ = .ok () d) :
    ∃ models operations, d.package.files = [models, operations] ∧
      models.path = modelsPath ∧ operations.path = operationsPath := by
  obtain ⟨_, hdrafted⟩ := draftPackage_eq_ok h
  obtain ⟨models, _, hfiles, hmodels, hrest⟩ := List.map_eq_cons_iff.1 hdrafted.paths
  obtain ⟨operations, _, rfl, hoperations, hnil⟩ := List.map_eq_cons_iff.1 hrest
  rw [List.map_eq_nil_iff.1 hnil] at hfiles
  exact ⟨models, operations, hfiles, hmodels, hoperations⟩

/-- Generating fails while the package is drafted, or else while it is saved. -/
theorem run_generate_eq_error {api : Api.Model} {directory : Path} {tool : String}
    {args : List String} {f : Failure} (htool : profile.formatter = tool :: args)
    (h : (generate host profile api directory).run s = .error f s') :
    (s'.host = s.host ∧
      ∃ d, (draftPackage profile.prefixDepth api).run ⟨Package.empty, []⟩ = .error f d) ∨
    ∃ d, (draftPackage profile.prefixDepth api).run ⟨Package.empty, []⟩ = .ok () d ∧
      Unsaved host directory profile.packageName tool args d.package f := by
  rw [generate, Steps.run_bind_of_ok (Running.run_report _ _)] at h
  rcases Steps.run_bind_eq_error.1 h with h | ⟨p, _, hp, h⟩
  · obtain ⟨hhost, hdraft⟩ := Running.run_runDraft_eq_error h
    exact .inl ⟨hhost, hdraft⟩
  obtain ⟨-, d, hd, rfl⟩ := Running.run_runDraft_eq_ok hp
  rw [htool, Steps.run_bind_of_ok (run_commandTool tool args),
    Steps.run_bind_of_ok (Running.run_report _ _)] at h
  rcases Steps.run_bind_eq_error.1 h with h | ⟨_, _, -, h⟩
  · exact .inr ⟨d, hd, unsaved_of_save (includes_of_draftPackage hd) h⟩
  · exact absurd h nofun

/-- A run fails before it writes, and then the host is as before, or while it saves. -/
theorem run_generatePackage_eq_error {f : Failure}
    (h : (generatePackage host target profile source directory).run s = .error f s') :
    (s'.host = s.host ∧ Unready host target profile source directory s.host f) ∨
    ∃ api dir tool args d, Document.load (host.sources s.host) none source = .ok api ∧
      directory = some dir ∧ profile.formatter = tool :: args ∧
      (draftPackage profile.prefixDepth api).run ⟨Package.empty, []⟩ = .ok () d ∧
      Unsaved host dir profile.packageName tool args d.package f := by
  rw [generatePackage] at h
  rcases Steps.run_bind_eq_error.1 h with h₁ | ⟨_, _, htarget, h₁⟩
  · obtain ⟨e, he, rfl, rfl⟩ := Running.run_orError_eq_error.1 h₁
    exact .inl ⟨rfl, .target he⟩
  obtain ⟨-, rfl⟩ := Running.run_orError_eq_ok.1 htarget
  rcases Steps.run_bind_eq_error.1 h₁ with h₂ | ⟨_, _, htools, h₂⟩
  · exact .inl (run_checkTools_eq_error h₂)
  obtain ⟨rfl, tool, args, htool⟩ := run_checkTools_eq_ok htools
  rcases Steps.run_bind_eq_error.1 h₂ with h₃ | ⟨api, s₁, hapi, h₃⟩
  · obtain ⟨rfl, hload⟩ := run_loadModel_eq_error h₃
    exact .inl ⟨rfl, .document hload⟩
  obtain ⟨hhost, hload⟩ := run_loadModel_eq_ok hapi
  rcases Steps.run_bind_eq_error.1 h₃ with h₄ | ⟨dir, _, hdir, h₄⟩
  · obtain ⟨hdir, rfl, rfl⟩ := Running.run_needed_eq_error.1 h₄
    exact .inl ⟨hhost, .directory hdir⟩
  obtain ⟨rfl, rfl⟩ := Running.run_needed_eq_ok.1 hdir
  rcases Steps.run_bind_eq_error.1 h₄ with h₅ | ⟨_, _, -, h₅⟩
  · rcases run_generate_eq_error htool h₅ with ⟨hhost', _, hdraft⟩ | ⟨d, hdraft, hunsaved⟩
    · exact .inl ⟨hhost'.trans hhost, .draft hload hdraft⟩
    · exact .inr ⟨api, dir, tool, args, d, hload, rfl, htool, hdraft, hunsaved⟩
  · rw [Steps.run_bind_of_ok (Running.run_log _ _)] at h₅
    exact absurd h₅ nofun

/-- Saving fails with an error only while it writes or formats. -/
theorem Unsaved.not_isEarly {directory : Path} {package tool : String} {args : List String}
    {p : Package} {e : Error} (h : Unsaved host directory package tool args p (.error e)) :
    (errorKind e).isEarly = false := by
  cases h <;> rfl

/-! ### How a run succeeds -/

/-- The texts of the files of a client. -/
structure ClientTexts where
  /-- The text of the runtime. -/
  runtime : String
  /-- The text of the file for the declared types. -/
  models : String
  /-- The text of the file for the operations. -/
  operations : String

namespace ClientTexts

/-- The names of the files, with their texts, in the order of writing. -/
def files (texts : ClientTexts) : List (String × String) :=
  [(runtimeName, texts.runtime), (modelsPath, texts.models), (operationsPath, texts.operations)]

/-- The paths of the files in a directory, in the order of writing. -/
def paths (directory : Path) : List Path :=
  [runtimeName, modelsPath, operationsPath].map (pathIn directory)

/-- The operations that write the files into a directory. -/
def steps (texts : ClientTexts) (directory : Path) : List FileStep :=
  [.makeDirs directory, .writeFile (pathIn directory runtimeName) texts.runtime,
   .makeDirs (pathIn directory modelsPath).parent,
   .writeFile (pathIn directory modelsPath) texts.models,
   .makeDirs (pathIn directory operationsPath).parent,
   .writeFile (pathIn directory operationsPath) texts.operations]

/-- Each file is written after the directory it is in. -/
theorem steps_eq (texts : ClientTexts) (directory : Path) : texts.steps directory =
    texts.files.flatMap fun file =>
      [.makeDirs (pathIn directory file.1).parent,
        .writeFile (pathIn directory file.1) file.2] := by
  have hruntime : (pathIn directory runtimeName).parent = directory := by
    have hname : Path.ofText runtimeName = ⟨"", [runtimeName]⟩ := by decide
    rw [pathIn, hname]
    change (⟨directory.anchor, (directory.parts ++ [runtimeName]).dropLast⟩ : Path) = directory
    rw [List.dropLast_concat]
  simp only [steps, files, List.flatMap_cons, List.flatMap_nil, hruntime, List.cons_append,
    List.nil_append]

/-- The texts are the renderings of a package of a name. -/
structure RendersPackage (texts : ClientTexts) (name : String) (p : Package) : Prop where
  /-- The runtime is copied with its package clause changed. -/
  runtime : renderInclude runtimeText name = .ok texts.runtime
  /-- A name without a backslash stands in the clause as it is. -/
  clause : '\\' ∉ name.toList → texts.runtime = "package " ++ name ++ "\n" ++ runtimeBody
  /-- The other two are the renderings of the files. -/
  sources : ∃ models operations, p.files = [models, operations] ∧ models.path = modelsPath ∧
    operations.path = operationsPath ∧ models.IsRendering name texts.models ∧
    operations.IsRendering name texts.operations

/-- The texts are those of the whole package that is drafted for an API, in a package of the name
that the settings have. -/
def Renders (texts : ClientTexts) (profile : Profile) (api : Api.Model) : Prop :=
  ∃ d, (draftPackage profile.prefixDepth api).run ⟨Package.empty, []⟩ = .ok () d ∧
    texts.RendersPackage profile.packageName d.package

end ClientTexts

/-- Generating writes the texts of the package, and then the formatter runs. -/
theorem run_generate_eq_ok {api : Api.Model} {directory : Path} {tool : String} {args : List String}
    {paths : List Path} (htool : profile.formatter = tool :: args)
    (h : (generate host profile api directory).run s = .ok paths s') :
    ∃ (texts : ClientTexts) (t : σ) (result : ToolResult), texts.Renders profile api ∧
      paths = ClientTexts.paths directory ∧
      (performAll host (texts.steps directory)).run s.host = .ok () t ∧
      (host.runTool tool (args ++ [directory.text])).run t = .ok result s'.host ∧
      result.exitCode = 0 := by
  rw [generate, Steps.run_bind_of_ok (Running.run_report _ _)] at h
  obtain ⟨_, s₁, hp, h⟩ := Steps.run_bind_eq_ok.1 h
  obtain ⟨hhost, d, hd, rfl⟩ := Running.run_runDraft_eq_ok hp
  rw [htool, Steps.run_bind_of_ok (run_commandTool tool args),
    Steps.run_bind_of_ok (Running.run_report _ _)] at h
  obtain ⟨written, s₂, hsave, h⟩ := Steps.run_bind_eq_ok.1 h
  obtain ⟨_, s₃, hfinish, h⟩ := Steps.run_bind_eq_ok.1 h
  obtain ⟨rfl, rfl⟩ := Steps.run_pure_eq_ok.1 h
  cases hfinish
  obtain ⟨models, operations, hfiles, hmodels, hoperations⟩ := files_of_draftPackage hd
  obtain ⟨hpaths, runtime, t, result, hruntime, hsteps, hresult, hcode⟩ :=
    run_save_eq_ok (includes_of_draftPackage hd) hsave
  rw [hfiles] at hpaths hsteps
  have hrenders :
    ClientTexts.RendersPackage
    ⟨runtime, models.text profile.packageName, operations.text profile.packageName⟩
      profile.packageName d.package := by
    refine ⟨hruntime, fun hname => ?_, models, operations, hfiles, hmodels, hoperations, ?_, ?_⟩
    · exact Except.ok.inj (hruntime.symm.trans (renderInclude_runtimeText hname))
    · exact isRendering_of_draftPackage hd (by simp [hfiles]) _
    · exact isRendering_of_draftPackage hd (by simp [hfiles]) _
  refine ⟨_, t, result, ⟨d, hd, hrenders⟩, ?_, ?_, hresult, hcode⟩
  · simpa [hmodels, hoperations, ClientTexts.paths] using hpaths
  · simpa [hmodels, hoperations, ClientTexts.steps, sourceSteps, hhost] using hsteps

/-- A run that succeeds has read the document, and has written the texts of its client. -/
theorem run_generatePackage_eq_ok {paths : List Path}
    (h : (generatePackage host target profile source directory).run s = .ok paths s') :
    ∃ (api : Api.Model) (dir : Path) (tool : String) (args : List String) (texts : ClientTexts)
      (t : σ) (result : ToolResult), Document.load (host.sources s.host) none source = .ok api ∧
      directory = some dir ∧ profile.formatter = tool :: args ∧ texts.Renders profile api ∧
      paths = ClientTexts.paths dir ∧ (performAll host (texts.steps dir)).run s.host = .ok () t ∧
      (host.runTool tool (args ++ [dir.text])).run t = .ok result s'.host ∧
      result.exitCode = 0 := by
  rw [generatePackage] at h
  obtain ⟨_, _, htarget, h₁⟩ := Steps.run_bind_eq_ok.1 h
  obtain ⟨-, rfl⟩ := Running.run_orError_eq_ok.1 htarget
  obtain ⟨_, _, htools, h₂⟩ := Steps.run_bind_eq_ok.1 h₁
  obtain ⟨rfl, tool, args, htool⟩ := run_checkTools_eq_ok htools
  obtain ⟨api, s₁, hapi, h₃⟩ := Steps.run_bind_eq_ok.1 h₂
  obtain ⟨hhost, hload⟩ := run_loadModel_eq_ok hapi
  obtain ⟨dir, _, hdir, h₄⟩ := Steps.run_bind_eq_ok.1 h₃
  obtain ⟨rfl, rfl⟩ := Running.run_needed_eq_ok.1 hdir
  obtain ⟨written, s₂, hgenerate, h₅⟩ := Steps.run_bind_eq_ok.1 h₄
  rw [Steps.run_bind_of_ok (Running.run_log _ _)] at h₅
  obtain ⟨rfl, rfl⟩ := Steps.run_pure_eq_ok.1 h₅
  obtain ⟨texts, t, result, hrenders, hpaths, hsteps, hresult, hcode⟩ :=
    run_generate_eq_ok htool hgenerate
  rw [hhost] at hsteps
  exact ⟨api, dir, tool, args, texts, t, result, hload, rfl, htool, hrenders, hpaths, hsteps,
    hresult, hcode⟩

/-- A run succeeds if the target is known, the document can be loaded and drafted, the files can be
written, and the host does what it is asked to. -/
theorem exists_run_generatePackage_eq_ok {api : Api.Model} {dir : Path} {tool runtime : String}
    {args : List String} {d : Draft} {t h : σ} {result : ToolResult}
    (htarget : checkTarget target = .ok ()) (htool : profile.formatter = tool :: args)
    (hhas : host.hasTool tool = true)
    (hload : Document.load (host.sources s.host) none source = .ok api)
    (hdraft : (draftPackage profile.prefixDepth api).run ⟨Package.empty, []⟩ = .ok () d)
    (htext : renderInclude runtimeText profile.packageName = .ok runtime)
    (hdirectory : Document.isPathText dir.text = true)
    (hpath : Document.isPathText (pathIn dir runtimeName).text = true)
    (hfiles : ∀ f ∈ d.package.files, IsWritable dir profile.packageName f)
    (hwords : ∀ w ∈ tool :: args ++ [dir.text], Document.isPathText w = true)
    (hsteps : (performAll host ([.makeDirs dir, .writeFile (pathIn dir runtimeName) runtime] ++
      d.package.files.flatMap (sourceSteps dir profile.packageName))).run s.host = .ok () t)
    (hrun : (host.runTool tool (args ++ [dir.text])).run t = .ok result h)
    (houtput : (decodeText? result.output).isSome) (herrors : (decodeText? result.errors).isSome)
    (hcode : result.exitCode = 0) :
    ∃ paths s', (generatePackage host target profile source (some dir)).run s = .ok paths s' := by
  obtain ⟨c, hmodel⟩ := exists_run_loadModel_eq_ok hload
  have hgenerate : ∃ paths s', (generate host profile api dir).run ⟨s.host, c⟩ = .ok paths s' := by
    rw [generate, Steps.run_bind_of_ok (Running.run_report _ _)]
    obtain ⟨c', hdrafted⟩ := Running.exists_run_runDraft_eq_ok hdraft
      ⟨s.host, (Progress.idle.start (host.now s.host) "Generating Go code" c).2⟩
    rw [Steps.run_bind_of_ok hdrafted, htool, Steps.run_bind_of_ok (run_commandTool tool args),
      Steps.run_bind_of_ok (Running.run_report _ _)]
    obtain ⟨paths, s', hsave, -⟩ := exists_run_save_eq_ok
      (s := ⟨s.host, (((Progress.idle.start (host.now s.host) "Generating Go code" c).1.start
        (host.now s.host) ("Running " ++ tool)) c').2⟩)
      (includes_of_draftPackage hdraft) htext hdirectory hpath hfiles hwords hsteps hrun houtput
      herrors hcode
    rw [Steps.run_bind_of_ok hsave]
    exact ⟨_, _, rfl⟩
  obtain ⟨paths, s', hgenerate⟩ := hgenerate
  rw [generatePackage, Steps.run_bind_of_ok (Running.run_orError_eq_ok.2 ⟨htarget, rfl⟩),
    Steps.run_bind_of_ok (run_checkTools_of_hasTool htool hhas), Steps.run_bind_of_ok hmodel,
    Steps.run_bind_of_ok (Running.run_needed_eq_ok.2 ⟨rfl, rfl⟩), Steps.run_bind_of_ok hgenerate,
    Steps.run_bind_of_ok (Running.run_log _ _)]
  exact ⟨_, _, rfl⟩

/-! ### Reading the files again -/

/-- The names of the files of a client are plain. -/
theorem plainName_of_mem {name : String} (h : name ∈ [runtimeName, modelsPath, operationsPath]) :
    PlainName name := by
  simp only [List.mem_cons, List.not_mem_nil, or_false] at h
  rcases h with rfl | rfl | rfl <;> exact ⟨by decide, by decide, by decide⟩

/-- A file of a client that has been written into a tree holds its text, unless the path of a later
one leads to the same file. -/
theorem ClientTexts.readBytes_eq_ok {host : Host FileTree} (h : WorksOnTree host)
    {texts : ClientTexts} {directory : Path} {t t' : FileTree}
    (hrun : (performAll host (texts.steps directory)).run t = .ok () t')
    {before after : List (String × String)} {file : String × String}
    (hfiles : texts.files = before ++ file :: after)
    (hlater : ∀ later ∈ after, ¬t'.SameFile (pathIn directory file.1) (pathIn directory later.1)) :
    t'.readBytes (pathIn directory file.1) = .ok file.2.toUTF8 := by
  rw [ClientTexts.steps_eq, hfiles, List.flatMap_append, List.flatMap_cons, List.cons_append,
    List.singleton_append, List.append_cons] at hrun
  refine h.readBytes_eq_ok _ hrun fun place hplace q other hmem hq => ?_
  obtain ⟨later, hlatermem, hstep⟩ := List.mem_flatMap.1 hmem
  simp only [List.mem_cons, FileStep.writeFile.injEq, reduceCtorEq, false_or, List.not_mem_nil,
    or_false] at hstep
  obtain ⟨rfl, rfl⟩ := hstep
  exact hlater later hlatermem ⟨place, hplace, hq⟩

/-- The path of a file of a client leads to another file than that of a later one if no link has the
name of one. -/
theorem ClientTexts.not_sameFile_of_not_hasLink {texts : ClientTexts}
    {before after : List (String × String)} {file : String × String}
    (hfiles : texts.files = before ++ file :: after) {t : FileTree}
    (hlink : ∀ name ∈ [runtimeName, modelsPath, operationsPath], ¬t.HasLink name)
    (directory : String) :
    ∀ later ∈ after, ¬t.SameFile (pathIn (Path.ofText directory) file.1)
      (pathIn (Path.ofText directory) later.1) := by
  rintro later hlater ⟨place, hplace, hplace'⟩
  have hnames : before.map (·.1) ++ file.1 :: after.map (·.1) =
    [runtimeName, modelsPath, operationsPath] := by
    have hmap := congrArg (List.map (·.1)) hfiles
    rw [List.map_append, List.map_cons] at hmap
    exact hmap.symm
  have hnodup : (before.map (·.1) ++ file.1 :: after.map (·.1)).Nodup := hnames ▸ (by decide)
  have hmem : file.1 ∈ [runtimeName, modelsPath, operationsPath] := by simp [← hnames]
  have hmem' : later.1 ∈ [runtimeName, modelsPath, operationsPath] := by
    rw [← hnames]
    exact List.mem_append_right _ (List.mem_cons_of_mem _ (List.mem_map_of_mem hlater))
  have hlast := (plainName_of_mem hmem).getLast?_of_findPlace (hlink _ hmem) hplace
  have hlast' := (plainName_of_mem hmem').getLast?_of_findPlace (hlink _ hmem') hplace'
  have hsame : file.1 = later.1 := Option.some.inj (hlast.symm.trans hlast')
  have hcons := (List.nodup_append.1 hnodup).2.1
  exact (List.nodup_cons.1 hcons).1 (hsame ▸ List.mem_map_of_mem hlater)

/-- What comes of a run. One that ends with an error of an early kind leaves the host as it is,
whatever state the host keeps, so it has written nothing and has run nothing. One that succeeds has
written the texts of the client into its directory, one after the other, and then has run the
formatter once. In a tree of files, where tools leave the files alone, each file holds its text in
the end, unless the path of a later one leads to the same file through links. -/
theorem generatePackage_writes :
    (∀ {σ : Type} (host : Host σ) (target : String) (profile : Profile) (source : DocumentSource)
        (directory : Option Path) (s s' : Session σ) (e : Error),
      (generatePackage host target profile source directory).run s = .error (.error e) s' →
        (errorKind e).isEarly = true → s'.host = s.host) ∧
    (∀ {σ : Type} (host : Host σ) (target : String) (profile : Profile) (source : DocumentSource)
        (directory : Option Path) (s s' : Session σ) (paths : List Path),
      (generatePackage host target profile source directory).run s = .ok paths s' →
        ∃ (api : Api.Model) (dir : Path) (tool : String) (args : List String) (texts : ClientTexts)
          (t : σ) (result : ToolResult), Document.load (host.sources s.host) none source = .ok api ∧
          directory = some dir ∧ profile.formatter = tool :: args ∧ texts.Renders profile api ∧
          paths = ClientTexts.paths dir ∧
            (performAll host (texts.steps dir)).run s.host = .ok () t ∧
          (host.runTool tool (args ++ [dir.text])).run t = .ok result s'.host ∧
          result.exitCode = 0) ∧
    (∀ (host : Host FileTree) (target : String) (profile : Profile) (source : DocumentSource)
        (dir : Path) (s s' : Session FileTree) (paths : List Path), WorksOnTree host →
      (generatePackage host target profile source (some dir)).run s = .ok paths s' →
        ∃ (api : Api.Model) (texts : ClientTexts),
          Document.load (host.sources s.host) none source = .ok api ∧ texts.Renders profile api ∧
          paths = texts.files.map (fun file => pathIn dir file.1) ∧
          ∀ before file after, texts.files = before ++ file :: after →
            (∀ later ∈ after, ¬s'.host.SameFile (pathIn dir file.1) (pathIn dir later.1)) →
              s'.host.readBytes (pathIn dir file.1) = .ok file.2.toUTF8) := by
  refine ⟨fun host target profile source directory s s' e h hearly => ?_,
    fun host target profile source directory s s' paths => run_generatePackage_eq_ok,
    fun host target profile source dir s s' paths htree h => ?_⟩
  · rcases run_generatePackage_eq_error h with ⟨hhost, -⟩ | ⟨_, _, _, _, _, -, -, -, -, hunsaved⟩
    · exact hhost
    · rw [hunsaved.not_isEarly] at hearly
      cases hearly
  · obtain ⟨api, dir, tool, args, texts, t, result, hload, hdir, -, hrenders, rfl, hsteps, hresult,
      -⟩ :=
      run_generatePackage_eq_ok h
    cases hdir
    obtain rfl := htree.runTool _ _ _ _ _ hresult
    exact ⟨api, texts, hload, hrenders, rfl, fun _ _ _ hfiles hlater =>
      ClientTexts.readBytes_eq_ok htree hsteps hfiles hlater⟩

/-- Tools that are all there, say nothing, and change nothing. -/
def quietTools : Toolbox where
  has _ := true
  run t _ _ := .ok (⟨0, .empty, .empty⟩, t)

/-- A tree as a host with quiet tools, where no web address answers. -/
def quietHost : Host FileTree := treeHost Yaml.Outline.reader quietTools fun _ => none

/-- Quiet tools leave the files alone. -/
theorem worksOnTree_quietHost : WorksOnTree quietHost where
  makeDirs _ := rfl
  writeFile _ _ := rfl
  runTool _ _ _ _ _ h := by
    cases h
    rfl

/-- The names lead to places in the root where files can be written. -/
def IsReady (t : FileTree) (names : List String) : Prop :=
  t.workingDir = [] ∧ ∀ name ∈ names, ∃ place, t.findPlace true name = .ok place ∧
    t.IsFillable place

/-- The path of a file of a client in the root is its name. -/
theorem pathIn_root {name : String} (hname : name ∈ [runtimeName, modelsPath, operationsPath]) :
    pathIn (Path.ofText ".") name = ⟨"", [name]⟩ := by
  have hdirectory : Path.ofText "." = ⟨"", []⟩ := by decide
  rw [(plainName_of_mem hname).pathIn_eq, hdirectory]
  rfl

/-- A file can be written at a name that leads to a place for it, and the names lead to places for
files afterwards. -/
theorem IsReady.exists_write {t : FileTree} {names : List String} (h : IsReady t names)
    {name : String} (hname : name ∈ names) (content : ByteArray) :
    ∃ t', t.writeBytes ⟨"", [name]⟩ content = .ok t' ∧ IsReady t' names := by
  obtain ⟨hroot, hplaces⟩ := h
  obtain ⟨place, hplace, hfill⟩ := hplaces name hname
  obtain ⟨t', ht'⟩ := FileTree.exists_writeBytes_eq_ok (p := ⟨"", [name]⟩)
    (by rwa [PlainName.text_path]) hfill content
  refine ⟨t', ht', ?_⟩
  obtain ⟨written, -, hways, hfile, hsame⟩ := FileTree.writeBytes_eq_ok ht'
  refine ⟨hways.workingDir.trans hroot, fun m hm => ?_⟩
  obtain ⟨q, hq, hqfill⟩ := hplaces m hm
  refine ⟨q, hways.findPlace_eq_ok hq, ?_⟩
  by_cases heq : q = written
  · exact .inr ⟨content, heq ▸ hfile⟩
  · simp only [FileTree.IsFillable, FileTree.HasFile, hsame q heq]
    exact hqfill

/-- The texts of a client can be written where its names lead to places for files. -/
theorem exists_performAll_quietHost (texts : ClientTexts) {t : FileTree}
    (h : IsReady t [runtimeName, modelsPath, operationsPath]) :
    ∃ t', (performAll quietHost (texts.steps (Path.ofText "."))).run t = .ok () t' := by
  have hnames : ∀ file ∈ texts.files, file.1 ∈ [runtimeName, modelsPath, operationsPath] := by
    simp [ClientTexts.files]
  rw [ClientTexts.steps_eq]
  generalize texts.files = files at hnames
  induction files generalizing t with
  | nil => exact ⟨t, rfl⟩
  | cons file files ih =>
    obtain ⟨hfile, hrest⟩ := List.forall_mem_cons.1 hnames
    obtain ⟨t₁, hwrite, hready⟩ := h.exists_write hfile file.2.toUTF8
    obtain ⟨t', ht'⟩ := ih hready hrest
    rw [List.flatMap_cons, pathIn_root hfile]
    refine ⟨t', run_performAll_cons_eq_ok.2
      ⟨t, run_changeTree_eq_ok.2 (FileTree.makeDirs_workingDir h.1), ?_⟩⟩
    exact run_performAll_cons_eq_ok.2 ⟨t₁, run_changeTree_eq_ok.2 hwrite, ht'⟩

/-- A document with nothing but a title. -/
def titledDocument : DocumentSource := .entries [(.text "title", .text "T")]

/-- A document with two methods of one resource that have the same display name. -/
def ambiguousDocument : DocumentSource :=
  .entries [(.text "title", .text "T"),
    (.text "/items", .mapping [
      (.text "get", .mapping [(.text "displayName", .text "items")]),
      (.text "post", .mapping [(.text "displayName", .text "items")])])]

/-- A run on a tree, which works in the directory that is current there. -/
def runInTree (source : DocumentSource) (t : FileTree) :
    EStateM.Result Failure (Session FileTree) (List Path) :=
  (generatePackage quietHost "go" .default source (some (Path.ofText "."))).run ⟨t, .initial⟩

/-- The kind of the error with which a run ends, if it ends with one. -/
def errorKind? {α : Type} : EStateM.Result Failure (Session σ) α → Option ErrorKind
  | .error (.error e) _ => some (errorKind e)
  | _ => none

/-- A kind is that of an error. -/
theorem exists_of_errorKind? {α : Type} {result : EStateM.Result Failure (Session σ) α}
    {kind : ErrorKind} (h : errorKind? result = some kind) :
    ∃ e s', result = .error (.error e) s' ∧ errorKind e = kind := by
  cases result with
  | ok a s' => cases h
  | error f s' =>
    cases f with
    | defect d => cases h
    | error e => exact ⟨e, s', rfl, Option.some.inj h⟩

/-- The document with a title is drafted. All of its texts can be encoded, and no two are the
same. -/
theorem exists_draft_titledDocument (sources : Sources) : ∃ api d,
    Document.load sources none titledDocument = .ok api ∧
    (draftPackage (some 0) api).run ⟨Package.empty, []⟩ = .ok () d ∧
    (∀ f ∈ d.package.files, Text.isEncodable (f.text "client") = true) ∧
    (d.package.files.map fun f => f.text "client").Nodup := by
  have h : ((Document.load ⟨⟨[], []⟩, fun _ => none, fun _ _ => .fault .malformed⟩ none
      titledDocument).toOption.any fun api => Steps.passes
        (fun _ d => (d.package.files.all fun f => Text.isEncodable (f.text "client")) &&
          decide (d.package.files.map fun f => f.text "client").Nodup)
        (draftPackage (some 0) api) ⟨Package.empty, []⟩) = true := by decide +kernel
  obtain ⟨api, hload, hpasses⟩ := (Option.any_eq_true _ _).1 h
  obtain ⟨_, d, hdraft, htexts⟩ := Steps.exists_run_of_passes hpasses
  rw [Bool.and_eq_true, decide_eq_true_iff] at htexts
  exact ⟨api, d, Api.toOption_eq_some_iff.1 hload, hdraft, List.all_eq_true.1 htexts.1, htexts.2⟩

/-- A client of the document with a title is generated where its names lead to places for files. -/
theorem exists_runInTree_titledDocument {t : FileTree}
    (h : IsReady t [runtimeName, modelsPath, operationsPath]) :
    ∃ paths s', runInTree titledDocument t = .ok paths s' := by
  obtain ⟨api, d, hload, hdraft, hencodable, -⟩ := exists_draft_titledDocument (quietHost.sources t)
  obtain ⟨models, operations, hfiles, hmodels, hoperations⟩ := files_of_draftPackage hdraft
  obtain ⟨runtime, hruntime⟩ :=
    exists_renderInclude (by decide : '\\' ∉ "client".toList) runtimeText
  obtain ⟨t', ht'⟩ :=
    exists_performAll_quietHost ⟨runtime, models.text "client", operations.text "client"⟩ h
  have htarget : checkTarget "go" = .ok () := if_pos (by decide)
  have hpaths : ∀ name ∈ [modelsPath, operationsPath],
      Document.isPathText (pathIn (Path.ofText ".") name).parent.text = true ∧
      Document.isPathText (pathIn (Path.ofText ".") name).text = true := by decide
  have hfiles' (f : File) (hf : f ∈ d.package.files) : IsWritable (Path.ofText ".") "client" f := by
    have hpath : f.path ∈ [modelsPath, operationsPath] := by
      rw [hfiles] at hf
      simp only [List.mem_cons, List.not_mem_nil, or_false] at hf
      obtain rfl | rfl := hf <;> simp [hmodels, hoperations]
    exact ⟨(hpaths _ hpath).1, (hpaths _ hpath).2, hencodable f hf⟩
  have hsteps : (performAll quietHost ([.makeDirs (Path.ofText "."),
      .writeFile (pathIn (Path.ofText ".") runtimeName) runtime] ++
      d.package.files.flatMap (sourceSteps (Path.ofText ".") "client"))).run t = .ok () t' := by
    rw [hfiles]
    simpa [ClientTexts.steps, sourceSteps, hmodels, hoperations] using ht'
  exact exists_run_generatePackage_eq_ok htarget rfl rfl hload hdraft hruntime (by decide)
    (by decide) hfiles' (by decide) hsteps rfl rfl rfl rfl

/-- A tree in which the name of the file for the declared types is a link to the name of the file
for the operations. -/
def linkedTree : FileTree := ⟨[], [([modelsPath], .link operationsPath)]⟩

/-- In the tree with the link two of the names lead to one place. -/
theorem findPlace_linkedTree : linkedTree.findPlace true runtimeName = .ok [runtimeName] ∧
    linkedTree.findPlace true modelsPath = .ok [operationsPath] ∧
    linkedTree.findPlace true operationsPath = .ok [operationsPath] := by
  have hnone : linkedTree.node? [runtimeName] = none ∧ linkedTree.node? [operationsPath] = none :=
    ⟨rfl, rfl⟩
  refine ⟨?_, ?_, ?_⟩
  · exact (plainName_of_mem (by simp)).findPlace_eq_ok (by decide) rfl (by simp [hnone])
  · exact (plainName_of_mem (by simp)).findPlace_link (plainName_of_mem (by simp)) (by decide)
      (by decide) rfl rfl (by simp [hnone])
  · exact (plainName_of_mem (by simp)).findPlace_eq_ok (by decide) rfl (by simp [hnone])

/-- The names of a client lead to places in the tree with the link. -/
theorem isReady_linkedTree : IsReady linkedTree [runtimeName, modelsPath, operationsPath] := by
  obtain ⟨hruntime, hmodels, hoperations⟩ := findPlace_linkedTree
  refine ⟨rfl, fun name hname => ?_⟩
  simp only [List.mem_cons, List.not_mem_nil, or_false] at hname
  rcases hname with rfl | rfl | rfl
  · exact ⟨_, hruntime, .inl rfl⟩
  · exact ⟨_, hmodels, .inl rfl⟩
  · exact ⟨_, hoperations, .inl rfl⟩

/-- Not every run that succeeds leaves each file with its text: where one name of a client is a link
to another, both lead to the later text. -/
theorem not_writes_each_linked : ¬∀ (host : Host FileTree) (target : String) (profile : Profile)
    (source : DocumentSource) (dir : Path) (s s' : Session FileTree) (paths : List Path),
    WorksOnTree host →
    (generatePackage host target profile source (some dir)).run s = .ok paths s' →
      ∃ (api : Api.Model) (texts : ClientTexts),
        Document.load (host.sources s.host) none source = .ok api ∧ texts.Renders profile api ∧
        ∀ file ∈ texts.files, s'.host.readBytes (pathIn dir file.1) = .ok file.2.toUTF8 := by
  intro hall
  obtain ⟨paths, s', hrun⟩ := exists_runInTree_titledDocument isReady_linkedTree
  obtain ⟨_, _, _, _, _, _, _, -, -, -, -, -, hsteps, hresult, -⟩ := run_generatePackage_eq_ok hrun
  obtain rfl := worksOnTree_quietHost.runTool _ _ _ _ _ hresult
  obtain ⟨api, texts, hload, ⟨d, hdraft, hrenders⟩, hbytes⟩ :=
    hall _ _ _ _ _ _ _ _ worksOnTree_quietHost hrun
  have hways := worksOnTree_quietHost.keepsWays hsteps
  obtain ⟨-, hmodels, hoperations⟩ := findPlace_linkedTree
  have hsame : s'.host.SameFile (pathIn (Path.ofText ".") modelsPath)
    (pathIn (Path.ofText ".") operationsPath) := by
    refine ⟨[operationsPath], ?_, ?_⟩
    · rw [pathIn_root (by simp), PlainName.text_path]
      exact hways.findPlace_eq_ok hmodels
    · rw [pathIn_root (by simp), PlainName.text_path]
      exact hways.findPlace_eq_ok hoperations
  have hread := hbytes (modelsPath, texts.models) (by simp [ClientTexts.files])
  have hread' :=
    hsame.readBytes_eq_ok (hbytes (operationsPath, texts.operations) (by simp [ClientTexts.files]))
  have htexts : texts.models = texts.operations :=
    String.toByteArray_inj.1 (Except.ok.inj (hread.symm.trans hread'))
  obtain ⟨api', d', hload', hdraft', -, hnodup⟩ :=
    exists_draft_titledDocument (quietHost.sources linkedTree)
  obtain rfl : api' = api := Except.ok.inj (hload'.symm.trans hload)
  obtain rfl : d' = d := by
    cases hdraft'.symm.trans hdraft
    rfl
  obtain ⟨models, operations, hfiles, -, -, hmodels, hoperations⟩ := hrenders.sources
  have heq : models.text "client" = operations.text "client" :=
    (hmodels.eq_text.symm.trans htexts).trans hoperations.eq_text
  rw [hfiles, List.map_cons, List.map_cons, heq] at hnodup
  exact (List.nodup_cons.1 hnodup).1 List.mem_cons_self

/-- The names of a client lead to places in a tree in which nothing stands. -/
theorem isReady_empty : IsReady ⟨[], []⟩ [runtimeName, modelsPath, operationsPath] := by
  refine ⟨rfl, fun name hname => ⟨[name], ?_, .inl rfl⟩⟩
  have hshort : ∀ n ∈ [runtimeName, modelsPath, operationsPath],
      n.utf8ByteSize ≤ FileTree.maxNameBytes := by decide
  exact (plainName_of_mem hname).findPlace_eq_ok (hshort name hname) rfl nofun

/-- A name that is used twice ends a run when one method has been drafted, and nothing is written. A
document with nothing but a title gives three files, which can be read. -/
theorem generatePackage_writes_titled :
    (∃ e s', runInTree ambiguousDocument ⟨[], []⟩ = .error (.error e) s' ∧ s'.host.nodes = []) ∧
    ∃ paths s' texts, runInTree titledDocument ⟨[], []⟩ = .ok paths s' ∧
      paths = (ClientTexts.files texts).map (fun file => pathIn (Path.ofText ".") file.1) ∧
      paths.map s'.host.readBytes = (ClientTexts.files texts).map fun file =>
        .ok file.2.toUTF8 := by
  obtain ⟨hearly, hwritten, hread⟩ := generatePackage_writes
  constructor
  · obtain ⟨e, s', hrun, hkind⟩ := exists_of_errorKind?
      (by decide : errorKind? (runInTree ambiguousDocument ⟨[], []⟩) = some .unsupportedConstruct)
    have hhost := hearly _ _ _ _ _ _ _ _ hrun (by rw [hkind]; rfl)
    exact ⟨e, s', hrun, by rw [hhost]⟩
  · obtain ⟨paths, s', hrun⟩ := exists_runInTree_titledDocument isReady_empty
    obtain ⟨_, _, _, _, _, t, _, -, -, -, -, -, hsteps, hresult, -⟩ := hwritten _ _ _ _ _ _ _ _ hrun
    obtain rfl := worksOnTree_quietHost.runTool _ _ _ _ _ hresult
    have hlink (name : String) : ¬s'.host.HasLink name := by
      rintro ⟨place, target, hnode⟩
      have hnode := ((worksOnTree_quietHost.keepsWays hsteps).link _ _).1 hnode
      simp [FileTree.node?] at hnode
    obtain ⟨_, texts, -, -, hpaths, hbytes⟩ := hread _ _ _ _ _ _ _ _ worksOnTree_quietHost hrun
    refine ⟨paths, s', texts, hrun, hpaths, ?_⟩
    rw [hpaths, List.map_map]
    refine List.map_congr_left fun file hfile => ?_
    obtain ⟨before, after, hfiles⟩ := List.append_of_mem hfile
    exact hbytes before file after hfiles
      (ClientTexts.not_sameFile_of_not_hasLink hfiles (fun name _ => hlink name) _)

end RamlClient.Client
