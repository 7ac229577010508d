import Mathlib.Data.List.Infix
import RamlClient.Command.Run
import RamlClient.Proofs.AcceptedArguments
import RamlClient.Proofs.DocumentDefects
import RamlClient.Proofs.DraftFailures
import RamlClient.Proofs.Generation
/-!
# What the command reports

The command reports every error in one line and ends with code 1. It has no report for a defect: a
defect of the document, of the codes of its responses, or of the texts and paths that are written
ends it without an exit code.

Texts keep halves of characters as private characters. What is said here of halves is said of runs
in which these characters stand for nothing else: no text that a run starts from has one of them, or
spells one.
-/

namespace RamlClient

/-! ### Paths that are written -/

namespace Client

/-- The paths that saving a package works on can be paths if the directory can be one. -/
theorem isPathText_of_mem_touchedPaths {directory q : Path} {depth : Option Int} {api : Api.Model}
    {d : Draft} (hdraft : (draftPackage depth api).run ⟨Go.Package.empty, []⟩ = .ok () d)
    (hdirectory : Document.isPathText directory.text = true)
    (hq : q ∈ touchedPaths directory d.package) :
    Document.isPathText q.text = true := by
  obtain ⟨models, operations, hfiles, hmodels, hoperations⟩ := files_of_draftPackage hdraft
  have hin (name : String) (hname : name ∈ [runtimeName, modelsPath, operationsPath]) :
      Document.isPathText (pathIn directory name).text = true ∧
      Document.isPathText (pathIn directory name).parent.text = true := by
    have hnul : '\x00' ∉ name.toList := by
      have hall : ∀ n ∈ [runtimeName, modelsPath, operationsPath], '\x00' ∉ n.toList := by decide
      exact hall name hname
    rw [(plainName_of_mem hname).pathIn_eq]
    rw [Path.isPathText_text_iff] at hdirectory
    constructor
    · rw [Path.isPathText_text_iff]
      refine ⟨hdirectory.1, fun part hpart => ?_⟩
      rcases List.mem_append.1 hpart with hpart | hpart
      · exact hdirectory.2 part hpart
      · obtain rfl := List.mem_singleton.1 hpart
        exact hnul
    · rw [Path.parent, Path.isPathText_text_iff, List.dropLast_concat]
      exact hdirectory
  simp only [touchedPaths, includes_of_draftPackage hdraft, hfiles, List.map_cons, List.map_nil,
    List.flatMap_cons, List.flatMap_nil, hmodels, hoperations, List.mem_cons, List.mem_append,
    List.not_mem_nil, or_false, includeTarget] at hq
  rcases hq with rfl | rfl | (rfl | rfl) | rfl | rfl
  · exact hdirectory
  · exact (hin runtimeName (by simp)).1
  · exact (hin modelsPath (by simp)).2
  · exact (hin modelsPath (by simp)).1
  · exact (hin operationsPath (by simp)).2
  · exact (hin operationsPath (by simp)).1

/-- What is run for its effect fails as it does. -/
theorem Running.run_discard_eq_error {σ α : Type} {x : Running σ α} {s s' : Session σ}
    {f : Failure} :
    (discard x).run s = .error f s' ↔ x.run s = .error f s' := by
  cases hx : x.run s <;> simp_all [discard, Functor.mapConst, EStateM.run, EStateM.map]

end Client

namespace Command

open Client

variable {σ : Type} {host : Host σ} {args : List String} {a : Arguments} {s s' : Session σ}

/-! ### Texts that a run starts from -/

/-- The escapes that spell the characters for halves in YAML, up to the digits that tell which
one. -/
def halfEscapes : List String :=
  ["\\U0010d", "\\U0010D"].flatMap fun start =>
    "89abcdefABCDEF".toList.map fun digit => start ++ String.singleton digit

/-- A text leaves the characters for halves alone: it neither has one nor spells one. -/
structure LeavesHalves (s : String) : Prop where
  /-- The text has none of the characters. -/
  chars : Text.isEncodable s = true
  /-- The text has none of the escapes. -/
  escapes : ∀ e ∈ halfEscapes, ¬e.toList <:+: s.toList

/-- A text that a run starts from. -/
inductive IsInput (host : Host σ) (args : List String) (state : σ) (s : String) : Prop where
  /-- An argument. -/
  | argument (h : s ∈ args)
  /-- The text of a file, or of a web address. -/
  | text (h : (host.sources state).HasText s)
  /-- The content of a link. -/
  | link {place : List String} (h : (host.sources state).files.node? place = some (.link s))
  /-- A name on the way to the working directory. -/
  | directory (h : s ∈ (host.sources state).files.workingDir)

/-! ### Defects without a report -/

/-- Why the command has no report for a run as some arguments ask, on a host in a state. -/
inductive Unreported (host : Host σ) (args : List String) (a : Arguments) (state : σ) :
    Defect → Prop where
  /-- An option is blank. -/
  | blank (h : a.target = none ∨ a.output = none ∨ a.prefixDepth = none) :
    Unreported host args a state .missingOptionValue
  /-- The document is a defect. -/
  | document {d : Defect} (h : Document.LocationDefect (host.sources state) a.spec d) :
    Unreported host args a state d
  /-- The code of a response has no value. -/
  | code {api : Api.Model} {o : Api.Resource × Api.Method} {r : Api.Response}
    (hload : Document.load (host.sources state) none (.location a.spec) = .ok api)
    (ho : o ∈ api.operations) (hr : r ∈ o.2.responses)
    (h : r.isSuccess = .error .malformedNumeral) :
    Unreported host args a state .malformedNumeral
  /-- The directory cannot be a path. -/
  | directory {dir : Path} (hdir : a.output = some dir) (h : Document.isPathText dir.text = false) :
    Unreported host args a state .malformedPath
  /-- A word of the formatter cannot be passed on. -/
  | word {words : List String} {w : String} (hwords : Text.shellWords a.formatter = .ok words)
    (hw : w ∈ words) (h : Document.isPathText w = false) :
    Unreported host args a state .malformedPath
  /-- The text of a file has a half of a character, which an escape has written. -/
  | encoding {api : Api.Model} {d : Draft} {f : Go.File} {c : Char}
    (hload : Document.load (host.sources state) none (.location a.spec) = .ok api)
    (hdraft : (draftPackage a.prefixDepth api).run ⟨Go.Package.empty, []⟩ = .ok () d)
    (hf : f ∈ d.package.files) (hc : c ∈ (f.text a.packageName).toList)
    (hhalf : Text.isHalf c = true)
    (hwritten : ∀ s, IsInput host args state s → c ∉ s.toList) :
    Unreported host args a state .halfCharacter
  /-- What the formatter writes is no text. -/
  | output {tool : String} {words : List String} {dir : Path} {h h' : σ} {result : ToolResult}
    (hwords : Text.shellWords a.formatter = .ok (tool :: words)) (hdir : a.output = some dir)
    (hrun : (host.runTool tool (words ++ [dir.text])).run h = .ok result h')
    (htext : decodeText? result.output = none ∨ decodeText? result.errors = none) :
    Unreported host args a state .notUtf8

/-- A defect before anything is written has no report. -/
theorem unreported_of_unready {target tool : String} {words : List String} {state : σ} {d : Defect}
    (h : Unready host target ⟨a.packageName, a.prefixDepth, tool :: words⟩ (.location a.spec)
      a.output state (.defect d)) : Unreported host args a state d := by
  cases h with
  | command h => cases h
  | document h => exact .document (Document.locationDefect_of_load h)
  | directory h => exact .blank (.inr (.inl h))
  | draft hload hdraft =>
    obtain ⟨e, he⟩ | ⟨o, ho, d', hd', hoperation⟩ := failsAs_draftPackage _ _ _ _ _ hdraft
    · cases he
    · cases hd'
      cases hoperation with
      | depth h => exact .blank (.inr (.inr h))
      | code hr h => exact .code hload ho hr h

/-- A defect while a package is saved has no report. -/
theorem unreported_of_unsaved {api : Api.Model} {dir : Path} {tool : String} {words : List String}
    {state : σ} {draft : Draft} {d : Defect}
    (hleaves : ∀ s, IsInput host args state s → LeavesHalves s)
    (hpackage : isPackageName a.packageName = true)
    (hwords : Text.shellWords a.formatter = .ok (tool :: words)) (hdir : a.output = some dir)
    (hload : Document.load (host.sources state) none (.location a.spec) = .ok api)
    (hdraft : (draftPackage a.prefixDepth api).run ⟨Go.Package.empty, []⟩ = .ok () draft)
    (h : Unsaved host dir a.packageName tool words draft.package (.defect d)) :
    Unreported host args a state d := by
  cases h with
  | path hq h =>
    refine .directory hdir ?_
    by_contra hpath
    rw [isPathText_of_mem_touchedPaths hdraft (by simpa using hpath) hq] at h
    cases h
  | clause hmem h =>
    obtain ⟨text, htext⟩ := Go.exists_renderInclude (notMem_of_isPackageName hpackage) _
    rw [htext] at h
    cases h
  | encoding hf h =>
    rw [Text.isEncodable, Bool.not_eq_false', List.any_eq_true] at h
    obtain ⟨c, hc, hhalf⟩ := h
    refine .encoding hload hdraft hf hc hhalf fun s hs hmem => ?_
    have hnone := (hleaves s hs).chars
    rw [Text.isEncodable, Bool.not_eq_true', List.any_eq_false] at hnone
    exact hnone c hmem hhalf
  | word hw h =>
    rcases List.mem_append.1 hw with hw | hw
    · exact .word hwords hw h
    · obtain rfl := List.mem_singleton.1 hw
      exact .directory hdir h
  | output hrun htext => exact .output hwords hdir hrun htext

/-! ### Runs -/

/-- A run as accepted arguments ask generates the package for their target. -/
theorem run_generateAs {target tool : String} {words : List String}
    (hoptions : Profile.ofOptions (some a.packageName) a.prefixDepth (some a.formatter) =
      .ok ⟨a.packageName, a.prefixDepth <|> Profile.default.prefixDepth, tool :: words⟩)
    (htarget : a.target = some target) :
    (generateAs host a).run s = (discard (generatePackage host target
      ⟨a.packageName, a.prefixDepth, tool :: words⟩ (.location a.spec) a.output)).run
        { s with console := s.console.configure a.verbose a.quiet } := by
  rw [generateAs, Steps.run_bind_of_ok (rfl : (modify _ : Running σ Unit).run s = .ok () _),
    Steps.run_bind_of_ok (Running.run_orDefect_eq_ok.2 ⟨hoptions, rfl⟩),
    Steps.run_bind_of_ok (Running.run_needed_eq_ok.2 ⟨htarget, rfl⟩)]

/-- Without a language the option for it is missing. -/
theorem run_generateAs_of_blank {profile : Profile}
    (hoptions : Profile.ofOptions (some a.packageName) a.prefixDepth (some a.formatter) =
      .ok profile)
    (htarget : a.target = none) :
    (generateAs host a).run s = .error (.defect .missingOptionValue)
      { s with console := s.console.configure a.verbose a.quiet } := by
  rw [generateAs, Steps.run_bind_of_ok (rfl : (modify _ : Running σ Unit).run s = .ok () _),
    Steps.run_bind_of_ok (Running.run_orDefect_eq_ok.2 ⟨hoptions, rfl⟩), htarget]
  rfl

/-- A run that ends with a defect has one without a report. -/
theorem unreported_of_generateAs (h : Arguments.parse args = .ok a)
    (hleaves : ∀ t, IsInput host args s.host t → LeavesHalves t) {d : Defect}
    (hrun : (generateAs host a).run s = .error (.defect d) s') :
    Unreported host args a s.host d := by
  obtain ⟨tool, words, hwords, hoptions⟩ := ofOptions_of_parse h
  cases htarget : a.target with
  | none =>
    rw [run_generateAs_of_blank hoptions htarget] at hrun
    cases hrun
    exact .blank (.inl htarget)
  | some target =>
    rw [run_generateAs hoptions htarget, Running.run_discard_eq_error] at hrun
    rcases run_generatePackage_eq_error hrun with ⟨-, hunready⟩ | ⟨api, dir, tool', words', draft,
      hload, hdir, htool, hdraft, hunsaved⟩
    · exact unreported_of_unready hunready
    · cases htool
      exact unreported_of_unsaved hleaves (checked_of_parse h).1 hwords hdir hload hdraft hunsaved

/-- The command does what its arguments ask, and reports an error. -/
theorem run_eq (h : Arguments.parse args = .ok a) : (run host args).run s =
    match (generateAs host a).run s with
    | .ok _ t => .ok ⟨0, ""⟩ t
    | .error (.error e) t =>
      .ok ⟨1, ""⟩ { t with console := t.console.print ("error: " ++ e.message) }
    | .error (.defect d) t => .error (.defect d) t := by
  rw [run, h]
  change (tryCatch (generateAs host a >>= fun _ => pure ⟨0, ""⟩) _ : Running σ Outcome).run s = _
  simp only [tryCatch, tryCatchThe, MonadExceptOf.tryCatch, EStateM.tryCatch, EStateM.run, bind,
    EStateM.bind]
  cases generateAs host a s with
  | ok u t => rfl
  | error f t => cases f <;> rfl

/-- A run of the command reports how it has gone: it ends with code 0 if all went well, and else
with code 1 after one line about the error. -/
inductive Reports (host : Host σ) (args : List String) (a : Arguments) (s : Session σ) : Prop where
  /-- All went well. -/
  | done {t : Session σ} (h : (generateAs host a).run s = .ok () t)
    (hrun : (run host args).run s = .ok ⟨0, ""⟩ t) : Reports host args a s
  /-- There is an error. -/
  | error {e : Error} {t : Session σ} (h : (generateAs host a).run s = .error (.error e) t)
    (hrun : (run host args).run s =
      .ok ⟨1, ""⟩ { t with console := t.console.print ("error: " ++ e.message) }) :
      Reports host args a s

/-- A run that fails has no exit code. -/
theorem not_reports_of_error {f : Failure} (h : (run host args).run s = .error f s') :
    ¬Reports host args a s := by
  rintro (⟨-, hrun⟩ | ⟨-, hrun⟩) <;> exact absurd (h.symm.trans hrun) nofun

/-- A document that is a defect ends a run, unless something is wrong before the document is
read. -/
theorem exists_run_eq_defect {target tool : String} {words : List String} {d : Defect}
    (h : Arguments.parse args = .ok a) (htarget : a.target = some target)
    (hknown : checkTarget target = .ok ())
    (hwords : Text.shellWords a.formatter = .ok (tool :: words)) (htool : host.hasTool tool = true)
    (hload : Document.load (host.sources s.host) none (.location a.spec) = .error (.defect d)) :
    ∃ s', (run host args).run s = .error (.defect d) s' ∧ s'.host = s.host := by
  obtain ⟨tool', words', hwords', hoptions⟩ := ofOptions_of_parse h
  cases hwords.symm.trans hwords'
  have hgenerate : (generateAs host a).run s = .error (.defect d)
      { s with console := s.console.configure a.verbose a.quiet } := by
    rw [run_generateAs hoptions htarget, Running.run_discard_eq_error, generatePackage,
      Steps.run_bind_of_ok (Running.run_orError_eq_ok.2 ⟨hknown, rfl⟩),
      Steps.run_bind_of_ok (run_checkTools_of_hasTool rfl htool)]
    exact Steps.run_bind_of_error (run_loadModel_of_error hload)
  refine ⟨{ s with console := s.console.configure a.verbose a.quiet }, ?_, rfl⟩
  rw [run_eq h, hgenerate]

/-- What comes of a run whose arguments are accepted, whatever is on the host and however it reads
YAML. It reports how it has gone, or it ends with a defect of a cause that has no report. A defect
of the document always ends it, before anything is written, if the target is known and the formatter
is there. -/
theorem run_reports {σ : Type} (host : Host σ) (args : List String) (a : Arguments) (s : Session σ)
    (h : Arguments.parse args = .ok a)
    (hleaves : ∀ t, IsInput host args s.host t → LeavesHalves t) :
    (Reports host args a s ∨
      ∃ d s', (run host args).run s = .error (.defect d) s' ∧ Unreported host args a s.host d) ∧
    ∀ target tool words d, a.target = some target → checkTarget target = .ok () →
      Text.shellWords a.formatter = .ok (tool :: words) → host.hasTool tool = true →
      Document.load (host.sources s.host) none (.location a.spec) = .error (.defect d) →
        ∃ s', (run host args).run s = .error (.defect d) s' ∧ s'.host = s.host := by
  refine ⟨?_, fun target tool words d => exists_run_eq_defect h⟩
  have hrun : (run host args).run s = _ := run_eq h
  cases hgenerate : (generateAs host a).run s with
  | ok u t =>
    rw [hgenerate] at hrun
    exact .inl (.done hgenerate hrun)
  | error f t =>
    rw [hgenerate] at hrun
    cases f with
    | error e => exact .inl (.error hgenerate hrun)
    | defect d => exact .inr ⟨d, t, hrun, unreported_of_generateAs h hleaves hgenerate⟩

/-- Arguments for a document. -/
def argumentsFor (spec : String) : List String :=
  [spec, "-t", "go", "-o", "out", "--formatter", "true"]

/-- What the arguments for a document ask for. -/
def askedFor (spec : String) : Arguments :=
  ⟨spec, some "go", some ⟨"", ["out"]⟩, "client", some 0, "true", false, false⟩

instance (s : String) : Decidable (LeavesHalves s) :=
  decidable_of_iff (Text.isEncodable s = true ∧ ∀ e ∈ halfEscapes, ¬e.toList <:+: s.toList)
    ⟨fun h => ⟨h.1, h.2⟩, fun h => ⟨h.chars, h.escapes⟩⟩

/-- A run on a tree in which nothing stands starts from its arguments only. -/
theorem leavesHalves_argumentsFor {spec : String} (h : ∀ t ∈ argumentsFor spec, LeavesHalves t) :
    ∀ t, IsInput quietHost (argumentsFor spec) ⟨[], []⟩ t → LeavesHalves t := by
  have hnodes (place : List String) : ∀ node, (⟨[], []⟩ : FileTree).node? place = some node →
    node = .dir := by
    intro node hnode
    rw [FileTree.node?] at hnode
    split at hnode <;> cases hnode
    rfl
  intro t ht
  cases ht with
  | argument ht => exact h t ht
  | text ht =>
    cases ht with
    | file hnode => cases hnodes _ _ hnode
    | web hfetch => cases hfetch
  | link hnode => cases hnodes _ _ hnode
  | directory ht => cases ht

/-- A web address that does not answer is reported. One whose host cannot be a host is not. -/
theorem run_reports_address :
    Reports quietHost (argumentsFor "http://x") (askedFor "http://x") ⟨⟨[], []⟩, .initial⟩ ∧
    ∃ s', (run quietHost (argumentsFor "http://[x")).run ⟨⟨[], []⟩, .initial⟩ =
      .error (.defect .malformedUrl) s' ∧ s'.host = ⟨[], []⟩ := by
  constructor
  · have hcode : Steps.passes (fun outcome _ => outcome.exitCode == 1)
        (run quietHost (argumentsFor "http://x")) ⟨⟨[], []⟩, .initial⟩ = true := by decide +kernel
    refine (run_reports _ _ _ _ (by rfl)
      (leavesHalves_argumentsFor (by decide +kernel))).1.resolve_right ?_
    rintro ⟨d, s', hrun, -⟩
    obtain ⟨_, _, hreport, -⟩ := Steps.exists_run_of_passes hcode
    rw [hrun] at hreport
    cases hreport
  · have hload : Document.load (quietHost.sources ⟨[], []⟩) none (.location "http://[x") =
        .error (.defect .malformedUrl) := by rfl
    exact (run_reports quietHost (argumentsFor "http://[x") (askedFor "http://[x")
      ⟨⟨[], []⟩, .initial⟩ (by rfl) (leavesHalves_argumentsFor (by decide +kernel))).2 "go" "true"
        [] _ rfl (by rfl) (by rfl) rfl hload

/-- A tree with a document that is no text: its only byte is not UTF-8. -/
def bytesTree : FileTree := ⟨[], [(["api.raml"], .file ⟨#[0xff]⟩ false)]⟩

/-- Not every run reports how it has gone: one on a document that is no text ends without an exit
code. -/
theorem not_reports_bytes : ¬∀ (host : Host FileTree) (args : List String) (a : Arguments)
    (s : Session FileTree), Arguments.parse args = .ok a → Reports host args a s := by
  intro hall
  have hname : PlainName "api.raml" := ⟨by decide, by decide, by decide⟩
  have hplace : bytesTree.findPlace true (⟨"", ["api.raml"]⟩ : Path).text = .ok ["api.raml"] := by
    rw [PlainName.text_path]
    exact hname.findPlace_eq_ok (by decide) rfl nofun
  have hbytes : bytesTree.readBytes (Path.ofText "api.raml") = .ok ⟨#[0xff]⟩ := by
    rw [hname.ofText]
    exact FileTree.readBytes_of_hasFile hplace ⟨false, rfl⟩
  have hload : Document.load (quietHost.sources bytesTree) none (.location "api.raml") =
      .error (.defect .notUtf8) :=
    Document.load_of_decodeText?_eq_none (by rfl) (by decide) hbytes (by decide)
  have hwords : Text.shellWords "true" = .ok ["true"] := by rfl
  have hparse : Arguments.parse (argumentsFor "api.raml") = .ok (askedFor "api.raml") := by rfl
  have hrun : ∃ s', (run quietHost (argumentsFor "api.raml")).run ⟨bytesTree, .initial⟩ =
      .error (.defect .notUtf8) s' ∧ s'.host = bytesTree :=
    exists_run_eq_defect hparse rfl (by rfl : checkTarget "go" = .ok ()) hwords rfl hload
  obtain ⟨s', hrun, -⟩ := hrun
  exact not_reports_of_error hrun (hall _ _ _ _ hparse)

end Command

end RamlClient
