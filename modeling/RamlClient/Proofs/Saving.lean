import RamlClient.Proofs.Running
/-!
# Saving a package

What saving a package does on its host: a row of operations on files, and the formatter after them.
-/

namespace RamlClient.Client

open Go

/-! ### Operations on files -/

/-- An operation that changes the files of a host. -/
inductive FileStep where
  /-- Makes a directory and those on the way to it. -/
  | makeDirs (path : Path)
  /-- Writes a file. -/
  | writeFile (path : Path) (text : String)

variable {σ : Type}

/-- Does an operation on a host. -/
def FileStep.perform (host : Host σ) : FileStep → EStateM Fault σ Unit
  | .makeDirs path => host.makeDirs path
  | .writeFile path text => host.writeFile path text

/-- Does operations one after another. -/
def performAll (host : Host σ) : List FileStep → EStateM Fault σ Unit
  | [] => pure ()
  | step :: steps => do
    step.perform host
    performAll host steps

/-- No operations change nothing. -/
theorem run_performAll_nil (host : Host σ) (h : σ) : (performAll host []).run h = .ok () h := rfl

/-- Operations succeed if the first one does and then the others. -/
theorem run_performAll_cons_eq_ok {host : Host σ} {step : FileStep} {steps : List FileStep}
    {h h' : σ} :
    (performAll host (step :: steps)).run h = .ok () h' ↔
      ∃ t, (step.perform host).run h = .ok () t ∧ (performAll host steps).run t = .ok () h' := by
  rw [performAll, Steps.run_bind_eq_ok]
  exact ⟨fun ⟨_, t, ht, hrest⟩ => ⟨t, ht, hrest⟩, fun ⟨t, ht, hrest⟩ => ⟨(), t, ht, hrest⟩⟩

/-- Operations can be done in two portions. -/
theorem run_performAll_append_eq_ok {host : Host σ} {steps rest : List FileStep} {h h' : σ} :
    (performAll host (steps ++ rest)).run h = .ok () h' ↔
      ∃ t, (performAll host steps).run h = .ok () t ∧ (performAll host rest).run t = .ok () h' := by
  induction steps generalizing h with
  | nil => simp [run_performAll_nil]
  | cons step steps ih =>
    simp only [List.cons_append, run_performAll_cons_eq_ok, ih]
    constructor
    · rintro ⟨t, ht, t', ht', hrest⟩
      exact ⟨t', ⟨t, ht, ht'⟩, hrest⟩
    · rintro ⟨t', ⟨t, ht, ht'⟩, hrest⟩
      exact ⟨t, ht, t', ht', hrest⟩

/-- The path that a name has in a directory. -/
def pathIn (directory : Path) (name : String) : Path := directory ++ Path.ofText name

/-- The operations that write a source file of a package. -/
def sourceSteps (directory : Path) (package : String) (f : File) : List FileStep :=
  [.makeDirs (pathIn directory f.path).parent,
    .writeFile (pathIn directory f.path) (f.text package)]

/-! ### Files -/

section

variable {host : Host σ} {directory : Path} {package : String} {s s' : Session σ}

/-- The check of a path passes if the text can be one. -/
theorem run_requirePath_eq_ok {p : Path} {u : Unit} :
    (requirePath p).run s = .ok u s' ↔ Document.isPathText p.text = true ∧ s = s' := by
  rw [requirePath]
  split
  · simp [*]
  · simp [*]

/-- The check of a path fails with a defect if the text cannot be one. -/
theorem run_requirePath_eq_error {p : Path} {f : Failure} :
    (requirePath p).run s = .error f s' ↔
      Document.isPathText p.text = false ∧ .defect .malformedPath = f ∧ s = s' := by
  rw [requirePath]
  split
  · simp [*]
  · rename_i hp
    have h : (throw (.defect .malformedPath) : Running σ Unit).run s =
      .error (.defect .malformedPath) s := rfl
    simp [hp, h]

/-- What follows the check of a path runs only if the path can be one. -/
theorem run_requirePath_bind_eq_ok {α : Type} {p : Path} {next : Unit → Running σ α} {a : α}
    (h : (requirePath p >>= next).run s = .ok a s') :
    Document.isPathText p.text = true ∧ (next ()).run s = .ok a s' := by
  obtain ⟨_, _, hpath, h⟩ := Steps.run_bind_eq_ok.1 h
  obtain ⟨hp, rfl⟩ := run_requirePath_eq_ok.1 hpath
  exact ⟨hp, h⟩

/-- The check of a path does not fail for a fault of the host. -/
theorem run_requirePath_bind_eq_write {α : Type} {p : Path} {next : Unit → Running σ α} {d : String}
    {fault : Fault} (h : (requirePath p >>= next).run s = .error (.error (.write d fault)) s') :
    (next ()).run s = .error (.error (.write d fault)) s' := by
  rcases Steps.run_bind_eq_error.1 h with h | ⟨_, _, hpath, h⟩
  · obtain ⟨-, hfailure, -⟩ := run_requirePath_eq_error.1 h
    cases hfailure
  · obtain ⟨-, rfl⟩ := run_requirePath_eq_ok.1 hpath
    exact h

/-- A fault while writing is that of an operation or one of what follows it. -/
theorem run_onHost_bind_eq_write {α β : Type} {x : EStateM Fault σ β} {next : β → Running σ α}
    {d : String} {fault : Fault}
    (h : (Running.onHost x (writeFailure directory) >>= next).run s = .error
      (.error (.write d fault)) s') :
    (d = directory.text ∧ ∃ t, x.run s.host = .error fault t ∧ s' = { s with host := t }) ∨
      ∃ b t, x.run s.host = .ok b t ∧
        (next b).run { s with host := t } = .error (.error (.write d fault)) s' := by
  rcases Steps.run_bind_eq_error.1 h with h | ⟨b, _, hrun, h⟩
  · obtain ⟨fault', t, ht, hfailure, rfl⟩ := Running.run_onHost_eq_error.1 h
    cases hfailure
    exact .inl ⟨rfl, t, ht, rfl⟩
  · obtain ⟨t, ht, rfl⟩ := Running.run_onHost_eq_ok.1 hrun
    exact .inr ⟨b, t, ht, h⟩

/-- A text that is copied is written with the package clause of the package. -/
theorem run_writeInclude_text_eq_ok {name content : String} {path : Path}
    (h : (writeInclude host directory package (.text name content)).run s = .ok path s') :
    path = pathIn directory name ∧ ∃ text, renderInclude content package = .ok text ∧
      (performAll host [.writeFile (pathIn directory name) text]).run s.host = .ok () s'.host := by
  simp only [writeInclude, Steps.run_bind_eq_ok, includeText, Steps.run_pure_eq_ok,
    Running.run_orDefect_eq_ok, run_requirePath_eq_ok, Running.run_onHost_eq_ok] at h
  obtain ⟨_, _, ⟨rfl, rfl⟩, text, _, ⟨htext, rfl⟩, _, _, ⟨-, rfl⟩, _, _, ⟨t, ht, rfl⟩, rfl, rfl⟩ :=
    h
  exact ⟨rfl, text, htext, run_performAll_cons_eq_ok.2 ⟨t, ht, rfl⟩⟩

/-- A text that can be rendered and written is copied. -/
theorem run_writeInclude_text_of_ok {name content text : String} {h : σ}
    (htext : renderInclude content package = .ok text)
    (hpath : Document.isPathText (pathIn directory name).text = true)
    (hwrite : (host.writeFile (pathIn directory name) text).run s.host = .ok () h) :
    (writeInclude host directory package (.text name content)).run s =
      .ok (pathIn directory name) { s with host := h } := by
  simp only [writeInclude, Steps.run_bind_eq_ok, includeText, Steps.run_pure_eq_ok,
    Running.run_orDefect_eq_ok, run_requirePath_eq_ok, Running.run_onHost_eq_ok]
  exact ⟨content, s, ⟨rfl, rfl⟩, text, s, ⟨htext, rfl⟩, (), s, ⟨hpath, rfl⟩, (), _,
    ⟨h, hwrite, rfl⟩, rfl, rfl⟩

/-- A source file can be written: its path can be one, and its text can be encoded. -/
structure IsWritable (directory : Path) (package : String) (f : File) : Prop where
  /-- The path of its directory can be one. -/
  parent : Document.isPathText (pathIn directory f.path).parent.text = true
  /-- Its path can be one. -/
  path : Document.isPathText (pathIn directory f.path).text = true
  /-- Its text can be encoded. -/
  text : Text.isEncodable (f.text package) = true

/-- A source file is written with its whole text, in a directory that is there. -/
theorem run_writeFile_eq_ok {f : File} {path : Path}
    (h : (writeFile host directory package f).run s = .ok path s') :
    path = pathIn directory f.path ∧
      (performAll host (sourceSteps directory package f)).run s.host = .ok () s'.host := by
  simp only [writeFile, Steps.run_bind_eq_ok, run_requirePath_eq_ok, Running.run_onHost_eq_ok] at h
  obtain ⟨_, _, ⟨-, rfl⟩, _, _, ⟨t, ht, rfl⟩, _, _, ⟨-, rfl⟩, _, _, ⟨t', ht', rfl⟩, h⟩ := h
  split at h
  · exact absurd h nofun
  · rename_i hencodable
    rw [Bool.not_eq_true, Bool.not_eq_false'] at hencodable
    rw [if_pos hencodable] at ht'
    obtain ⟨rfl, rfl⟩ := Steps.run_pure_eq_ok.1 h
    exact ⟨rfl, run_performAll_cons_eq_ok.2 ⟨t, ht, run_performAll_cons_eq_ok.2 ⟨t', ht', rfl⟩⟩⟩

/-- A source file whose operations succeed is written. -/
theorem run_writeFile_of_ok {f : File} {h : σ} (hf : IsWritable directory package f)
    (hsteps : (performAll host (sourceSteps directory package f)).run s.host = .ok () h) :
    (writeFile host directory package f).run s = .ok (pathIn directory f.path) { s with host :=
      h } := by
  obtain ⟨t, hdirs, hrest⟩ := run_performAll_cons_eq_ok.1 hsteps
  obtain ⟨_, hwrite, hnil⟩ := run_performAll_cons_eq_ok.1 hrest
  cases hnil
  simp only [writeFile, hf.text, Bool.not_true, Bool.false_eq_true, if_false, if_true,
    Steps.run_bind_eq_ok, run_requirePath_eq_ok, Running.run_onHost_eq_ok]
  exact ⟨(), s, ⟨hf.parent, rfl⟩, (), _, ⟨t, hdirs, rfl⟩, (), _, ⟨hf.path, rfl⟩, (), _,
    ⟨h, hwrite, rfl⟩, rfl⟩

/-- Source files are written one after another. -/
theorem run_mapM_writeFile_eq_ok {files : List File} {paths : List Path}
    (h : (files.mapM (writeFile host directory package)).run s = .ok paths s') :
    paths = files.map (fun f => pathIn directory f.path) ∧
      (performAll host (files.flatMap (sourceSteps directory package))).run s.host =
        .ok () s'.host := by
  induction files generalizing s paths with
  | nil =>
    obtain ⟨rfl, rfl⟩ := Steps.run_mapM_nil_eq_ok.1 h
    exact ⟨rfl, rfl⟩
  | cons f files ih =>
    obtain ⟨path, t, rest, hpath, hrest, rfl⟩ := Steps.run_mapM_cons_eq_ok.1 h
    obtain ⟨rfl, hsteps⟩ := run_writeFile_eq_ok hpath
    obtain ⟨rfl, hstepsRest⟩ := ih hrest
    exact ⟨rfl, run_performAll_append_eq_ok.2 ⟨t.host, hsteps, hstepsRest⟩⟩

/-- Source files whose operations succeed are written. -/
theorem run_mapM_writeFile_of_ok {files : List File} {h : σ}
    (hfiles : ∀ f ∈ files, IsWritable directory package f)
    (hsteps : (performAll host (files.flatMap (sourceSteps directory package))).run s.host =
      .ok () h) :
    (files.mapM (writeFile host directory package)).run s =
      .ok (files.map fun f => pathIn directory f.path) { s with host := h } := by
  induction files generalizing s with
  | nil =>
    cases hsteps
    rfl
  | cons f files ih =>
    obtain ⟨t, hfirst, hrest⟩ := run_performAll_append_eq_ok.1 hsteps
    have hrun := run_writeFile_of_ok (hfiles f List.mem_cons_self) hfirst
    refine Steps.run_mapM_cons_eq_ok.2 ⟨_, _, _, hrun, ih ?_ hrest, rfl⟩
    exact fun g hg => hfiles g (List.mem_cons_of_mem f hg)

/-! ### The formatter -/

/-- If it is all right, the formatter has run once and has ended with code 0. -/
theorem run_runFormatter_eq_ok {tool : String} {args : List String} {u : Unit}
    (h : (runFormatter host directory (tool :: args)).run s = .ok u s') :
    ∃ result, (host.runTool tool (args ++ [directory.text])).run s.host = .ok result s'.host ∧
      result.exitCode = 0 := by
  simp only [runFormatter, Steps.run_bind_eq_ok, Running.run_log, EStateM.Result.ok.injEq] at h
  obtain ⟨_, _, ⟨-, rfl⟩, h⟩ := h
  split at h
  · exact absurd h nofun
  · obtain ⟨result, _, hresult, h⟩ := Steps.run_bind_eq_ok.1 h
    obtain ⟨t, ht, rfl⟩ := Running.run_onHost_eq_ok.1 hresult
    split at h
    · split at h
      · exact absurd h nofun
      · rename_i hcode
        obtain ⟨-, rfl⟩ := Steps.run_pure_eq_ok.1 h
        exact ⟨result, ht, not_not.1 hcode⟩
    · exact absurd h nofun

/-- A formatter that can be started, says texts and ends with code 0 has run. -/
theorem run_runFormatter_of_ok {tool : String} {args : List String} {result : ToolResult} {h : σ}
    (hwords : ∀ w ∈ tool :: args ++ [directory.text], Document.isPathText w = true)
    (hrun : (host.runTool tool (args ++ [directory.text])).run s.host = .ok result h)
    (houtput : (decodeText? result.output).isSome) (herrors : (decodeText? result.errors).isSome)
    (hcode : result.exitCode = 0) :
    (runFormatter host directory (tool :: args)).run s = .ok () ⟨h, s.console.log .debug
      ("running formatter: " ++ Text.join " " (tool :: args ++ [directory.text]))⟩ := by
  obtain ⟨output, houtput⟩ := Option.isSome_iff_exists.1 houtput
  obtain ⟨errors, herrors⟩ := Option.isSome_iff_exists.1 herrors
  have hall : (tool :: args ++ [directory.text]).all Document.isPathText = true :=
    List.all_eq_true.2 hwords
  rw [runFormatter, Steps.run_bind_of_ok (Running.run_log _ _)]
  simp only [hall, Bool.not_true, Bool.false_eq_true, if_false]
  simp only [List.cons_append, List.head?_cons, Option.getD_some, List.tail_cons]
  refine Steps.run_bind_eq_ok.2 ⟨result, _, Running.run_onHost_eq_ok.2 ⟨h, hrun, rfl⟩, ?_⟩
  simp only [houtput, herrors, hcode, ne_eq, not_true_eq_false, if_false]
  rfl

/-! ### The package -/

/-- A package that has one text to be copied is saved by writing this text and then the source
files; after that the formatter runs. -/
theorem run_save_eq_ok {tool name content : String} {args : List String} {p : Package}
    {paths : List Path} (hincludes : p.includes = [.text name content])
    (h : (save host directory package (some (tool :: args)) p).run s = .ok paths s') :
    paths = pathIn directory name :: p.files.map (fun f => pathIn directory f.path) ∧
    ∃ text t result, renderInclude content package = .ok text ∧
      (performAll host ([.makeDirs directory, .writeFile (pathIn directory name) text] ++
        p.files.flatMap (sourceSteps directory package))).run s.host = .ok () t ∧
      (host.runTool tool (args ++ [directory.text])).run t = .ok result s'.host ∧
      result.exitCode = 0 := by
  rw [save, hincludes] at h
  simp only [List.isEmpty_cons, Bool.and_false, Bool.false_eq_true, if_false, Steps.run_bind_eq_ok,
    run_requirePath_eq_ok, Running.run_onHost_eq_ok, Running.run_log, EStateM.Result.ok.injEq,
    Steps.run_mapM_cons_eq_ok, Steps.run_mapM_nil_eq_ok, Steps.run_pure_eq_ok] at h
  obtain ⟨_, _, ⟨-, rfl⟩, _, _, ⟨h₁, hdir, rfl⟩, _, s₂, ⟨path, _, _, hcopy, ⟨rfl, rfl⟩, rfl⟩,
    generated, s₃, hgenerated, _, _, ⟨-, rfl⟩, _, s₄, hformat, rfl, rfl⟩ := h
  obtain ⟨rfl, text, htext, hwrite⟩ := run_writeInclude_text_eq_ok hcopy
  obtain ⟨rfl, hsteps⟩ := run_mapM_writeFile_eq_ok hgenerated
  obtain ⟨result, hresult, hcode⟩ := run_runFormatter_eq_ok hformat
  refine ⟨rfl, text, s₃.host, result, htext, ?_, hresult, hcode⟩
  exact run_performAll_cons_eq_ok.2 ⟨h₁, hdir, run_performAll_append_eq_ok.2 ⟨_, hwrite, hsteps⟩⟩

/-- A package that has one text to be copied can be saved if its files can be written, and the host
does what it is asked to. -/
theorem exists_run_save_eq_ok {tool name content text : String} {args : List String} {p : Package}
    {t h : σ} {result : ToolResult} (hincludes : p.includes = [.text name content])
    (htext : renderInclude content package = .ok text)
    (hdirectory : Document.isPathText directory.text = true)
    (hpath : Document.isPathText (pathIn directory name).text = true)
    (hfiles : ∀ f ∈ p.files, IsWritable directory package f)
    (hwords : ∀ w ∈ tool :: args ++ [directory.text], Document.isPathText w = true)
    (hsteps : (performAll host ([.makeDirs directory, .writeFile (pathIn directory name) text] ++
      p.files.flatMap (sourceSteps directory package))).run s.host = .ok () t)
    (hrun : (host.runTool tool (args ++ [directory.text])).run t = .ok result h)
    (houtput : (decodeText? result.output).isSome) (herrors : (decodeText? result.errors).isSome)
    (hcode : result.exitCode = 0) :
    ∃ paths s', (save host directory package (some (tool :: args)) p).run s = .ok paths s' ∧
      s'.host = h := by
  obtain ⟨t₁, (hdirs : (host.makeDirs directory).run s.host = _), hrest⟩ :=
    run_performAll_cons_eq_ok.1 hsteps
  obtain ⟨t₂, hcopy, hsources⟩ := run_performAll_cons_eq_ok.1 hrest
  have hcopied := run_writeInclude_text_of_ok (s := { s with host := t₁ }) htext hpath hcopy
  have hwritten := run_mapM_writeFile_of_ok (s := { s with host := t₂ }) hfiles hsources
  have hmapped := Steps.run_mapM_cons_eq_ok.2
    ⟨_, _, _, hcopied, Steps.run_mapM_nil_eq_ok.2 ⟨rfl, rfl⟩, rfl⟩
  rw [save, hincludes]
  simp only [List.isEmpty_cons, Bool.and_false, Bool.false_eq_true, if_false]
  rw [Steps.run_bind_of_ok ((run_requirePath_eq_ok (u := ())).2 ⟨hdirectory, rfl⟩),
    Steps.run_bind_of_ok (Running.run_onHost_eq_ok.2 ⟨t₁, hdirs, rfl⟩),
    Steps.run_bind_of_ok hmapped, Steps.run_bind_of_ok hwritten,
    Steps.run_bind_of_ok (Running.run_log _ _)]
  exact ⟨_, _, Steps.run_bind_of_ok (run_runFormatter_of_ok hwords hrun houtput herrors hcode), rfl⟩

/-! ### What can go wrong -/

/-- The paths that saving a package works on. -/
def touchedPaths (directory : Path) (p : Package) : List Path :=
  directory :: (p.includes.map (includeTarget directory) ++
    p.files.flatMap fun f => [(pathIn directory f.path).parent, pathIn directory f.path])

/-- Why a package cannot be saved into a directory and formatted by a tool. -/
inductive Unsaved (host : Host σ) (directory : Path) (package tool : String) (args : List String)
    (p : Package) : Failure → Prop where
  /-- A path cannot be one. -/
  | path {q : Path} (hq : q ∈ touchedPaths directory p) (h : Document.isPathText q.text = false) :
    Unsaved host directory package tool args p (.defect .malformedPath)
  /-- The name of the package is no template. -/
  | clause {name content : String} {d : Defect} (hmem : Include.text name content ∈ p.includes)
    (h : renderInclude content package = .error d) :
    Unsaved host directory package tool args p (.defect d)
  /-- The text of a file cannot be encoded. -/
  | encoding {f : File} (hf : f ∈ p.files) (h : Text.isEncodable (f.text package) = false) :
    Unsaved host directory package tool args p (.defect .halfCharacter)
  /-- The host does not write a file or make a directory. -/
  | writing {step : FileStep} {fault : Fault} {h h' : σ}
    (hrun : (step.perform host).run h = .error fault h') :
    Unsaved host directory package tool args p (.error (.write directory.text fault))
  /-- A word of the command cannot be passed on. -/
  | word {w : String} (hw : w ∈ tool :: args ++ [directory.text])
    (h : Document.isPathText w = false) :
    Unsaved host directory package tool args p (.defect .malformedPath)
  /-- The host does not start the tool. -/
  | starting {fault : Fault} {h h' : σ}
    (hrun : (host.runTool tool (args ++ [directory.text])).run h = .error fault h') :
    Unsaved host directory package tool args p (.error (.formatterNotStarted tool fault))
  /-- The tool reports failure. -/
  | formatting {result : ToolResult} {h h' : σ}
    (hrun : (host.runTool tool (args ++ [directory.text])).run h = .ok result h')
    (hcode : result.exitCode ≠ 0) (detail : String) :
    Unsaved host directory package tool args p
      (.error (.formatterFailed tool result.exitCode detail))
  /-- What the tool writes is no text. -/
  | output {h h' : σ} {result : ToolResult}
    (hrun : (host.runTool tool (args ++ [directory.text])).run h = .ok result h')
    (htext : decodeText? result.output = none ∨ decodeText? result.errors = none) :
    Unsaved host directory package tool args p (.defect .notUtf8)

variable {tool : String} {args : List String} {p : Package} {f : Failure}

/-- A fault of an operation is one to save the package. -/
theorem unsaved_of_perform (step : FileStep)
    (h : (Running.onHost (step.perform host) (writeFailure directory)).run s = .error f s') :
    Unsaved host directory package tool args p f := by
  obtain ⟨fault, _, hrun, rfl, -⟩ := Running.run_onHost_eq_error.1 h
  exact .writing hrun

/-- A text that can be no path is a failure to save the package. -/
theorem unsaved_of_requirePath {q : Path} (hq : q ∈ touchedPaths directory p)
    (h : (requirePath q).run s = .error f s') : Unsaved host directory package tool args p f := by
  obtain ⟨hq', rfl, -⟩ := run_requirePath_eq_error.1 h
  exact .path hq hq'

/-- A failure to copy a text is one to save the package. -/
theorem unsaved_of_writeInclude {name content : String}
    (hmem : Include.text name content ∈ p.includes)
    (h : (writeInclude host directory package (.text name content)).run s = .error f s') :
    Unsaved host directory package tool args p f := by
  have htarget : includeTarget directory (.text name content) ∈ touchedPaths directory p :=
    List.mem_cons_of_mem _ (List.mem_append_left _ (List.mem_map_of_mem hmem))
  rw [writeInclude] at h
  rcases Steps.run_bind_eq_error.1 h with h | ⟨text, _, htext, h⟩
  · exact absurd h nofun
  obtain ⟨rfl, rfl⟩ := Steps.run_pure_eq_ok.1 htext
  rcases Steps.run_bind_eq_error.1 h with h | ⟨_, _, -, h⟩
  · obtain ⟨d, hd, rfl, -⟩ := Running.run_orDefect_eq_error.1 h
    exact .clause hmem hd
  rcases Steps.run_bind_eq_error.1 h with h | ⟨_, _, -, h⟩
  · exact unsaved_of_requirePath htarget h
  rcases Steps.run_bind_eq_error.1 h with h | ⟨_, _, -, h⟩
  · exact unsaved_of_perform (.writeFile _ _) h
  · exact absurd h nofun

/-- A failure to write a source file is one to save the package. -/
theorem unsaved_of_writeFile {g : File} (hmem : g ∈ p.files)
    (h : (writeFile host directory package g).run s = .error f s') :
    Unsaved host directory package tool args p f := by
  have htarget : ∀ q ∈ [(pathIn directory g.path).parent, pathIn directory g.path],
      q ∈ touchedPaths directory p := fun q hq =>
    List.mem_cons_of_mem _ (List.mem_append_right _ (List.mem_flatMap.2 ⟨g, hmem, hq⟩))
  rw [writeFile] at h
  rcases Steps.run_bind_eq_error.1 h with h | ⟨_, _, -, h⟩
  · exact unsaved_of_requirePath (htarget _ (by simp [pathIn])) h
  rcases Steps.run_bind_eq_error.1 h with h | ⟨_, _, -, h⟩
  · exact unsaved_of_perform (.makeDirs _) h
  rcases Steps.run_bind_eq_error.1 h with h | ⟨_, _, -, h⟩
  · exact unsaved_of_requirePath (htarget _ (by simp [pathIn])) h
  rcases Steps.run_bind_eq_error.1 h with h | ⟨_, _, -, h⟩
  · exact unsaved_of_perform (.writeFile _ _) h
  split at h
  · rename_i hencodable
    cases h
    exact .encoding hmem (by simpa using hencodable)
  · exact absurd h nofun

/-- A failure of the formatter is one to save the package. -/
theorem unsaved_of_runFormatter
      (h : (runFormatter host directory (tool :: args)).run s = .error f s') :
    Unsaved host directory package tool args p f := by
  rw [runFormatter, Steps.run_bind_of_ok (Running.run_log _ _)] at h
  split at h
  · rename_i hwords
    obtain ⟨w, hw, hpath⟩ : ∃ w ∈ tool :: args ++ [directory.text],
      Document.isPathText w = false := by
      simpa using hwords
    cases h
    exact .word hw hpath
  rcases Steps.run_bind_eq_error.1 h with h | ⟨result, _, hresult, h⟩
  · obtain ⟨fault, _, hrun, rfl, -⟩ := Running.run_onHost_eq_error.1 h
    exact .starting hrun
  obtain ⟨_, hrun, rfl⟩ := Running.run_onHost_eq_ok.1 hresult
  split at h
  · split at h
    · rename_i hcode
      cases h
      exact .formatting hrun hcode _
    · exact absurd h nofun
  · rename_i hnone
    cases h
    refine .output hrun ?_
    cases houtput : decodeText? result.output with
    | none => exact .inl rfl
    | some output =>
      cases herrors : decodeText? result.errors with
      | none => exact .inr rfl
      | some errors => exact (hnone output errors houtput herrors).elim

/-- A package that has one text to be copied is saved unless there is one of these reasons. -/
theorem unsaved_of_save {name content : String} (hincludes : p.includes = [.text name content])
    (h : (save host directory package (some (tool :: args)) p).run s = .error f s') :
    Unsaved host directory package tool args p f := by
  have hmem : Include.text name content ∈ p.includes := by simp [hincludes]
  have hnonempty : (p.files.isEmpty && p.includes.isEmpty) = false := by simp [hincludes]
  rw [save, if_neg (by simp [hnonempty])] at h
  rcases Steps.run_bind_eq_error.1 h with h | ⟨_, _, -, h⟩
  · exact unsaved_of_requirePath List.mem_cons_self h
  rcases Steps.run_bind_eq_error.1 h with h | ⟨_, _, -, h⟩
  · exact unsaved_of_perform (.makeDirs _) h
  rcases Steps.run_bind_eq_error.1 h with h | ⟨_, _, -, h⟩
  · obtain ⟨i, hi, _, h⟩ := Steps.exists_of_run_mapM_eq_error h
    rw [hincludes, List.mem_singleton] at hi
    subst hi
    exact unsaved_of_writeInclude hmem h
  rcases Steps.run_bind_eq_error.1 h with h | ⟨_, _, -, h⟩
  · obtain ⟨g, hg, _, h⟩ := Steps.exists_of_run_mapM_eq_error h
    exact unsaved_of_writeFile hg h
  rw [Steps.run_bind_of_ok (Running.run_log _ _)] at h
  rcases Steps.run_bind_eq_error.1 h with h | ⟨_, _, -, h⟩
  · exact unsaved_of_runFormatter h
  · exact absurd h nofun

end

end RamlClient.Client
