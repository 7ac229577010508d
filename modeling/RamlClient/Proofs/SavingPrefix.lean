import RamlClient.Proofs.Outputs
/-!
# What saving a package leaves

Saving makes the directory, writes the outputs of the package one after another and runs the
formatter. If an operation on files fails, then the outputs before it are written in full, the
outputs after it are not touched, and the formatter is not run. If all outputs are written, then the
formatter runs once, and saving ends as the formatter does: with the paths of the outputs, with the
report that it cannot be started or has failed, or with a defect that nothing reports.
-/

namespace RamlClient.Client

open Go

variable {σ : Type} {host : Host σ} {directory : Path} {package : String} {p : Package}
  {s s' : Session σ}

/-! ### The two parts of saving -/

/-- Makes the directory and writes all outputs. -/
def writeOutputs (host : Host σ) (directory : Path) (package : String) (p : Package) :
    Running σ (List Path) := do
  requirePath directory
  Running.onHost (host.makeDirs directory) (writeFailure directory)
  (outputs p).mapM (Output.write host directory package)

/-- Formats what has been written, if there is a formatter. -/
def finish (host : Host σ) (directory : Path) (formatter : Option (List String))
    (written : List Path) :
    Running σ (List Path) := do
  Running.log .debug ("wrote " ++ toString written.length ++ " files to " ++ directory.text)
  match formatter with
  | some command => runFormatter host directory command
  | none => pure ()
  pure written

/-- A package has no outputs if it has neither files nor files that are copied. -/
theorem outputs_eq_nil_iff : outputs p = [] ↔ (p.files.isEmpty && p.includes.isEmpty) = true := by
  simp [outputs, and_comm]

/-- Saving writes all outputs and formats them. -/
theorem save_eq (formatter : Option (List String)) (hp : outputs p ≠ []) :
    save host directory package formatter p =
      writeOutputs host directory package p >>= finish host directory formatter := by
  rw [save, if_neg fun h => hp (outputs_eq_nil_iff.2 h), writeOutputs, outputs, List.mapM_append,
    List.mapM_map, List.mapM_map]
  simp only [bind_assoc, pure_bind]
  rfl

/-! ### The formatter -/

/-- The words that start a formatter on a directory. -/
def formatterWords (directory : Path) (command : List String) : List String :=
  command ++ [directory.text]

/-- Starts a formatter on a directory. -/
def startFormatter (host : Host σ) (directory : Path) (command : List String) :
    EStateM Fault σ ToolResult :=
  host.runTool ((formatterWords directory command).head?.getD "")
    (formatterWords directory command).tail

/-- What a tool has printed is UTF-8. -/
def ToolResult.IsText (result : ToolResult) : Prop :=
  (decodeText? result.output).isSome ∧ (decodeText? result.errors).isSome

/-- What a tool that has failed reports: its errors, or else its output. -/
def ToolResult.report (result : ToolResult) : String :=
  let errors := Text.trim (plainLineEnds ((decodeText? result.errors).getD ""))
  if errors = "" then Text.trim (plainLineEnds ((decodeText? result.output).getD "")) else errors

/-- How a formatter ends: what the run of it ends with, and the host as it leaves it. It is started
once, unless a word of the command cannot be passed on. -/
inductive FormatterEnd (host : Host σ) (directory : Path) (command : List String) (h : σ) :
    Except Failure Unit → σ → Prop where
  /-- A word of the command cannot be passed on. -/
  | notPassed (hwords : (formatterWords directory command).all Document.isPathText = false) :
    FormatterEnd host directory command h (.error (.defect .malformedPath)) h
  /-- It cannot be started. -/
  | notStarted {fault : Fault} {h' : σ}
    (hwords : (formatterWords directory command).all Document.isPathText = true)
    (hrun : (startFormatter host directory command).run h = .error fault h') :
    FormatterEnd host directory command h
      (.error (formatterFailure command fun tool => .formatterNotStarted tool fault)) h'
  /-- What it has printed is no text. -/
  | notText {result : ToolResult} {h' : σ}
    (hwords : (formatterWords directory command).all Document.isPathText = true)
    (hrun : (startFormatter host directory command).run h = .ok result h')
    (htext : ¬result.IsText) : FormatterEnd host directory command h (.error (.defect .notUtf8)) h'
  /-- It has failed. -/
  | failed {result : ToolResult} {h' : σ}
    (hwords : (formatterWords directory command).all Document.isPathText = true)
    (hrun : (startFormatter host directory command).run h = .ok result h')
    (htext : result.IsText) (hcode : result.exitCode ≠ 0) :
    FormatterEnd host directory command h
      (.error (formatterFailure command fun tool =>
        .formatterFailed tool result.exitCode result.report)) h'
  /-- It has formatted the files. -/
  | formatted {result : ToolResult} {h' : σ}
    (hwords : (formatterWords directory command).all Document.isPathText = true)
    (hrun : (startFormatter host directory command).run h = .ok result h')
    (htext : result.IsText) (hcode : result.exitCode = 0) :
    FormatterEnd host directory command h (.ok ()) h'

/-- A formatter ends in one way only. -/
theorem FormatterEnd.unique {command : List String} {h t t' : σ}
    {ending ending' : Except Failure Unit} (hend : FormatterEnd host directory command h ending t)
    (hend' : FormatterEnd host directory command h ending' t') : ending = ending' ∧ t = t' := by
  cases hend <;> cases hend' <;> simp_all

/-- The result of a step that ends with a value or a failure. -/
def resultOf {α : Type} (a : α) (s : Session σ) :
    Except Failure Unit → EStateM.Result Failure (Session σ) α
  | .ok () => .ok a s
  | .error f => .error f s

/-- A formatter ends in one of these ways. -/
theorem run_runFormatter (host : Host σ) (directory : Path) (command : List String)
    (s : Session σ) :
    ∃ ending s', FormatterEnd host directory command s.host ending s'.host ∧
      (runFormatter host directory command).run s = resultOf () s' ending := by
  rw [runFormatter, Steps.run_bind_of_ok (Running.run_log _ _)]
  generalize s.console.log _ _ = console
  split
  · rename_i hnot
    have hwords : (formatterWords directory command).all Document.isPathText = false := by
      rwa [Bool.not_eq_true'] at hnot
    exact ⟨_, ⟨s.host, console⟩, .notPassed hwords, rfl⟩
  rename_i hall
  have hwords : (formatterWords directory command).all Document.isPathText = true := by
    rwa [Bool.not_eq_true, Bool.not_eq_false'] at hall
  cases hrun : (startFormatter host directory command).run s.host with
  | error fault h =>
    refine ⟨_, ⟨h, console⟩, .notStarted hwords hrun, Steps.run_bind_of_error ?_⟩
    exact Running.run_onHost_eq_error.2 ⟨fault, h, hrun, rfl, rfl⟩
  | ok result h =>
    change ∃ ending s', _ ∧
      EStateM.run (Running.onHost (startFormatter host directory command) _ >>= _) _ = _
    rw [Steps.run_bind_of_ok ((Running.run_onHost_eq_ok (s := ⟨s.host, console⟩)).2 ⟨h, hrun, rfl⟩)]
    cases houtput : decodeText? result.output with
    | none => exact ⟨_, ⟨h, console⟩, .notText hwords hrun (by simp [ToolResult.IsText, houtput]),
        rfl⟩
    | some output =>
      cases herrors : decodeText? result.errors with
      | none => exact ⟨_, ⟨h, console⟩, .notText hwords hrun (by simp [ToolResult.IsText, herrors]),
          rfl⟩
      | some errors =>
        have htext : result.IsText := by simp [ToolResult.IsText, houtput, herrors]
        by_cases hcode : result.exitCode = 0
        · refine ⟨_, ⟨h, console⟩, .formatted hwords hrun htext hcode, ?_⟩
          simp only [hcode, ne_eq, not_true_eq_false, if_false]
          rfl
        · refine ⟨_, ⟨h, console⟩, .failed hwords hrun htext hcode, ?_⟩
          simp only [hcode, ne_eq, not_false_eq_true, if_true, ToolResult.report, houtput, herrors,
            Option.getD_some]
          rfl

/-- Formatting ends as the formatter does. -/
theorem run_finish_some (host : Host σ) (directory : Path) (command : List String)
    (written : List Path) (s : Session σ) :
    ∃ ending s', FormatterEnd host directory command s.host ending s'.host ∧
      (finish host directory (some command) written).run s = resultOf written s' ending := by
  rw [finish, Steps.run_bind_of_ok (Running.run_log _ _)]
  generalize hs : ({ s with console := _ } : Session σ) = t
  have hhost : t.host = s.host := by rw [← hs]
  obtain ⟨ending, s', hending, hrun⟩ := run_runFormatter host directory command t
  rw [hhost] at hending
  refine ⟨ending, s', hending, ?_⟩
  cases ending with
  | ok u => exact Steps.run_bind_of_ok hrun
  | error f => exact Steps.run_bind_of_error hrun

/-- Without a formatter saving ends. -/
theorem run_finish_none (host : Host σ) (directory : Path) (written : List Path) (s : Session σ) :
    ∃ s', (finish host directory none written).run s = .ok written s' ∧ s'.host = s.host := by
  rw [finish, Steps.run_bind_of_ok (Running.run_log _ _)]
  exact ⟨_, rfl, rfl⟩

/-- The errors that report a formatter. -/
def Error.isOfFormatter : Error → Bool
  | .formatterNotStarted _ _ => true
  | .formatterFailed _ _ _ => true
  | _ => false

/-- An error that a formatter ends with reports it. -/
theorem FormatterEnd.isOfFormatter {command : List String} {h h' : σ} {e : Error}
    (hend : FormatterEnd host directory command h (.error (.error e)) h') :
    Error.isOfFormatter e = true := by
  generalize hending : (Except.error (.error e) : Except Failure Unit) = ending at hend
  cases hend with
  | formatted hwords hrun htext hcode => cases hending
  | notStarted hwords hrun =>
    cases command with
    | nil => cases hending
    | cons tool args =>
      cases hending
      rfl
  | failed hwords hrun htext hcode =>
    cases command with
    | nil => cases hending
    | cons tool args =>
      cases hending
      rfl
  | notText hwords hrun htext => cases hending
  | notPassed hwords => cases hending

/-- A formatter that cannot be started leaves files alone. -/
theorem FormatterEnd.same_of_notStarted (c : Contents host) {command : List String} {h h' : σ}
    {tool : String} {fault : Fault}
    (hend : FormatterEnd host directory command h
      (.error (.error (.formatterNotStarted tool fault))) h')
    (q : Path) : c.content h' q = c.content h q := by
  generalize hending :
    (Except.error (.error (.formatterNotStarted tool fault)) : Except Failure Unit) = ending
    at hend
  cases hend with
  | formatted hwords hrun htext hcode => cases hending
  | notStarted hwords hrun => exact c.runTool_error hrun q
  | failed hwords hrun htext hcode => cases command <;> cases hending
  | notText hwords hrun htext => cases hending
  | notPassed hwords => cases hending

/-! ### Faults -/

/-- How saving stops at a fault: the directory cannot be made, or some outputs have been written and
an operation of the next one fails. No other operation is done. -/
inductive StopsAt (c : Contents host) (directory : Path) (package : String) (h : σ)
    (fault : Fault) :
    List Output → List Output → σ → Prop where
  /-- The directory cannot be made. -/
  | directory {os : List Output} {h' : σ}
    (hrun : (host.makeDirs directory).run h = .error fault h') :
    StopsAt c directory package h fault [] os h'
  /-- An output cannot be written. -/
  | output {done later : List Output} {o : Output} {t h' : σ}
    (hdone : (performSteps host (.change (.makeDirs directory) ::
      done.flatMap (Output.steps directory package (c.content h)))).run h = .ok () t)
    (hstops : Stops host (o.steps directory package (c.content h)) t fault h') :
    StopsAt c directory package h fault done (o :: later) h'

/-- Outputs are written up to the first one that cannot be written, and no other one is touched. -/
theorem stopsAt_of_writeOutputs (c : Contents host) (hseparate : Separate c directory (outputs p))
    (hp : outputs p ≠ []) {d : String} {fault : Fault}
    (h : (writeOutputs host directory package p).run s = .error (.error (.write d fault)) s') :
    d = directory.text ∧ ∃ done rest, outputs p = done ++ rest ∧ rest ≠ [] ∧
      StopsAt c directory package s.host fault done rest s'.host ∧
      (∀ o ∈ done, Holds c directory package o s.host s'.host) ∧
      ∀ o ∈ rest.tail, c.content s'.host (o.path directory) =
        c.content s.host (o.path directory) := by
  rw [writeOutputs] at h
  replace h := run_requirePath_bind_eq_write h
  obtain ⟨rfl, t, ht, rfl⟩ | ⟨_, t, ht, h⟩ := run_onHost_bind_eq_write h
  · exact ⟨rfl, [], outputs p, rfl, hp, .directory ht, nofun,
      fun o _ => c.same_of_error (c.makeDirs directory _ _) ht⟩
  have hsame : c.content t = c.content s.host :=
    funext fun q => c.same_of_ok (c.makeDirs directory _ q) ht
  obtain ⟨hd, done, o, later, u, hos, hdone, hstops, hother⟩ := stops_of_mapM c hseparate h
  rw [hos] at hseparate
  obtain ⟨-, ho, hdistinct⟩ := List.pairwise_append.1 hseparate.distinct
  have hlater := (List.pairwise_cons.1 ho).1
  refine ⟨hd, done, o :: later, hos, by
    simp, .output (t := u) ?_ ?_, fun o' ho' => ?_, fun o' ho' => ?_⟩
  · rw [← hsame]
    exact run_performSteps_cons_eq_ok.2 ⟨t, ht, hdone.steps⟩
  · rw [← hsame]
    exact hstops
  · obtain ⟨text, htext, hcontent⟩ := hdone.whole o' ho'
    rw [hsame] at htext
    refine ⟨text, htext, ?_⟩
    rw [hother _ (c.symm (hdistinct o' ho' o List.mem_cons_self)), hcontent]
  · rw [hother _ (hlater o' ho'), ← hsame]
    exact hdone.other _ fun o'' ho'' => hdistinct o'' ho'' o' (List.mem_cons_of_mem o ho')

/-- If nothing goes wrong, all outputs are written. -/
theorem wroteAll_of_writeOutputs (c : Contents host) (hseparate : Separate c directory (outputs p))
    {paths : List Path} (h : (writeOutputs host directory package p).run s = .ok paths s') :
    paths = (outputs p).map (Output.path directory) ∧
    (performSteps host (.change (.makeDirs directory) ::
      (outputs p).flatMap (Output.steps directory package (c.content s.host)))).run s.host =
        .ok () s'.host ∧
    ∀ o ∈ outputs p, Holds c directory package o s.host s'.host := by
  rw [writeOutputs] at h
  obtain ⟨-, h⟩ := run_requirePath_bind_eq_ok h
  obtain ⟨_, _, hdirs, h⟩ := Steps.run_bind_eq_ok.1 h
  obtain ⟨t, ht, rfl⟩ := Running.run_onHost_eq_ok.1 hdirs
  have hsame : c.content t = c.content s.host :=
    funext fun q => c.same_of_ok (c.makeDirs directory _ q) ht
  obtain ⟨rfl, hall⟩ := wroteAll_of_mapM c hseparate h
  refine ⟨rfl, ?_, fun o ho => ?_⟩
  · rw [← hsame]
    exact run_performSteps_cons_eq_ok.2 ⟨t, ht, hall.steps⟩
  · obtain ⟨text, htext, hcontent⟩ := hall.whole o ho
    rw [hsame] at htext
    exact ⟨text, htext, hcontent⟩

/-! ### Saving -/

/-- Saving that has written all outputs returns their paths, or reports the formatter. -/
def ReturnsOrReports (host : Host σ) (directory : Path) (package : String)
    (formatter : Option (List String)) (p : Package) (s : Session σ) : Prop :=
  ∀ paths s₁, outputs p ≠ [] → (writeOutputs host directory package p).run s = .ok paths s₁ →
    (∃ s', (save host directory package formatter p).run s = .ok paths s') ∨
    ∃ e s', (save host directory package formatter p).run s = .error (.error e) s' ∧
      Error.isOfFormatter e = true

/-- A formatter that has been written for ends with a defect that nothing reports. -/
def FormatterEscapes (host : Host σ) (directory : Path) (package : String)
    (formatter : Option (List String)) (p : Package) (s : Session σ) : Prop :=
  outputs p ≠ [] ∧ ∃ paths s₁ command d h, (writeOutputs host directory package p).run s =
    .ok paths s₁ ∧
    formatter = some command ∧ FormatterEnd host directory command s₁.host (.error (.defect d)) h

/-- Saving that has written all outputs goes on with the formatter. -/
theorem run_save_of_written {formatter : Option (List String)} {paths : List Path} {s₁ : Session σ}
    (hp : outputs p ≠ []) (hwrite : (writeOutputs host directory package p).run s = .ok paths s₁) :
    (save host directory package formatter p).run s =
      (finish host directory formatter paths).run s₁ := by
  rw [save_eq formatter hp]
  exact Steps.run_bind_of_ok hwrite

/-- After all outputs, only a formatter with a defect is neither done nor reported. -/
theorem returnsOrReports_iff (formatter : Option (List String)) :
    ReturnsOrReports host directory package formatter p s ↔
      ¬FormatterEscapes host directory package formatter p s := by
  constructor
  · rintro hreturns ⟨hp, paths, s₁, command, d, h, hwrite, rfl, hend⟩
    obtain ⟨ending, s', hend', hrun⟩ := run_finish_some host directory command paths s₁
    obtain ⟨rfl, -⟩ := hend.unique hend'
    rw [← run_save_of_written hp hwrite] at hrun
    rcases hreturns paths s₁ hp hwrite with ⟨_, hok⟩ | ⟨_, _, herror, -⟩
    · rw [hrun] at hok
      cases hok
    · rw [hrun] at herror
      cases herror
  · intro hescapes paths s₁ hp hwrite
    rw [run_save_of_written hp hwrite]
    cases formatter with
    | none =>
      obtain ⟨s', hrun, -⟩ := run_finish_none host directory paths s₁
      exact .inl ⟨s', hrun⟩
    | some command =>
      obtain ⟨ending, s', hend, hrun⟩ := run_finish_some host directory command paths s₁
      match ending, hend, hrun with
      | .ok _, _, hrun => exact .inl ⟨s', hrun⟩
      | .error (.error e), hend, hrun => exact .inr ⟨e, s', hrun, hend.isOfFormatter⟩
      | .error (.defect d), hend, _ =>
        exact (hescapes ⟨hp, paths, s₁, command, d, _, hwrite, rfl, hend⟩).elim

/-- The formatter is no reason for a fault of writing. -/
theorem run_finish_ne_write {formatter : Option (List String)} {paths : List Path} {d : String}
    {fault : Fault} :
    (finish host directory formatter paths).run s ≠ .error (.error (.write d fault)) s' := by
  intro h
  cases formatter with
  | none =>
    obtain ⟨_, hrun, -⟩ := run_finish_none host directory paths s
    rw [hrun] at h
    cases h
  | some command =>
    obtain ⟨ending, _, hend, hrun⟩ := run_finish_some host directory command paths s
    rw [hrun] at h
    cases ending with
    | ok u => cases h
    | error f =>
      cases h
      cases hend.isOfFormatter

/-- What saving a package leaves on a host whose operations fail in any way, if the outputs have
files of their own. A package without outputs leaves the host alone. If a fault of writing is
reported, then some outputs, not all of them, hold their whole texts, one of the operations of the
next output has failed, and nothing else has been done. If all outputs are written, then they hold
their whole texts, and saving ends as the formatter does, which is started once. This is with the
paths in the order of writing or with a report of the formatter, unless the formatter ends with a
defect. -/
theorem save_writes_prefix (c : Contents host) (formatter : Option (List String)) (s : Session σ)
    (hseparate : Separate c directory (outputs p)) :
    (p.files = [] → p.includes = [] →
      ∃ s', (save host directory package formatter p).run s = .ok [] s' ∧ s'.host = s.host) ∧
    (∀ d fault s', (save host directory package formatter p).run s =
      .error (.error (.write d fault)) s' →
      d = directory.text ∧ ∃ done rest, outputs p = done ++ rest ∧ rest ≠ [] ∧
        StopsAt c directory package s.host fault done rest s'.host ∧
        (∀ o ∈ done, Holds c directory package o s.host s'.host) ∧
        ∀ o ∈ rest.tail, c.content s'.host (o.path directory) =
          c.content s.host (o.path directory)) ∧
    (∀ paths s₁, outputs p ≠ [] → (writeOutputs host directory package p).run s = .ok paths s₁ →
      paths = (outputs p).map (Output.path directory) ∧
      (performSteps host (.change (.makeDirs directory) ::
        (outputs p).flatMap (Output.steps directory package (c.content s.host)))).run s.host =
          .ok () s₁.host ∧
      (∀ o ∈ outputs p, Holds c directory package o s.host s₁.host) ∧
      (formatter = none →
        ∃ s', (save host directory package formatter p).run s = .ok paths s' ∧ s'.host = s₁.host) ∧
      ∀ command, formatter = some command →
        ∃ ending s', FormatterEnd host directory command s₁.host ending s'.host ∧
          (save host directory package formatter p).run s = resultOf paths s' ending ∧
          ∀ tool fault, ending = .error (.error (.formatterNotStarted tool fault)) →
            ∀ o ∈ outputs p, Holds c directory package o s.host s'.host) ∧
    (ReturnsOrReports host directory package formatter p s ↔
      ¬FormatterEscapes host directory package formatter p s) := by
  refine ⟨fun hfiles hincludes => ?_, fun d fault s' h => ?_, fun paths s₁ hp hwrite => ?_,
    returnsOrReports_iff formatter⟩
  · rw [save, if_pos (by simp [hfiles, hincludes]), Steps.run_bind_of_ok (Running.run_log _ _)]
    exact ⟨_, rfl, rfl⟩
  · have hp : outputs p ≠ [] := by
      intro hp
      rw [save, if_pos (outputs_eq_nil_iff.1 hp), Steps.run_bind_of_ok (Running.run_log _ _)] at h
      cases h
    rw [save_eq formatter hp] at h
    rcases Steps.run_bind_eq_error.1 h with h | ⟨_, _, -, h⟩
    · exact stopsAt_of_writeOutputs c hseparate hp h
    · exact (run_finish_ne_write h).elim
  · obtain ⟨hpaths, hsteps, hholds⟩ := wroteAll_of_writeOutputs c hseparate hwrite
    rw [run_save_of_written hp hwrite]
    refine ⟨hpaths, hsteps, hholds, ?_, ?_⟩
    · rintro rfl
      exact run_finish_none host directory paths s₁
    · rintro command rfl
      obtain ⟨ending, s', hend, hrun⟩ := run_finish_some host directory command paths s₁
      refine ⟨ending, s', hend, hrun, ?_⟩
      rintro tool fault rfl o ho
      obtain ⟨text, htext, hcontent⟩ := hholds o ho
      exact ⟨text, htext, (hend.same_of_notStarted c _).trans hcontent⟩

/-! ### Disks -/

/-- A disk: the bytes of its files, and the faults that its next operations meet with. -/
structure Disk where
  /-- The files, the last ones first. -/
  files : List (Path × ByteArray)
  /-- The faults, one for each operation that meets with one; there are none after the last. -/
  faults : List (Option FaultKind)

namespace Disk

/-- The bytes of the file at a path. -/
def content (d : Disk) (path : Path) : Option ByteArray := (d.files.find? (·.1 == path)).map (·.2)

/-- The disk as the operation after the next one meets it. -/
def rest (d : Disk) : Disk := { d with faults := d.faults.tail }

/-- Does an operation at a path unless it meets with a fault. -/
def attempt {α : Type} (path : Path) (operation : EStateM Fault Disk α) : EStateM Fault Disk α :=
  fun d =>
  match d.faults.head?.getD none with
  | some kind => .error ⟨kind, path.text⟩ d.rest
  | none => operation d.rest

/-- Reads a file. -/
def read (path : Path) : EStateM Fault Disk ByteArray := fun d =>
  match d.content path with
  | some bytes => .ok bytes d
  | none => .error ⟨.absent, path.text⟩ d

/-- Writes a file. -/
def write (path : Path) (text : String) : EStateM Fault Disk Unit := fun d =>
  .ok () { d with files := (path, text.toUTF8) :: d.files }

/-- A disk as a host with a formatter that changes nothing. -/
def asHost (formatter : ToolResult) : Host Disk where
  sources _ := ⟨⟨[], []⟩, fun _ => none, fun _ _ => .done .null⟩
  makeDirs path := attempt path (pure ())
  readFile path := attempt path (read path)
  writeFile path text := attempt path (write path text)
  hasTool _ := true
  runTool tool _ := attempt ⟨"", [tool]⟩ (pure formatter)
  now _ := 0

/-- An operation leaves a file alone if it does so without a fault. -/
theorem content_attempt {α : Type} {path q : Path} {operation : EStateM Fault Disk α}
    (h : ∀ d, (stateAfter operation d).content q = d.content q) (d : Disk) :
    (stateAfter (attempt path operation) d).content q = d.content q := by
  have hattempt : stateAfter (attempt path operation) d =
      match d.faults.head?.getD none with
      | some _ => d.rest
      | none => stateAfter operation d.rest := by
    unfold stateAfter EStateM.run attempt
    split <;> split <;> simp_all
  rw [hattempt]
  split
  · rfl
  · exact h d.rest

/-- An operation that succeeds has met with no fault. -/
theorem run_attempt_eq_ok {α : Type} {path : Path} {operation : EStateM Fault Disk α} {d d' : Disk}
    {a : α} (h : (attempt path operation).run d = .ok a d') : operation.run d.rest = .ok a d' := by
  rw [EStateM.run, attempt] at h
  split at h
  · cases h
  · exact h

/-- What the files of a disk hold. -/
def contents (formatter : ToolResult) : Contents (asHost formatter) where
  content := content
  Apart p q := p ≠ q
  symm h := h.symm
  makeDirs p d q := content_attempt (fun _ => rfl) d
  readFile p d q := by
    refine content_attempt (fun d => ?_) d
    unfold stateAfter EStateM.run read
    split <;> split at * <;> simp_all
  readFile_ok h := by
    have hread := run_attempt_eq_ok h
    rw [EStateM.run, read] at hread
    split at hread
    · rename_i hbytes
      cases hread
      exact hbytes
    · cases hread
  writeFile hne text d := by
    refine content_attempt (fun d => ?_) d
    simp [stateAfter, EStateM.run, write, content, hne]
  writeFile_ok h := by
    have hwrite := run_attempt_eq_ok h
    cases hwrite
    simp [content]
  runTool_error h q := by
    have hstate := stateAfter_of_error h
    rw [← hstate]
    exact content_attempt (fun _ => rfl) _

/-- On a disk, outputs have files of their own if their paths differ from each other and from the
paths of the files that are copied. -/
theorem separate_iff (formatter : ToolResult) (directory : Path) (os : List Output) :
    Separate (contents formatter) directory os ↔
      (os.map (Output.path directory)).Nodup ∧
      ∀ q ∈ os.flatMap Output.origins, q ∉ os.map (Output.path directory) := by
  constructor
  · rintro ⟨hdistinct, horigins⟩
    refine ⟨List.pairwise_map.2 hdistinct, fun q hq hmem => ?_⟩
    obtain ⟨o', ho', hq⟩ := List.mem_flatMap.1 hq
    obtain ⟨o, ho, rfl⟩ := List.mem_map.1 hmem
    exact horigins o ho o' ho' _ hq rfl
  · rintro ⟨hnodup, horigins⟩
    refine ⟨List.pairwise_map.1 hnodup, fun o ho o' ho' q hq heq => ?_⟩
    exact horigins q (List.mem_flatMap.2 ⟨o', ho', hq⟩) (heq ▸ List.mem_map_of_mem ho)

end Disk

/-- The fault that a run reports when it cannot write, with the directory. -/
def writeFault? {σ α : Type} : EStateM.Result Failure (Session σ) α → Option (String × Fault)
  | .error (.error (.write d fault)) _ => some (d, fault)
  | .error (.error _) _ | .error (.defect _) _ | .ok _ _ => none

/-- A run with the fault of a write ends with the error for it. -/
theorem exists_of_writeFault? {α : Type} {r : EStateM.Result Failure (Session σ) α} {d : String}
    {fault : Fault} (h : writeFault? r = some (d, fault)) :
    ∃ s', r = .error (.error (.write d fault)) s' := by
  unfold writeFault? at h
  split at h
  · cases h
    exact ⟨_, rfl⟩
  all_goals cases h

/-- Two outputs, one of them copied from a file. -/
def twoOutputs : Package :=
  ⟨[⟨"models.go", [], [⟨"Chip", "string"⟩], [], []⟩], [.file ⟨"", ["lib", "runtime.go"]⟩], []⟩

/-- A disk with the file that is copied. -/
def libraryDisk (faults : List (Option FaultKind)) : Session Disk :=
  ⟨⟨[(⟨"", ["lib", "runtime.go"]⟩, "package runtime\n".toUTF8)], faults⟩, .initial⟩

/-- What a tool leaves that prints nothing. -/
def silentResult (exitCode : Int) : ToolResult := ⟨exitCode, .empty, .empty⟩

/-- What a tool leaves that prints a byte that is no text. -/
def byteResult : ToolResult := ⟨0, ⟨#[0xff]⟩, .empty⟩

/-- A full disk leaves the copied file and no source file. A formatter that fails leaves both. -/
theorem save_writes_prefix_twoOutputs :
    (∃ fault s' done rest,
      (save (Disk.asHost (silentResult 0)) (Path.ofText "out") "client" (some ["gofmt"])
        twoOutputs).run (libraryDisk [none, none, none, none, some .noSpace]) =
          .error (.error (.write "out" fault)) s' ∧
      outputs twoOutputs = done ++ rest ∧ rest ≠ [] ∧
      ∀ o ∈ done, Holds (Disk.contents (silentResult 0)) (Path.ofText "out") "client" o
        (libraryDisk [none, none, none, none, some .noSpace]).host s'.host) ∧
    ∃ paths s₁ ending s',
      (writeOutputs (Disk.asHost (silentResult 3)) (Path.ofText "out") "client" twoOutputs).run
        (libraryDisk []) = .ok paths s₁ ∧
      paths = [⟨"", ["out", "runtime.go"]⟩, ⟨"", ["out", "models.go"]⟩] ∧
      (∀ o ∈ outputs twoOutputs, Holds (Disk.contents (silentResult 3)) (Path.ofText "out") "client"
        o (libraryDisk []).host s₁.host) ∧
      FormatterEnd (Disk.asHost (silentResult 3)) (Path.ofText "out") ["gofmt"] s₁.host ending
        s'.host ∧
      (save (Disk.asHost (silentResult 3)) (Path.ofText "out") "client" (some ["gofmt"])
        twoOutputs).run (libraryDisk []) = resultOf paths s' ending := by
  have hseparate (result : ToolResult) :
      Separate (Disk.contents result) (Path.ofText "out") (outputs twoOutputs) :=
    (Disk.separate_iff _ _ _).2 (by decide +kernel)
  constructor
  · have hstops : writeFault? ((save (Disk.asHost (silentResult 0)) (Path.ofText "out") "client"
        (some ["gofmt"]) twoOutputs).run (libraryDisk [none, none, none, none, some .noSpace])) =
        some ("out", ⟨.noSpace, "out/models.go"⟩) := by decide +kernel
    obtain ⟨s', h⟩ := exists_of_writeFault? hstops
    obtain ⟨-, hwrite, -⟩ := save_writes_prefix (Disk.contents (silentResult 0)) (some ["gofmt"]) _
      (hseparate _)
    obtain ⟨-, done, rest, hos, hrest, -, hdone, -⟩ := hwrite _ _ _ h
    exact ⟨_, s', done, rest, h, hos, hrest, hdone⟩
  · have hwrites : Steps.passes (fun _ _ => true) (writeOutputs (Disk.asHost (silentResult 3))
        (Path.ofText "out") "client" twoOutputs) (libraryDisk []) = true := by decide +kernel
    obtain ⟨paths, s₁, h, -⟩ := Steps.exists_run_of_passes hwrites
    obtain ⟨-, -, hall, -⟩ :=
      save_writes_prefix (Disk.contents (silentResult 3)) (some ["gofmt"]) _ (hseparate _)
    obtain ⟨hpaths, -, hholds, -, hformat⟩ := hall paths s₁ (by decide) h
    obtain ⟨ending, s', hend, hrun, -⟩ := hformat _ rfl
    exact ⟨paths, s₁, ending, s', h, hpaths.trans (by decide +kernel), hholds, hend, hrun⟩

/-- A formatter that prints a byte which is no text, and ends well, is neither done nor reported. -/
theorem not_returnsOrReports_printf :
    ¬ReturnsOrReports (Disk.asHost byteResult) (Path.ofText "out") "client"
      (some ["printf", "\\377"]) ⟨[File.empty "models.go"], [], []⟩ ⟨⟨[], []⟩, .initial⟩ := by
  have hwrites : Steps.passes (fun _ s => s.host.faults.isEmpty)
    (writeOutputs (Disk.asHost byteResult)
      (Path.ofText "out") "client" ⟨[File.empty "models.go"], [], []⟩) ⟨⟨[], []⟩, .initial⟩ =
        true := by
    decide +kernel
  obtain ⟨paths, s₁, h, hfaults⟩ := Steps.exists_run_of_passes hwrites
  have hstart :
    (startFormatter (Disk.asHost byteResult) (Path.ofText "out") ["printf", "\\377"]).run s₁.host =
      .ok byteResult s₁.host.rest := by
    rw [List.isEmpty_iff] at hfaults
    simp [startFormatter, Disk.asHost, Disk.attempt, EStateM.run, hfaults]
    rfl
  have htext : ¬byteResult.IsText := by
    intro htext
    have hnone : decodeText? byteResult.output = none := by decide +kernel
    rw [ToolResult.IsText, hnone] at htext
    cases htext.1
  rw [returnsOrReports_iff, not_not]
  exact ⟨by decide, paths, s₁, _, _, _, h, rfl, .notText (by decide +kernel) hstart htext⟩

end RamlClient.Client
