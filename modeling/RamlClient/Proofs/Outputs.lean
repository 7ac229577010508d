import RamlClient.Proofs.Saving
/-!
# The outputs of a package

Saving a package writes its outputs in order: first the files that are copied in, then its source
files. An output is read if it is copied from a file, and its directory is made if it is a source
file; then it is written. Operations may fail in any way. What the files of a host hold is known
from a few laws: an operation works on one file only, and a file that has been written holds its
text.
-/

namespace RamlClient.Client

open Go

/-! ### What files hold -/

/-- The state after a step, whether it succeeds or fails. -/
def stateAfter {ε σ α : Type} (x : EStateM ε σ α) (s : σ) : σ :=
  match x.run s with
  | .ok _ t => t
  | .error _ t => t

/-- The state after a step that succeeds. -/
theorem stateAfter_of_ok {ε σ α : Type} {x : EStateM ε σ α} {s t : σ} {a : α}
    (h : x.run s = .ok a t) :
    stateAfter x s = t := by
  rw [stateAfter, h]

/-- The state after a step that fails. -/
theorem stateAfter_of_error {ε σ α : Type} {x : EStateM ε σ α} {s t : σ} {e : ε}
    (h : x.run s = .error e t) : stateAfter x s = t := by
  rw [stateAfter, h]

/-- What the files of a host hold. Operations succeed or fail as they like; the laws tell what they
do to files. -/
structure Contents {σ : Type} (host : Host σ) where
  /-- The bytes of the file at a path, if there is one. -/
  content : σ → Path → Option ByteArray
  /-- Two paths lead to different files. -/
  Apart : Path → Path → Prop
  /-- The order of the paths does not matter. -/
  symm : ∀ {p q}, Apart p q → Apart q p
  /-- Making directories leaves files alone. -/
  makeDirs : ∀ p h q, content (stateAfter (host.makeDirs p) h) q = content h q
  /-- Reading leaves files alone. -/
  readFile : ∀ p h q, content (stateAfter (host.readFile p) h) q = content h q
  /-- What is read is what the file holds. -/
  readFile_ok : ∀ {p h bytes h'}, (host.readFile p).run h = .ok bytes h' → content h p = some bytes
  /-- Writing leaves other files alone. -/
  writeFile : ∀ {p q}, Apart p q →
    ∀ text h, content (stateAfter (host.writeFile p text) h) q = content h q
  /-- A file that has been written holds its text. -/
  writeFile_ok : ∀ {p text h h'}, (host.writeFile p text).run h = .ok () h' →
    content h' p = some text.toUTF8
  /-- A tool that cannot be started leaves files alone. -/
  runTool_error : ∀ {tool args h fault h'}, (host.runTool tool args).run h = .error fault h' →
    ∀ q, content h' q = content h q

namespace Contents

variable {σ α : Type} {host : Host σ}
  (c : Contents host) {x : EStateM Fault σ α} {h h' : σ} {q : Path}

/-- A step that succeeds leaves a file alone if it does in any case. -/
theorem same_of_ok {a : α} (hsame : c.content (stateAfter x h) q = c.content h q)
    (hrun : x.run h = .ok a h') : c.content h' q = c.content h q := by
  rwa [stateAfter_of_ok hrun] at hsame

/-- A step that fails leaves a file alone if it does in any case. -/
theorem same_of_error {fault : Fault} (hsame : c.content (stateAfter x h) q = c.content h q)
    (hrun : x.run h = .error fault h') : c.content h' q = c.content h q := by
  rwa [stateAfter_of_error hrun] at hsame

end Contents

/-! ### Outputs -/

/-- A file that saving a package writes. -/
inductive Output where
  /-- A file that is copied in. -/
  | copy (i : Include)
  /-- A source file. -/
  | source (f : File)

/-- The outputs of a package in the order in which they are written. -/
def outputs (p : Package) : List Output := p.includes.map .copy ++ p.files.map .source

namespace Output

/-- The path that an output gets in a directory. -/
def path (directory : Path) : Output → Path
  | .copy i => includeTarget directory i
  | .source f => pathIn directory f.path

/-- The files that an output is copied from. -/
def origins : Output → List Path
  | .copy (.file path) => [path]
  | _ => []

/-- The whole text of an output, given what files hold, if it has one. -/
def text? (package : String) (content : Path → Option ByteArray) : Output → Option String
  | .copy (.file path) =>
    (content path).bind fun bytes => (decodeText? bytes).bind fun s =>
      (renderInclude (plainLineEnds s) package).toOption
  | .copy (.text _ content) => (renderInclude content package).toOption
  | .source f => some (f.text package)

/-- The whole text depends on the files that the output is copied from. -/
theorem text?_congr {o : Output} {package : String} {content content' : Path → Option ByteArray}
    (h : ∀ q ∈ o.origins, content' q = content q) :
    o.text? package content' = o.text? package content := by
  cases o with
  | copy i =>
    cases i with
    | file path => rw [text?, text?, h path (by simp [origins])]
    | text name content => rfl
  | source f => rfl

/-- Writes an output. -/
def write {σ : Type} (host : Host σ) (directory : Path) (package : String) : Output → Running σ Path
  | .copy i => writeInclude host directory package i
  | .source f => writeFile host directory package f

end Output

/-! ### Operations -/

variable {σ : Type}

/-- An operation of saving. -/
inductive SavingStep where
  /-- Reads a file. -/
  | read (path : Path)
  /-- Changes files. -/
  | change (step : FileStep)

/-- Does an operation on a host. -/
def SavingStep.perform (host : Host σ) : SavingStep → EStateM Fault σ Unit
  | .read path => do let _ ← host.readFile path
  | .change step => step.perform host

/-- Does operations one after another. -/
def performSteps (host : Host σ) : List SavingStep → EStateM Fault σ Unit
  | [] => pure ()
  | step :: steps => do
    step.perform host
    performSteps host steps

/-- Operations of saving succeed if the first one does and then the others. -/
theorem run_performSteps_cons_eq_ok {host : Host σ} {step : SavingStep} {steps : List SavingStep}
    {h h' : σ} :
    (performSteps host (step :: steps)).run h = .ok () h' ↔
      ∃ t, (step.perform host).run h = .ok () t ∧ (performSteps host steps).run t = .ok () h' := by
  rw [performSteps, Steps.run_bind_eq_ok]
  exact ⟨fun ⟨_, t, ht, hrest⟩ => ⟨t, ht, hrest⟩, fun ⟨t, ht, hrest⟩ => ⟨(), t, ht, hrest⟩⟩

/-- Operations of saving can be done in two portions. -/
theorem run_performSteps_append_eq_ok {host : Host σ} {steps rest : List SavingStep} {h h' : σ} :
    (performSteps host (steps ++ rest)).run h = .ok () h' ↔
      ∃ t, (performSteps host steps).run h = .ok () t ∧
        (performSteps host rest).run t = .ok () h' := by
  induction steps generalizing h with
  | nil => exact ⟨fun hrest => ⟨h, rfl, hrest⟩, fun ⟨_, hnil, hrest⟩ => by cases hnil; exact hrest⟩
  | cons step steps ih =>
    simp only [List.cons_append, run_performSteps_cons_eq_ok, ih]
    constructor
    · rintro ⟨t, ht, t', ht', hrest⟩
      exact ⟨t', ⟨t, ht, ht'⟩, hrest⟩
    · rintro ⟨t', ⟨t, ht, ht'⟩, hrest⟩
      exact ⟨t, ht, t', ht', hrest⟩

/-- A file that can be read is read. -/
theorem run_read_eq_ok {host : Host σ} {path : Path} {bytes : ByteArray} {h h' : σ}
    (hread : (host.readFile path).run h = .ok bytes h') :
    ((SavingStep.read path).perform host).run h = .ok () h' := Steps.run_bind_of_ok hread

/-- A file that cannot be read is a fault. -/
theorem run_read_eq_error {host : Host σ} {path : Path} {fault : Fault} {h h' : σ}
    (hread : (host.readFile path).run h = .error fault h') :
    ((SavingStep.read path).perform host).run h = .error fault h' := Steps.run_bind_of_error hread

/-- The text that is written for a source file: nothing of it if it cannot be encoded. -/
def writtenText (f : File) (package : String) : String :=
  if Text.isEncodable (f.text package) then f.text package else ""

/-- The operations of writing an output, given what files hold. -/
def Output.steps (directory : Path) (package : String) (content : Path → Option ByteArray) :
    Output → List SavingStep
  | .copy i =>
    (Output.copy i).origins.map .read ++
      ((Output.copy i).text? package content).toList.map fun text =>
        .change (.writeFile (includeTarget directory i) text)
  | .source f =>
    [.change (.makeDirs (pathIn directory f.path).parent),
      .change (.writeFile (pathIn directory f.path) (writtenText f package))]

/-- The operations for an output depend on what its origins hold. -/
theorem Output.steps_congr {o : Output} {directory : Path} {package : String}
    {content content' : Path → Option ByteArray} (h : ∀ q ∈ o.origins, content' q = content q) :
    o.steps directory package content' = o.steps directory package content := by
  cases o with
  | copy i => rw [steps, steps, text?_congr h]
  | source f => rfl

/-! ### One output -/

variable {host : Host σ} {directory : Path} {package : String} {s s' : Session σ}

/-- A row of operations stops at one that fails. -/
def Stops (host : Host σ) (steps : List SavingStep) (h : σ) (fault : Fault) (h' : σ) : Prop :=
  ∃ before step after t, steps = before ++ step :: after ∧
    (performSteps host before).run h = .ok () t ∧
    (step.perform host).run t = .error fault h'

/-- The file of an output holds its whole text, as it was at first if it is copied. -/
def Holds (c : Contents host) (directory : Path) (package : String) (o : Output) (h h' : σ) :
    Prop :=
  ∃ text, o.text? package (c.content h) = some text ∧
    c.content h' (o.path directory) = some text.toUTF8

/-- An output has been written: its operations have been done, its file holds its whole text, and
other files hold what they held. -/
structure Wrote (c : Contents host) (directory : Path) (package : String) (o : Output) (h h' : σ) :
    Prop where
  /-- All operations. -/
  steps : (performSteps host (o.steps directory package (c.content h))).run h = .ok () h'
  /-- The whole text. -/
  whole : Holds c directory package o h h'
  /-- Other files. -/
  other : ∀ q, c.Apart (o.path directory) q → c.content h' q = c.content h q

/-- The text of an output that is copied is read if it is that of a file. -/
theorem run_includeText_eq_ok (c : Contents host) (package : String) {i : Include}
    {content : String} (h : (includeText host directory i).run s = .ok content s') :
    (performSteps host ((Output.copy i).origins.map .read)).run s.host = .ok () s'.host ∧
    (Output.copy i).text? package (c.content s.host) = (renderInclude content package).toOption ∧
    ∀ q, c.content s'.host q = c.content s.host q := by
  cases i with
  | text name text =>
    obtain ⟨rfl, rfl⟩ := Steps.run_pure_eq_ok.1 h
    exact ⟨rfl, rfl, fun _ => rfl⟩
  | file path =>
    rw [includeText] at h
    obtain ⟨-, h⟩ := run_requirePath_bind_eq_ok h
    obtain ⟨bytes, _, hbytes, h⟩ := Steps.run_bind_eq_ok.1 h
    obtain ⟨t, ht, rfl⟩ := Running.run_onHost_eq_ok.1 hbytes
    split at h
    · rename_i text htext
      obtain ⟨rfl, rfl⟩ := Steps.run_pure_eq_ok.1 h
      refine ⟨run_performSteps_cons_eq_ok.2 ⟨t, run_read_eq_ok ht, rfl⟩, ?_, fun q => ?_⟩
      · simp [Output.text?, c.readFile_ok ht, htext]
      · exact c.same_of_ok (c.readFile path _ q) ht
    · cases h

/-- A copied text that cannot be read stops the operations, and no file changes. -/
theorem run_includeText_eq_write (c : Contents host) {i : Include} {d : String} {fault : Fault}
    {steps : List SavingStep}
    (h : (includeText host directory i).run s = .error (.error (.write d fault)) s') :
    d = directory.text ∧ Stops host
      ((Output.copy i).origins.map .read ++ steps) s.host fault s'.host ∧
    ∀ q, c.content s'.host q = c.content s.host q := by
  cases i with
  | text name text => cases h
  | file path =>
    rw [includeText] at h
    replace h := run_requirePath_bind_eq_write h
    obtain ⟨rfl, t, ht, rfl⟩ | ⟨bytes, t, -, h⟩ := run_onHost_bind_eq_write h
    · exact ⟨rfl, ⟨[], _, steps, s.host, rfl, rfl, run_read_eq_error ht⟩,
        fun q => c.same_of_error (c.readFile path _ q) ht⟩
    · split at h
      · cases h
      · cases h

/-- An output that is written gets its whole text. -/
theorem wrote_of_write (c : Contents host) {o : Output} {path : Path}
    (h : (o.write host directory package).run s = .ok path s') :
    path = o.path directory ∧ Wrote c directory package o s.host s'.host := by
  cases o with
  | copy i =>
    rw [Output.write, writeInclude] at h
    obtain ⟨content, _, hcontent, h⟩ := Steps.run_bind_eq_ok.1 h
    obtain ⟨text, _, htext, h⟩ := Steps.run_bind_eq_ok.1 h
    obtain ⟨hrender, rfl⟩ := Running.run_orDefect_eq_ok.1 htext
    obtain ⟨-, h⟩ := run_requirePath_bind_eq_ok h
    obtain ⟨_, _, hwrite, h⟩ := Steps.run_bind_eq_ok.1 h
    obtain ⟨t, ht, rfl⟩ := Running.run_onHost_eq_ok.1 hwrite
    obtain ⟨rfl, rfl⟩ := Steps.run_pure_eq_ok.1 h
    obtain ⟨hread, hwhole, hsame⟩ := run_includeText_eq_ok c package hcontent
    rw [hrender] at hwhole
    refine ⟨rfl, ?_, ⟨text, hwhole, c.writeFile_ok ht⟩, fun q hq => ?_⟩
    · rw [Output.steps, hwhole]
      exact run_performSteps_append_eq_ok.2 ⟨_, hread, run_performSteps_cons_eq_ok.2 ⟨t, ht, rfl⟩⟩
    · exact (c.same_of_ok (c.writeFile hq text _) ht).trans (hsame q)
  | source f =>
    rw [Output.write, writeFile] at h
    obtain ⟨-, h⟩ := run_requirePath_bind_eq_ok h
    obtain ⟨_, _, hdirs, h⟩ := Steps.run_bind_eq_ok.1 h
    obtain ⟨t, ht, rfl⟩ := Running.run_onHost_eq_ok.1 hdirs
    obtain ⟨-, h⟩ := run_requirePath_bind_eq_ok h
    obtain ⟨_, _, hwrite, h⟩ := Steps.run_bind_eq_ok.1 h
    obtain ⟨t', ht', rfl⟩ := Running.run_onHost_eq_ok.1 hwrite
    split at h
    · cases h
    rename_i hencodable
    rw [Bool.not_eq_true, Bool.not_eq_false'] at hencodable
    obtain ⟨rfl, rfl⟩ := Steps.run_pure_eq_ok.1 h
    have hwritten : writtenText f package = f.text package := if_pos hencodable
    refine ⟨rfl, ?_, ⟨f.text package, rfl, ?_⟩, fun q hq => ?_⟩
    · exact run_performSteps_cons_eq_ok.2 ⟨t, ht, run_performSteps_cons_eq_ok.2 ⟨t', ht', rfl⟩⟩
    · rw [← hwritten]
      exact c.writeFile_ok ht'
    · exact (c.same_of_ok (c.writeFile hq _ t) ht').trans (c.same_of_ok (c.makeDirs _ _ q) ht)

/-- An output that cannot be written because of a fault is the only one that is touched. -/
theorem stops_of_write (c : Contents host) {o : Output} {d : String} {fault : Fault}
    (h : (o.write host directory package).run s = .error (.error (.write d fault)) s') :
    d = directory.text ∧ Stops host
      (o.steps directory package (c.content s.host)) s.host fault s'.host ∧
    ∀ q, c.Apart (o.path directory) q → c.content s'.host q = c.content s.host q := by
  cases o with
  | copy i =>
    rw [Output.write, writeInclude] at h
    rcases Steps.run_bind_eq_error.1 h with h | ⟨content, _, hcontent, h⟩
    · obtain ⟨hd, hstops, hsame⟩ := run_includeText_eq_write c h
      exact ⟨hd, hstops, fun q _ => hsame q⟩
    obtain ⟨hread, hwhole, hsame⟩ := run_includeText_eq_ok c package hcontent
    rcases Steps.run_bind_eq_error.1 h with h | ⟨text, _, htext, h⟩
    · obtain ⟨_, -, hfailure, -⟩ := Running.run_orDefect_eq_error.1 h
      cases hfailure
    obtain ⟨hrender, rfl⟩ := Running.run_orDefect_eq_ok.1 htext
    replace h := run_requirePath_bind_eq_write h
    obtain ⟨rfl, t, ht, rfl⟩ | ⟨_, _, -, h⟩ := run_onHost_bind_eq_write h
    · rw [hrender] at hwhole
      refine ⟨rfl, ⟨_, .change (.writeFile (includeTarget directory i) text), [], _, ?_, hread, ht⟩,
        ?_⟩
      · rw [Output.steps, hwhole]
        rfl
      · intro q hq
        exact (c.same_of_error (c.writeFile hq text _) ht).trans (hsame q)
    · cases h
  | source f =>
    rw [Output.write, writeFile] at h
    replace h := run_requirePath_bind_eq_write h
    obtain ⟨rfl, t, ht, rfl⟩ | ⟨_, t, ht, h⟩ := run_onHost_bind_eq_write h
    · exact ⟨rfl, ⟨[], _, _, s.host, rfl, rfl, ht⟩, fun q _ =>
        c.same_of_error (c.makeDirs _ _ q) ht⟩
    replace h := run_requirePath_bind_eq_write h
    obtain ⟨rfl, t', ht', rfl⟩ | ⟨_, _, -, h⟩ := run_onHost_bind_eq_write h
    · refine ⟨rfl, ⟨[.change (.makeDirs (pathIn directory f.path).parent)], _, [], t, rfl,
        run_performSteps_cons_eq_ok.2 ⟨t, ht, rfl⟩, ht'⟩, fun q hq => ?_⟩
      exact (c.same_of_error (c.writeFile hq _ t) ht').trans (c.same_of_ok (c.makeDirs _ _ q) ht)
    · split at h
      · cases h
      · cases h

/-! ### Rows of outputs -/

/-- The outputs have files of their own: no two have one file, and none has a file that an output is
copied from. -/
structure Separate (c : Contents host) (directory : Path) (os : List Output) : Prop where
  /-- No two outputs have one file. -/
  distinct : os.Pairwise fun o o' => c.Apart (o.path directory) (o'.path directory)
  /-- No output has a file that one is copied from. -/
  origins : ∀ o ∈ os, ∀ o' ∈ os, ∀ q ∈ o'.origins, c.Apart (o.path directory) q

/-- Some of separate outputs are separate. -/
theorem Separate.sublist {c : Contents host} {os os' : List Output} (h : Separate c directory os)
    (hsub : os'.Sublist os) : Separate c directory os' where
  distinct := h.distinct.sublist hsub
  origins := fun o ho o' ho' => h.origins o (hsub.mem ho) o' (hsub.mem ho')

/-- Outputs have been written one after another: all operations have been done, every file holds its
whole text, and other files hold what they held. -/
structure WroteAll (c : Contents host) (directory : Path) (package : String) (os : List Output)
    (h h' : σ) :
    Prop where
  /-- All operations. -/
  steps : (performSteps host (os.flatMap (Output.steps directory package (c.content h)))).run h =
    .ok () h'
  /-- The whole texts. -/
  whole : ∀ o ∈ os, Holds c directory package o h h'
  /-- Other files. -/
  other : ∀ q, (∀ o ∈ os, c.Apart (o.path directory) q) → c.content h' q = c.content h q

/-- No outputs have been written by no operations. -/
theorem WroteAll.nil (c : Contents host) (h : σ) : WroteAll c directory package [] h h where
  steps := rfl
  whole := nofun
  other := fun _ _ => rfl

/-- What has been written first stays as it is: the first output is none of the files that the
others are copied from. -/
theorem WroteAll.cons {c : Contents host} {o : Output} {os : List Output} {h t h' : σ}
    (hseparate : Separate c directory (o :: os)) (ho : Wrote c directory package o h t)
    (hos : WroteAll c directory package os t h') : WroteAll c directory package (o :: os) h h' := by
  have hfirst : ∀ o' ∈ os, c.Apart (o.path directory) (o'.path directory) :=
    (List.pairwise_cons.1 hseparate.distinct).1
  have horigins : ∀ o' ∈ os, ∀ q ∈ o'.origins, c.content t q = c.content h q := fun o' ho' q hq =>
    ho.other q (hseparate.origins o List.mem_cons_self o' (List.mem_cons_of_mem o ho') q hq)
  refine ⟨?_, ?_, ?_⟩
  · have hsteps : os.flatMap (Output.steps directory package (c.content h)) =
        os.flatMap (Output.steps directory package (c.content t)) := by
      rw [List.flatMap_def, List.flatMap_def]
      exact congrArg _ (List.map_congr_left fun o' ho' =>
        (Output.steps_congr (horigins o' ho')).symm)
    rw [List.flatMap_cons, hsteps]
    exact run_performSteps_append_eq_ok.2 ⟨t, ho.steps, hos.steps⟩
  · intro o' ho'
    rcases List.mem_cons.1 ho' with rfl | ho'
    · obtain ⟨text, htext, hcontent⟩ := ho.whole
      refine ⟨text, htext, ?_⟩
      rw [hos.other _ fun o'' ho'' => c.symm (hfirst o'' ho''), hcontent]
    · obtain ⟨text, htext, hcontent⟩ := hos.whole o' ho'
      exact ⟨text, (Output.text?_congr (horigins o' ho')).symm.trans htext, hcontent⟩
  · intro q hq
    rw [hos.other q fun o' ho' => hq o' (List.mem_cons_of_mem o ho'),
      ho.other q (hq o List.mem_cons_self)]

/-- Outputs that are written one after another get their whole texts. -/
theorem wroteAll_of_mapM (c : Contents host) {os : List Output}
    (hseparate : Separate c directory os) {paths : List Path}
    (h : (os.mapM (Output.write host directory package)).run s = .ok paths s') :
    paths = os.map (Output.path directory) ∧ WroteAll c directory package os s.host s'.host := by
  induction os generalizing s paths with
  | nil =>
    obtain ⟨rfl, rfl⟩ := Steps.run_mapM_nil_eq_ok.1 h
    exact ⟨rfl, .nil c s.host⟩
  | cons o os ih =>
    obtain ⟨path, t, rest, hpath, hrest, rfl⟩ := Steps.run_mapM_cons_eq_ok.1 h
    obtain ⟨rfl, ho⟩ := wrote_of_write c hpath
    obtain ⟨rfl, hos⟩ := ih (hseparate.sublist (List.sublist_cons_self o os)) hrest
    exact ⟨rfl, .cons hseparate ho hos⟩

/-- A row of outputs stops at the first one that cannot be written. -/
theorem stops_of_mapM (c : Contents host) {os : List Output} (hseparate : Separate c directory os)
    {d : String} {fault : Fault}
    (h : (os.mapM (Output.write host directory package)).run s =
      .error (.error (.write d fault)) s') :
    d = directory.text ∧ ∃ done o later t, os = done ++ o :: later ∧
      WroteAll c directory package done s.host t ∧
      Stops host (o.steps directory package (c.content s.host)) t fault s'.host ∧
      ∀ q, c.Apart (o.path directory) q → c.content s'.host q = c.content t q := by
  induction os generalizing s with
  | nil => cases h
  | cons o os ih =>
    rw [List.mapM_cons] at h
    rcases Steps.run_bind_eq_error.1 h with h | ⟨path, t, hpath, h⟩
    · obtain ⟨hd, hstops, hsame⟩ := stops_of_write c h
      exact ⟨hd, [], o, os, s.host, rfl, .nil c s.host, hstops, hsame⟩
    rcases Steps.run_bind_eq_error.1 h with h | ⟨_, _, -, h⟩
    · obtain ⟨-, ho⟩ := wrote_of_write c hpath
      obtain ⟨hd, done, o', later, u, rfl, hdone, hstops, hsame⟩ :=
        ih (hseparate.sublist (List.sublist_cons_self o os)) h
      have hdone' : WroteAll c directory package (o :: done) s.host u :=
        .cons (hseparate.sublist ((List.sublist_append_left done _).cons_cons o)) ho hdone
      have horigins : ∀ q ∈ o'.origins, c.content t.host q = c.content s.host q := fun q hq =>
        ho.other q (hseparate.origins o List.mem_cons_self o' (by simp) q hq)
      rw [Output.steps_congr horigins] at hstops
      exact ⟨hd, o :: done, o', later, u, rfl, hdone', hstops, hsame⟩
    · cases h

end RamlClient.Client
