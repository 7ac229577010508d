import RamlClient.Log
/-!
# Transcripts of progress

Tasks start and finish, and the console is configured, in any order and as often as one likes. The
records of the tasks are well bracketed: a task finishes before the next one starts, and only the
one that is going on has not finished. The console gets a handler when it is configured for the
first time and never a second one, so a record is shown once, or not at all if the most recent
configuration hides it.
-/

namespace RamlClient

/-- The options of a configuration of the console. -/
structure Verbosity where
  /-- Details are shown. -/
  verbose : Bool
  /-- Only warnings and errors are shown, unless details are. -/
  quiet : Bool

namespace Verbosity

/-- The level from which on records are shown. -/
def level (v : Verbosity) : LogLevel :=
  if v.verbose then .debug else if v.quiet then .warning else .info

end Verbosity

/-! ### What reaches a console -/

/-- What reaches a console. -/
inductive ConsoleEvent where
  /-- It is configured. -/
  | configured (options : Verbosity)
  /-- It takes an INFO record. -/
  | record (message : String)

/-- The text of a record. -/
def ConsoleEvent.message? : ConsoleEvent → Option String
  | .configured _ => none
  | .record message => some message

namespace Console

/-- The console after an event. -/
def on (c : Console) : ConsoleEvent → Console
  | .configured v => c.configure v.verbose v.quiet
  | .record message => c.log .info message

/-- A console as the most recent configuration has left it, if there has been one. -/
structure IsSetTo (c : Console) (options : Option Verbosity) : Prop where
  /-- The level is that of the configuration. -/
  level : c.level = options.map Verbosity.level
  /-- There is one handler once there has been a configuration, and none before. -/
  handlers : c.handlers = if options.isSome then 1 else 0

namespace IsSetTo

variable {c : Console} {options : Option Verbosity}

/-- The first configuration adds a handler, and a later one leaves it alone. -/
theorem configure (h : c.IsSetTo options) (v : Verbosity) :
    (c.configure v.verbose v.quiet).IsSetTo (some v) where
  level := rfl
  handlers := by
    unfold Console.configure
    rw [h.handlers]
    cases options <;> rfl

/-- A record is shown once if it is let through. Without a handler it is tested a second time, with
the same result. -/
theorem log_eq (h : c.IsSetTo options) (level : LogLevel) (message : String) :
    c.log level message = if c.threshold.rank ≤ level.rank then c.print message else c := by
  unfold log handle
  rw [h.handlers]
  cases options with
  | none =>
    have hthreshold : c.threshold = .warning := by rw [threshold, h.level]; rfl
    rw [hthreshold]
    split <;> simp
  | some v => rfl

/-- A record leaves the configuration alone. -/
theorem log (h : c.IsSetTo options) (level : LogLevel) (message : String) :
    (c.log level message).IsSetTo options := by
  rw [h.log_eq]
  split
  · exact ⟨h.level, h.handlers⟩
  · exact h

end IsSetTo

end Console

/-! ### Tasks -/

namespace Progress

variable (p : Progress) (now : Nat)

/-- What reaches the console when the task that is going on finishes, if there is one. -/
def finishEvents : List ConsoleEvent :=
  p.current.toList.map fun name => .record (finishMessage name (now - p.started))

/-- No task is going on when one has finished. -/
theorem current_finish (c : Console) : (p.finish now c).1.current = none := by
  unfold finish
  split
  · assumption
  · rfl

end Progress

/-- Records of tasks that are well bracketed. All tasks that have started have also finished, each
before the next one started, but for the last one if it is still going on. -/
def WellBracketed (started : List String) (current : Option String) (records : List String) :
    Prop :=
  ∃ finished : List (String × Nat),
    started = finished.map Prod.fst ++ current.toList ∧
    records = (finished.flatMap fun task =>
        [Progress.startMessage task.1, Progress.finishMessage task.1 task.2]) ++
      current.toList.map Progress.startMessage

/-- A step of a run of tasks. -/
inductive ReportStep where
  /-- A task starts. -/
  | start (name : String)
  /-- The task that is going on finishes. -/
  | finish
  /-- The console is configured. -/
  | configure (options : Verbosity)

namespace ReportStep

/-- The tasks that a step starts. -/
def started : ReportStep → List String
  | .start name => [name]
  | .finish => []
  | .configure _ => []

/-- What a step that is done at a time brings to the console. -/
def events (p : Progress) (now : Nat) : ReportStep → List ConsoleEvent
  | .start name => p.finishEvents now ++ [.record (Progress.startMessage name)]
  | .finish => p.finishEvents now
  | .configure options => [.configured options]

end ReportStep

/-- The progress of tasks and the console that shows it. -/
structure Reporter where
  /-- The progress. -/
  progress : Progress
  /-- The console. -/
  console : Console

namespace Reporter

/-- No task is going on, and the console is not configured. -/
def initial : Reporter := ⟨.idle, .initial⟩

/-- The reporter after a step that is done at a time. -/
def step (r : Reporter) (now : Nat) : ReportStep → Reporter
  | .start name =>
    let (p, c) := r.progress.start now name r.console
    ⟨p, c⟩
  | .finish =>
    let (p, c) := r.progress.finish now r.console
    ⟨p, c⟩
  | .configure options => { r with console := r.console.configure options.verbose options.quiet }

/-- The reporter after a run of steps, each of which is done at a time. -/
def after (r : Reporter) (steps : List (Nat × ReportStep)) : Reporter :=
  steps.foldl (fun r s => r.step s.1 s.2) r

/-- What a run of steps brings to the console. -/
def events (r : Reporter) : List (Nat × ReportStep) → List ConsoleEvent
  | [] => []
  | (now, s) :: rest => s.events r.progress now ++ (r.step now s).events rest

variable {r : Reporter}

/-! ### The console -/

end Reporter

/-! ### The records -/

namespace WellBracketed

variable {started records : List String} {r : Reporter}

/-- A task starts when none is going on. -/
theorem start (h : WellBracketed started none records) (name : String) :
    WellBracketed (started ++ [name]) (some name) (records ++ [Progress.startMessage name]) := by
  obtain ⟨finished, rfl, rfl⟩ := h
  exact ⟨finished, by simp, by simp⟩

/-- The task that is going on finishes. -/
theorem finish {name : String} (h : WellBracketed started (some name) records)
    (milliseconds : Nat) :
    WellBracketed started none (records ++ [Progress.finishMessage name milliseconds]) := by
  obtain ⟨finished, rfl, rfl⟩ := h
  exact ⟨finished ++ [(name, milliseconds)], by simp, by simp⟩

/-- What finishes a task keeps the records well bracketed. -/
theorem finishEvents {p : Progress} (h : WellBracketed started p.current records) (now : Nat) :
    WellBracketed started none
      (records ++ (p.finishEvents now).filterMap ConsoleEvent.message?) := by
  unfold Progress.finishEvents
  cases hcurrent : p.current with
  | none =>
    rw [hcurrent] at h
    simpa using h
  | some name =>
    rw [hcurrent] at h
    exact h.finish (now - p.started)

/-- A step keeps the records well bracketed. -/
theorem step (h : WellBracketed started r.progress.current records) (now : Nat) (s : ReportStep) :
    WellBracketed (started ++ s.started) (r.step now s).progress.current
      (records ++ (s.events r.progress now).filterMap ConsoleEvent.message?) := by
  cases s with
  | start name =>
    rw [ReportStep.events, List.filterMap_append, ← List.append_assoc]
    exact (h.finishEvents now).start name
  | finish =>
    have hcurrent : (r.step now .finish).progress.current = none :=
      r.progress.current_finish now r.console
    rw [hcurrent, ReportStep.started, List.append_nil]
    exact h.finishEvents now
  | configure options =>
    have hnone :
      ((ReportStep.configure options).events r.progress now).filterMap ConsoleEvent.message? = [] :=
      rfl
    rw [hnone, ReportStep.started, List.append_nil, List.append_nil]
    exact h

/-- What a run of steps reports goes on as it has begun. -/
theorem after (h : WellBracketed started r.progress.current records)
    (steps : List (Nat × ReportStep)) :
    WellBracketed (started ++ steps.flatMap (·.2.started)) (r.after steps).progress.current
      (records ++ (r.events steps).filterMap ConsoleEvent.message?) := by
  induction steps generalizing r started records with
  | nil =>
    rw [List.flatMap_nil, Reporter.events, List.filterMap_nil, List.append_nil, List.append_nil]
    exact h
  | cons s rest ih =>
    rw [List.flatMap_cons, Reporter.events, List.filterMap_append, ← List.append_assoc,
      ← List.append_assoc]
    exact ih (h.step s.1 s.2)

end WellBracketed

/-- A task that starts while records are hidden, and finishes after they are shown again, shows its
end only. -/
example : (Reporter.initial.after [(1, .configure ⟨false, false⟩), (2, .configure ⟨false, true⟩),
    (3, .start "Generating"), (7, .configure ⟨true, true⟩),
    (9, .start "Formatting")]).console.output =
      "done Generating (6ms)\n> Formatting\n" := by
  decide +kernel

end RamlClient
