import RamlClient.Value
/-!
# Loading YAML texts

Loading a text gives its value, or it ends with an error. On the way it asks for the content of each
file that the text includes, one after another, and goes on with the answer. How texts are read is
up to a reader: the documents are the same for every one.
-/

namespace RamlClient.Yaml

/-- Why a text has no value. -/
inductive YamlError where
  /-- The text is not well formed. -/
  | malformed
  /-- A part of it is a defect. -/
  | defect (d : Defect)
deriving DecidableEq, Repr

/-- The course of loading a text. -/
inductive Loading where
  /-- The text has a value. -/
  | done (v : Value)
  /-- The text has no value. -/
  | fault (e : YamlError)
  /-- The content of the file that a path leads to is needed. -/
  | inclusion (path : String) (next : Value → Loading)

/-- Loads texts, given the number of files on the way to a text, which tells labels of different
files apart. -/
abbrev Reader := Nat → String → Loading

namespace Loading

/-- The value that a course leads to, if the included files have contents. A content that fails ends
the course. -/
def run {ε : Type} (content : String → Except ε Value) (failure : YamlError → ε) :
    Loading → Except ε Value
  | .done v => .ok v
  | .fault e => .error (failure e)
  | .inclusion path next =>
    match content path with
    | .ok v => run content failure (next v)
    | .error e => .error e

/-! ### What a course may come to -/

/-- A course asks for the file at a path, whatever the answers before have been. -/
inductive Asks : Loading → String → Prop where
  /-- It asks for the file now. -/
  | now {path : String} {next : Value → Loading} : Asks (.inclusion path next) path
  /-- It asks for the file after another one. -/
  | later {path other : String} {next : Value → Loading} (v : Value) (h : Asks (next v) path) :
    Asks (.inclusion other next) path

/-- A course ends with an error after some answers. -/
inductive Fails : Loading → YamlError → Prop where
  /-- It ends now. -/
  | now {e : YamlError} : Fails (.fault e) e
  /-- It ends after the content of a file. -/
  | later {path : String} {next : Value → Loading} {e : YamlError} (v : Value)
    (h : Fails (next v) e) :
    Fails (.inclusion path next) e

/-- A course leads to a value if each file has the content that a function gives. -/
inductive Gives (content : String → Value) : Loading → Value → Prop where
  /-- It has come to the value. -/
  | done {v : Value} : Gives content (.done v) v
  /-- It goes on with the content of a file. -/
  | inclusion {path : String} {next : Value → Loading} {v : Value}
    (h : Gives content (next (content path)) v) :
    Gives content (.inclusion path next) v

section

variable {ε : Type} {content : String → Except ε Value} {failure : YamlError → ε} {course : Loading}

/-- A course has no value because it fails by itself, or because a file that it asks for has no
content. -/
theorem run_eq_error {f : ε} (h : course.run content failure = .error f) :
    (∃ e, course.Fails e ∧ f = failure e) ∨ ∃ path, course.Asks path ∧ content path = .error f := by
  induction course with
  | done v => cases h
  | fault e => exact .inl ⟨e, .now, (Except.error.inj h).symm⟩
  | inclusion path next ih =>
    rw [run] at h
    split at h
    · rename_i v _
      rcases ih v h with ⟨e, hfails, hf⟩ | ⟨path', hasks, hcontent⟩
      · exact .inl ⟨e, hfails.later v, hf⟩
      · exact .inr ⟨path', hasks.later v, hcontent⟩
    · rename_i f' hcontent
      obtain rfl : f' = f := Except.error.inj h
      exact .inr ⟨path, .now, hcontent⟩

/-- A course leads to its value if every file that it asks for has its content. -/
theorem Gives.run_eq_ok {contents : String → Value} {v : Value} (h : course.Gives contents v)
    (hcontent : ∀ path, course.Asks path → content path = .ok (contents path)) :
    course.run content failure = .ok v := by
  induction h with
  | done => rfl
  | inclusion _ ih =>
    rw [run, hcontent _ .now]
    exact ih fun path hasks => hcontent path (hasks.later _)

end

end Loading

end RamlClient.Yaml
