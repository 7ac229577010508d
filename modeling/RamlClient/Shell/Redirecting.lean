import RamlClient.Shell.Runner
/-!
# Redirecting streams

The words of all redirections of a command are expanded before the first of them takes place.
-/

namespace RamlClient.Shell

open Text (ByteText)
open Running

namespace Redirection

section

variable (output : Command → Running ByteText)

/-- The text of what a redirection leads to. -/
def target (r : Redirection) : Running ByteText := do
  match r with
  | .lines _ _ => pure ""
  | .toWord _ sign w => do
    let text ← Expansion.text output w
    match sign, (← own).dialect with
    | .sameInput, .plain | .sameOutput, .plain =>
      match text.toList with
      | ['-'] => pure text
      | [c] => if c.isDigit then pure text else fail "Syntax error: Bad fd number"
      | _ => fail "Syntax error: Bad fd number"
    | _, _ => pure text

end

/-- The report about a file that cannot be opened. -/
def report (dialect : Dialect) (creates : Bool) (path : ByteText) (k : FaultKind) : ByteText :=
  match dialect with
  | .extended => path ++ ": " ++ k.wording
  | .plain =>
    let reason := if k = .absent || k = .notDirectory then
        if creates then "Directory nonexistent" else "No such file"
      else k.wording
    (if creates then "cannot create " else "cannot open ") ++ path ++ ": " ++ reason

/-- Gives a stream a number, or has a report. -/
def assign (number : Nat) (creates : Bool) (path : ByteText) (opened : Except FaultKind Nat) :
    Running (Except ByteText Unit) := do
  match opened with
  | .ok index => do
    assignStream number index
    pure (.ok ())
  | .error k => pure (.error (report (← own).dialect creates path k))

/-- Whether a path leads to a file that may not be written over. -/
def isKept (path : ByteText) : Running Bool := do
  if !(← hasOption 'C') then pure false
  else match ← readFile path with
    | .ok _ => pure (device? (Text.textOfBytes path)).isNone
    | .error _ => pure false

/-- Opens what a redirection leads to, or has a report. -/
def perform (output : Command → Running ByteText) (r : Redirection) (path : ByteText) :
    Running (Except ByteText Unit) := do
  match r with
  | .lines number index => do
    let words := ((← own).texts[index]?).getD []
    let text ← Expansion.text output words
    assignStream number (← openStream ⟨.memory text, 0, false, false⟩)
    pure (.ok ())
  | .toWord number sign _ =>
    match sign with
    | .read => do assign number false path (← openToRead path)
    | .write => do
      if ← isKept path then
        pure (.error (match (← own).dialect with
          | .plain => "cannot create " ++ path ++ ": File exists"
          | .extended => path ++ ": cannot overwrite existing file"))
      else assign number true path (← openToWrite path false false)
    | .overwrite => do assign number true path (← openToWrite path false false)
    | .append => do assign number true path (← openToWrite path true false)
    | .readWrite => do assign number true path (← openToWrite path false true)
    | .here _ => pure (.ok ())
    | .hereWord => do
      assignStream number (← openStream ⟨.memory (path ++ "\n"), 0, false, false⟩)
      pure (.ok ())
    | .writeAll atEnd => do
      match ← assign 1 true path (← openToWrite path atEnd false) with
      | .error e => pure (.error e)
      | .ok () => do
        match ← streamAt? 1 with
        | some (index, _) => assignStream 2 index
        | none => pure ()
        pure (.ok ())
    | .sameInput | .sameOutput => do
      if path = "-" then
        closeStream number
        pure (.ok ())
      else if (path.toList.all Char.isDigit) && path != "" then
        match ← streamAt? (Reading.numberOf 10 path.toList) with
        | some (index, _) => do
          assignStream number index
          pure (.ok ())
        | none => pure (.error (path ++ ": Bad file descriptor"))
      else if sign = .sameOutput && number = 1 then do
        match ← assign 1 true path (← openToWrite path false false) with
        | .error e => pure (.error e)
        | .ok () => do
          match ← streamAt? 1 with
          | some (index, _) => assignStream 2 index
          | none => pure ()
          pure (.ok ())
      else pure (.error (path ++ ": ambiguous redirect"))

/-- Opens what redirections lead to, up to the first report. -/
def performAll (output : Command → Running ByteText) :
    List (Redirection × ByteText) → Running (Except ByteText Unit)
  | [] => pure (.ok ())
  | (r, path) :: rest => do
    match ← perform output r path with
    | .ok () => performAll output rest
    | .error e => pure (.error e)

/-- Redirects streams. The result is 0, or the exit code of what fails with a report. -/
def redirect (output : Command → Running ByteText) (rs : List Redirection) : Running Nat := do
  let named ← rs.mapM fun r => do pure (r, ← target output r)
  match ← performAll output named with
  | .ok () => pure 0
  | .error e => do
    complain e
    pure (match (← own).dialect with
      | .plain => 2
      | .extended => 1)

end Redirection

end RamlClient.Shell
