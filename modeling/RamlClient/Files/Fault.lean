import RamlClient.Text.Quoted
/-!
# Faults of the file system

What can go wrong with an operation on files, and the text that reports it.
-/

namespace RamlClient

/-- The kinds of faults. -/
inductive FaultKind where
  /-- Nothing is there. -/
  | absent
  /-- A file is no program. -/
  | notProgram
  /-- A stream is not open. -/
  | closedStream
  /-- Access is not allowed. -/
  | denied
  /-- Something is there already. -/
  | exists
  /-- A directory was needed. -/
  | notDirectory
  /-- A directory is in the way. -/
  | isDirectory
  /-- The operation makes no sense there. -/
  | invalid
  /-- A name is too long. -/
  | nameTooLong
  /-- A directory is not empty. -/
  | notEmpty
  /-- Links lead to links without an end. -/
  | linkLoop
  /-- There is no such device. -/
  | noDevice
  /-- There is no space left. -/
  | noSpace
deriving DecidableEq, Repr

/-- The number of a kind of fault. -/
def FaultKind.number : FaultKind → Nat
  | .absent => 2
  | .noDevice => 6
  | .notProgram => 8
  | .closedStream => 9
  | .denied => 13
  | .exists => 17
  | .notDirectory => 20
  | .isDirectory => 21
  | .invalid => 22
  | .noSpace => 28
  | .nameTooLong => 36
  | .notEmpty => 39
  | .linkLoop => 40

/-- The wording of a kind of fault. -/
def FaultKind.wording : FaultKind → String
  | .absent => "No such file or directory"
  | .notProgram => "Exec format error"
  | .closedStream => "Bad file descriptor"
  | .denied => "Permission denied"
  | .exists => "File exists"
  | .notDirectory => "Not a directory"
  | .isDirectory => "Is a directory"
  | .invalid => "Invalid argument"
  | .nameTooLong => "File name too long"
  | .notEmpty => "Directory not empty"
  | .noDevice => "No such device or address"
  | .noSpace => "No space left on device"
  | .linkLoop => "Too many levels of symbolic links"

/-- A fault at a path. -/
structure Fault where
  /-- What went wrong. -/
  kind : FaultKind
  /-- The path as it was used. -/
  path : String
deriving DecidableEq, Repr

/-- The report of a fault. -/
def Fault.message (f : Fault) : String :=
  "[Errno " ++ toString f.kind.number ++ "] " ++ f.kind.wording ++ ": " ++ Text.quoted f.path

end RamlClient
