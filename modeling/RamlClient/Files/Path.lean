import RamlClient.Text.Segment
/-!
# Paths

A path is a list of names, below a root or below the directory it is used in. Empty names and `.`
do not count; `..` does, until the path is normalized.
-/

namespace RamlClient

/-- A path in a file tree. -/
structure Path where
  /-- The slashes that a path below a root starts with: none, one, or exactly two. -/
  anchor : String
  /-- The names on the way. -/
  parts : List String
deriving DecidableEq, Repr

namespace Path

/-- The slashes that count at the start of a path: three or more are as good as one. -/
def anchorOf : List Char → String
  | '/' :: '/' :: '/' :: _ => "/"
  | '/' :: '/' :: _ => "//"
  | '/' :: _ => "/"
  | _ => ""

/-- The path that a text writes. -/
def ofText (s : String) : Path where
  anchor := anchorOf s.toList
  parts := ((Text.splitAtChar '/' s.toList).filter fun p => p != [] && p != ['.']).map String.ofList

/-- The text of a path; the empty path is `.`. -/
def text (p : Path) : String :=
  if p.anchor = "" && p.parts.isEmpty then "." else p.anchor ++ Text.join "/" p.parts

/-- Whether a path is below a root. -/
def isAbsolute (p : Path) : Bool := p.anchor != ""

/-- The path `q` used in the directory `p`. -/
def append (p q : Path) : Path :=
  if q.isAbsolute then q else ⟨p.anchor, p.parts ++ q.parts⟩

instance : Append Path := ⟨append⟩

/-- The path of the directory that holds what a path leads to. -/
def parent (p : Path) : Path := ⟨p.anchor, p.parts.dropLast⟩

/-- The last name of a path. -/
def name (p : Path) : String := p.parts.getLast?.getD ""

/-- The last name from its last dot on, unless the dot starts or ends it. -/
def suffix (p : Path) : String :=
  let cs := p.name.toList
  let tail := Text.afterLastChar '.' cs
  let before := cs.length - tail.length
  if 1 < before && !tail.isEmpty then String.ofList ('.' :: tail) else ""

/-- The names without `..`: each one takes the name before it away. -/
def climb (parts : List String) : List String :=
  (parts.foldl (fun up name => if name = ".." then up.tail else name :: up) []).reverse

/-- The path from the root without `..`, seen from a directory given by its names. No link is
followed. -/
def normalized (workingDir : List String) (p : Path) : Path where
  anchor := "/"
  parts := climb (if p.isAbsolute then p.parts else workingDir ++ p.parts)

end Path

end RamlClient
