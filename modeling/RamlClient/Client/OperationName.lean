import RamlClient.Api.Model
import RamlClient.Go.Identifier
/-!
# Names of operations

An operation is named by its display name if it has one. Otherwise its name is made of its verb and
the segments of its path that are no placeholders; the type of a successful response may stand in
for the last segment.
-/

namespace RamlClient.Client

open Api

/-- What the verbs are called in names. -/
def verbNames : List (String × String) :=
  [("get", "Get"), ("post", "Create"), ("put", "Update"), ("patch", "Update"),
   ("delete", "Delete")]

/-- What a verb is called in names. -/
def verbName (verb : String) : String :=
  match verbNames.find? fun v => v.1 == verb with
  | some v => v.2
  | none => String.ofList (Go.upperFirst (Text.lower verb).toList)

/-- The text without a line feed at its end. -/
def dropLineFeed (cs : List Char) : List Char :=
  if cs.getLast? = some '\n' then cs.dropLast else cs

/-- Whether a segment of a path stands between braces, on one line. -/
def isPlaceholder (segment : List Char) : Bool :=
  let cs := dropLineFeed segment
  cs.head? == some '\x7b' && cs.getLast? == some '\x7d' && 3 ≤ cs.length && !cs.contains '\n'

/-- The segments of a path that are no placeholders. -/
def namedSegments (path : String) : List (List Char) :=
  (Text.splitAtChar '/' path.toList).filter fun s => !s.isEmpty && !isPlaceholder s

/-- A list without as many members as given; a negative number counts the members that stay. -/
def dropDepth {α : Type} (depth : Int) (xs : List α) : List α :=
  if 0 ≤ depth then xs.drop depth.toNat else xs.drop (xs.length - (-depth).toNat)

/-- The kind of the elements of the first body of the first successful response. -/
def primaryResponseKind (m : Method) : Except Defect (Option String) := do
  match ← m.successResponse with
  | some ⟨_, body :: _⟩ => pure (some body.type.elementKind)
  | _ => pure none

/-- Whether a kind can stand in for a segment of a path: it starts with an upper-case letter. -/
def isCapitalised (kind : String) : Bool :=
  match kind.toList with
  | c :: _ => Text.isUppercase c
  | [] => false

/-- The parts of a name, with the identifier of a capitalised kind in place of the last one. -/
def replaceLast (parts : List String) (primary : Option String) : List String :=
  match primary with
  | some kind => if isCapitalised kind then parts.dropLast ++ [Go.exportedName kind] else parts
  | none => parts

/-- The name of an operation; `depth` segments of its path are left out. -/
def operationName (r : Resource) (m : Method) (depth : Int) : Except Defect String :=
  match m.displayName with
  | some name => .ok (Go.exportedName name)
  | none => do
    let parts := dropDepth depth <|
      (namedSegments r.path).map fun s => Go.exportedName (String.ofList s)
    let parts := replaceLast parts (← primaryResponseKind m)
    pure (verbName m.verb ++ String.ofList (Go.fixAcronyms (Text.concat parts).toList))

/-- The name of an operation under settings that may leave the number of segments blank. It is
needed only for operations without display names. -/
def configuredName (r : Resource) (m : Method) (depth : Option Int) : Except Defect String :=
  match m.displayName, depth with
  | none, none => .error .missingOptionValue
  | _, depth => operationName r m (depth.getD 0)

end RamlClient.Client
