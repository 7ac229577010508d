import RamlClient.Text.Blank
import RamlClient.Text.Segment
/-!
# Types of values and the expressions that write them

A value has a type of some kind, and may be missing unless it is required. Types are written as
expressions: a name, an array `E[]`, a union `E | F`, and parentheses. A union with `nil` makes the
value optional.
-/

namespace RamlClient.Api

/-- The type of a property, a parameter or a body. -/
structure TypeDescriptor where
  /-- A built-in kind or the name of a declared type. -/
  kind : String
  /-- Whether a value must be present. -/
  required : Bool
  /-- The type of the elements of an array. -/
  items : Option TypeDescriptor
  /-- The alternatives of a union. -/
  unionMembers : List String
deriving Repr

namespace TypeDescriptor

/-- Decides whether two types are the same, elements first. -/
def decEq : (d e : TypeDescriptor) → Decidable (d = e)
  | ⟨k, r, none, u⟩, ⟨k', r', none, u'⟩ =>
    if h : k = k' ∧ r = r' ∧ u = u' then isTrue (by simp [h])
    else isFalse (by simpa using h)
  | ⟨k, r, some i, u⟩, ⟨k', r', some i', u'⟩ =>
    match decEq i i' with
    | isTrue hi =>
      if h : k = k' ∧ r = r' ∧ u = u' then isTrue (by simp [h, hi])
      else isFalse (by simpa [hi] using h)
    | isFalse hi => isFalse (by simp [hi])
  | ⟨_, _, none, _⟩, ⟨_, _, some _, _⟩ => isFalse (by simp)
  | ⟨_, _, some _, _⟩, ⟨_, _, none, _⟩ => isFalse (by simp)

instance : DecidableEq TypeDescriptor := decEq

/-- A type that is neither an array nor a union. -/
def named (kind : String) (required : Bool) : TypeDescriptor := ⟨kind, required, none, []⟩

/-- An array of the given elements. -/
def arrayOf (items : TypeDescriptor) (required : Bool) : TypeDescriptor :=
  ⟨"array", required, some items, []⟩

/-- A union of the given alternatives. -/
def unionOf (members : List String) (required : Bool) : TypeDescriptor :=
  ⟨"union", required, none, members⟩

/-- Whether the type is an array. -/
def isArray (d : TypeDescriptor) : Bool := d.items.isSome

/-- Whether the type is a union of at least two alternatives. -/
def isUnion (d : TypeDescriptor) : Bool := 1 < d.unionMembers.length

/-- The kind of the innermost elements of an array, and of any other type its own kind. -/
def elementKind : TypeDescriptor → String
  | ⟨_, _, some items, _⟩ => items.elementKind
  | ⟨kind, _, none, _⟩ => kind

end TypeDescriptor

/-- The kinds of types that need no declaration. -/
def builtinKinds : List String :=
  ["any", "array", "boolean", "date-only", "datetime", "datetime-only", "file", "integer", "nil",
   "number", "object", "string", "time-only", "uint", "union", "IsoDate", "UnixTimestampMillis"]

namespace TypeExpression

/-- How deep parentheses are nested after a character. -/
def depthAfter (depth : Int) (c : Char) : Int :=
  if c = '(' then depth + 1 else if c = ')' then depth - 1 else depth

/-- The pieces of an expression between the bars outside parentheses. -/
def pieces (depth : Int) : List Char → List (List Char)
  | [] => [[]]
  | c :: r =>
    if c = '|' ∧ depth = 0 then [] :: pieces 0 r
    else match pieces (depthAfter depth c) r with
      | [] => [[c]]
      | piece :: rest => (c :: piece) :: rest

/-- The alternatives of a union: its pieces without the white space around them and without the
empty ones. -/
def alternatives (cs : List Char) : List (List Char) :=
  ((pieces 0 cs).map Text.trimChars).filter fun m => !m.isEmpty

/-- The alternatives of a union as texts. -/
def splitUnion (s : String) : List String := (alternatives s.toList).map String.ofList

/-- The text of the type without a value. -/
def nilName : List Char := ['n', 'i', 'l']

/-- The type that a text stands for, if `read` gives the types of the texts inside it. Alternatives
that are `nil` are dropped from a union. A text that begins with a brace or an angle bracket is a
schema of some other kind. -/
def descriptorBy (read : List Char → Bool → TypeDescriptor) (cs : List Char) (required : Bool) :
    TypeDescriptor :=
  let text := Text.trimChars cs
  if text = [] then .named "string" required
  else if text.head? = some '\x7b' ∨ text.head? = some '<' then .named "any" required
  else if 1 < (alternatives text).length then
    match (alternatives text).filter (· != nilName) with
    | [] => .named "nil" false
    | [m] => read m false
    | members => .unionOf (members.map String.ofList) required
  else if [']', '['].isPrefixOf text.reverse then
    .arrayOf (read text.dropLast.dropLast true) required
  else if text.head? = some '(' ∧ text.getLast? = some ')' then read text.tail.dropLast required
  else .named (String.ofList text) required

/-- The type that a text of some length stands for. The texts inside it are shorter, and the empty
text has none inside. -/
def descriptorWithin : Nat → List Char → Bool → TypeDescriptor
  | 0 => fun _ required => .named "string" required
  | length + 1 => descriptorBy (descriptorWithin length)

/-- The type that a text stands for. -/
def parse (s : String) (required : Bool) : TypeDescriptor :=
  descriptorWithin s.toList.length s.toList required

end TypeExpression

end RamlClient.Api
