import RamlClient.Text.Segment
import RamlClient.Yaml.Timestamp
/-!
# Tags

The tag of a node says what kind of value it has. A plain scalar without a tag gets one by its text:
words for nothing and for truth values, numerals and timestamps have tags of their own, and all else
is a text.
-/

namespace RamlClient.Yaml

/-- The kinds of values that nodes have. -/
inductive Tag where
  /-- No value. -/
  | null
  /-- A truth value. -/
  | bool
  /-- A whole number. -/
  | int
  /-- A floating-point number. -/
  | float
  /-- A date or a time. -/
  | timestamp
  /-- A text. -/
  | text
  /-- A sequence of bytes. -/
  | binary
  /-- The key whose value holds entries to merge. -/
  | mergeKey
  /-- The key whose value stands for the whole mapping. -/
  | valueKey
  /-- A list. -/
  | sequence
  /-- A mapping. -/
  | mapping
  /-- A set. -/
  | set
  /-- A list of pairs. -/
  | pairs
  /-- The content of another file. -/
  | inclusion
  /-- Any other. -/
  | unknown
deriving DecidableEq, Repr

namespace Tag

/-- What the names of common tags start with. -/
def commonStart : List Char := "tag:yaml.org,2002:".toList

/-- The names of common tags after their start. -/
def commonNames : List (String × Tag) :=
  [("null", null), ("bool", bool), ("int", int), ("float", float), ("timestamp", timestamp),
   ("str", text), ("binary", binary), ("merge", mergeKey), ("value", valueKey), ("seq", sequence),
   ("map", mapping), ("set", set), ("omap", pairs), ("pairs", pairs)]

/-- The name of the tag for the content of another file. -/
def inclusionName : List Char := "!include".toList

/-- The tag of a name. -/
def ofName (name : List Char) : Tag :=
  if name = inclusionName then inclusion
  else if commonStart.isPrefixOf name then
    let rest := name.drop commonStart.length
    ((commonNames.find? fun n => n.1.toList == rest).map (·.2)).getD unknown
  else unknown

/-! ### Tags of plain scalars -/

/-- The words for nothing. -/
def nullWords : List String := ["", "~", "null", "Null", "NULL"]

/-- The words for truth values. -/
def boolWords : List String :=
  ["yes", "Yes", "YES", "no", "No", "NO", "true", "True", "TRUE", "false", "False", "FALSE",
   "on", "On", "ON", "off", "Off", "OFF"]

/-- A text without one sign at its start. -/
def unsigned : List Char → List Char
  | '+' :: r => r
  | '-' :: r => r
  | cs => cs

/-- Whether all characters are of a class or underscores. -/
def allDigits (p : Char → Bool) (cs : List Char) : Bool := cs.all fun c => c == '_' || p c

/-- Whether a text starts with a digit and goes on with digits and underscores. -/
def isDigits : List Char → Bool
  | [] => false
  | c :: r => c.isDigit && allDigits Char.isDigit r

/-- Whether a text is a number below sixty of at most two digits. -/
def isSixtieth : List Char → Bool
  | [c] => c.isDigit
  | [c, d] => '0' ≤ c && c ≤ '5' && d.isDigit
  | _ => false

/-- Whether a text has at least one colon and a number below sixty after each, and what stands
before the first one. -/
def sixtiethsAfter? (cs : List Char) : Option (List Char) :=
  match Text.splitAtChar ':' cs with
  | whole :: part :: parts => if (part :: parts).all isSixtieth then some whole else none
  | _ => none

/-- Whether a text without sign is a whole number. -/
def isUnsignedInt : List Char → Bool
  | ['0'] => true
  | '0' :: 'b' :: r => !r.isEmpty && allDigits (fun c => c == '0' || c == '1') r
  | '0' :: 'x' :: r =>
    !r.isEmpty && allDigits (fun c =>
      c.isDigit || ('a' ≤ c && c ≤ 'f') || ('A' ≤ c && c ≤ 'F')) r
  | '0' :: r => allDigits (fun c => '0' ≤ c && c ≤ '7') r
  | cs => isDigits ((sixtiethsAfter? cs).getD cs)

/-- Whether a text is empty or an exponent with a sign. -/
def isExponent : List Char → Bool
  | [] => true
  | e :: sign :: r =>
    (e == 'e' || e == 'E') && (sign == '+' || sign == '-') && !r.isEmpty && r.all Char.isDigit
  | _ => false

/-- Whether a text is a floating-point number. A number without digits before its point has no
sign. -/
def isFloat (cs : List Char) : Bool :=
  match Text.cutAtChar '.' cs with
  | (_, none) => false
  | (before, some after) =>
    let rest := after.dropWhile fun c => c == '_' || c.isDigit
    let whole := unsigned before
    if whole.isEmpty then
      ["inf", "Inf", "INF"].contains (String.ofList after) ||
        (before.isEmpty &&
          (["nan", "NaN", "NAN"].contains (String.ofList after) ||
            ((after.head?.getD ' ').isDigit && isExponent rest)))
    else if isDigits whole then isExponent rest
    else match sixtiethsAfter? whole with
      | some first => isDigits first && rest.isEmpty
      | none => false

/-- Whether a text is a timestamp. A date alone has two digits for month and day. -/
def isTimestamp (cs : List Char) : Bool :=
  match Timestamp.ofChars? cs with
  | some t => t.padded || t.time.isSome
  | none => false

/-- The tag of a scalar of one line without a tag of its own. -/
def ofLine (cs : List Char) : Tag :=
  let s := String.ofList cs
  if nullWords.contains s then null
  else if boolWords.contains s then bool
  else if isUnsignedInt (unsigned cs) then int
  else if isFloat cs then float
  else if isTimestamp cs then timestamp
  else if s = "<<" then mergeKey
  else if s = "=" then valueKey
  else if ["!", "&", "*"].contains s then unknown
  else text

/-- The tag of a scalar without a tag of its own. One line end after it does not count. -/
def ofPlain (cs : List Char) : Tag :=
  if cs = ['\n'] then text
  else if cs.getLast? = some '\n' then ofLine cs.dropLast
  else ofLine cs

end Tag

end RamlClient.Yaml
