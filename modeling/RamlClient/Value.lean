import RamlClient.Calendar
import RamlClient.Decimal.Notation
import RamlClient.Defect
import RamlClient.Slots
import RamlClient.Text.Numeral
import RamlClient.Text.Quoted
/-!
# Document values

A document is made of scalars, lists and mappings. A mapping keeps its entries in order and has no
key twice; keys may be any scalar. Numbers that are equal are the same key, whether they are whole
numbers, floating-point numbers or truth values. What is no number is not even the same key as
itself, but for the one value that stands for it by its own word.

A list or a mapping may contain itself. It is written as a knot: it has a label, and inside of it
the label stands for the whole. `Value.opened` puts the whole in the place of the label, so that its
parts can be looked at like those of any other value.
-/

namespace RamlClient

/-- What tells collections apart that contain themselves. -/
structure Label where
  /-- The number of files on the way to the collection. -/
  file : Nat
  /-- The number of the collection in its file. -/
  node : Nat
deriving DecidableEq, Repr

/-- A value in a document. -/
inductive Value where
  /-- No value. -/
  | null
  /-- A truth value. -/
  | bool (b : Bool)
  /-- A whole number. -/
  | int (n : Int)
  /-- A floating-point number. -/
  | float (x : Float)
  /-- The value of the word for what is no number. -/
  | undefined
  /-- A text. -/
  | text (s : String)
  /-- A date. -/
  | date (d : Date)
  /-- A time of day on a date. -/
  | dateTime (t : DateTime)
  /-- A sequence of bytes. -/
  | bytes (bs : List UInt8)
  /-- A set of values. -/
  | set (members : List Value)
  /-- Two values, one after another. -/
  | pair (first second : Value)
  /-- A list of values. -/
  | list (items : List Value)
  /-- A mapping, in the order of its entries. -/
  | mapping (entries : List (Value × Value))
  /-- A collection that contains itself; `again` stands for it inside. -/
  | knot (label : Label) (collection : Value)
  /-- The collection of a label, inside of it. -/
  | again (label : Label)

namespace Value

/-! ### Collections that contain themselves -/

mutual
/-- The value with a whole in the place of its label. -/
def plug (label : Label) (whole : Value) : Value → Value
  | .pair a b => .pair (plug label whole a) (plug label whole b)
  | .list items => .list (plugItems label whole items)
  | .mapping entries => .mapping (plugEntries label whole entries)
  | .knot l c => if l = label then .knot l c else .knot l (plug label whole c)
  | .again l => if l = label then whole else .again l
  | v => v
termination_by structural v => v

/-- The values with a whole in the place of its label. -/
def plugItems (label : Label) (whole : Value) : List Value → List Value
  | [] => []
  | v :: r => plug label whole v :: plugItems label whole r
termination_by structural vs => vs

/-- The entries with a whole in the place of its label. -/
def plugEntries (label : Label) (whole : Value) : List (Value × Value) → List (Value × Value)
  | [] => []
  | (k, v) :: r => (k, plug label whole v) :: plugEntries label whole r
termination_by structural es => es
end

/-- The value as a plain collection if it is one that contains itself. -/
def opened : Value → Value
  | .knot l c => plug l (.knot l c) c
  | v => v

/-- Whether a value is a mapping. -/
def isMapping : Value → Bool
  | .mapping _ => true
  | .knot _ c => isMapping c
  | _ => false

mutual
/-- How many mappings stand inside one another on the ways into a value at most. The ways lead
through the elements of lists and the values of keys of a kind, and they end where a collection
contains itself. -/
def depthUnder (isOnWay : Value → Bool) : Value → Nat
  | .list items => itemDepthUnder isOnWay items
  | .mapping entries => entryDepthUnder isOnWay entries + 1
  | .knot _ c => depthUnder isOnWay c
  | _ => 0
termination_by structural v => v

/-- How many mappings stand inside one another in some values at most. -/
def itemDepthUnder (isOnWay : Value → Bool) : List Value → Nat
  | [] => 0
  | v :: r => max (depthUnder isOnWay v) (itemDepthUnder isOnWay r)
termination_by structural vs => vs

/-- How many mappings stand inside one another in the values of some entries at most. -/
def entryDepthUnder (isOnWay : Value → Bool) : List (Value × Value) → Nat
  | [] => 0
  | (k, v) :: r =>
    if isOnWay k then max (depthUnder isOnWay v) (entryDepthUnder isOnWay r)
    else entryDepthUnder isOnWay r
termination_by structural es => es
end

/-! ### Keys -/

/-- The number that a value is as a key, if it is a whole number, an equal floating-point number or
a truth value. -/
def wholeNumber? : Value → Option Int
  | .bool b => some (if b then 1 else 0)
  | .int n => some n
  | .float x => (Decimal.Binary.ofFloat x).toInt?
  | _ => none

/-- Whether two scalars are the same key. -/
def sameKey (v w : Value) : Bool :=
  match v.wholeNumber?, w.wholeNumber? with
  | some m, some n => m == n
  | some _, none => false
  | none, some _ => false
  | none, none =>
    match v, w with
    | .null, .null => true
    | .float x, .float y => x == y
    | .undefined, .undefined => true
    | .text s, .text t => s == t
    | .date d, .date e => d == e
    | .dateTime s, .dateTime t => s.same t
    | .bytes s, .bytes t => s == t
    | _, _ => false

/-- Whether a value can be a key. -/
def isKey : Value → Bool
  | .set _ => false
  | .list _ => false
  | .mapping _ => false
  | .knot _ _ => false
  | .again _ => false
  | _ => true

/-- Entries with one more: an entry of the same key keeps its place and its key, and takes the new
value. -/
def insertEntry (entries : List (Value × Value)) (key value : Value) : List (Value × Value) :=
  match entries with
  | [] => [(key, value)]
  | (k, v) :: r => if k.sameKey key then (k, value) :: r else (k, v) :: insertEntry r key value

/-- Entries followed by others, without repeated keys. -/
def mergeEntries (entries more : List (Value × Value)) : List (Value × Value) :=
  more.foldl (fun es e => insertEntry es e.1 e.2) entries

/-- The mapping with the given entries, without repeated keys. -/
def ofEntries (entries : List (Value × Value)) : Value := .mapping (mergeEntries [] entries)

/-- The value of the first entry with a key that is a text. -/
def entryAt? (entries : List (Value × Value)) (key : String) : Option Value :=
  (entries.find? fun e => e.1.sameKey (.text key)).map (·.2)

/-- The value under a key that is a text; only mappings have one. -/
def get? (v : Value) (key : String) : Option Value :=
  match v.opened with
  | .mapping entries => entryAt? entries key
  | _ => none

/-! ### Sets -/

/-- The code of a number or a truth value, under which it is put into a slot. -/
def slotCode? : Value → Option Int
  | .bool b => some (if b then 1 else 0)
  | .int n => some (Slots.codeOfInt n)
  | .float x => Slots.codeOfBinary? (Decimal.Binary.ofFloat x)
  | _ => none

/-- The set of some values. Numbers alone are in the order of their slots, and other values in the
order of their first mention. -/
def ofMembers (members : List Value) : Value :=
  match members.mapM fun v => v.slotCode?.map (·, v) with
  | some coded => .set (Slots.order coded)
  | none => .set members

/-! ### Truth and text -/

/-- Whether a value counts as true: zero and whatever is empty do not. -/
def isTrue : Value → Bool
  | .null => false
  | .bool b => b
  | .int n => n != 0
  | .float x => x != 0.0
  | .undefined => true
  | .text s => s != ""
  | .date _ => true
  | .dateTime _ => true
  | .bytes bs => !bs.isEmpty
  | .set members => !members.isEmpty
  | .pair _ _ => true
  | .list items => !items.isEmpty
  | .mapping entries => !entries.isEmpty
  | .knot _ _ => true
  | .again _ => true

/-- The byte as it is written in a quoted sequence of bytes. -/
def quotedByte (quote : Char) (b : UInt8) : List Char :=
  let c := Char.ofNat b.toNat
  if b < 0x80 then Text.quotedChar quote c else '\\' :: 'x' :: Text.hexPadded 2 b.toNat

/-- A sequence of bytes in quotes. -/
def quotedBytes (bs : List UInt8) : String :=
  let quote := Text.quoteFor (bs.map fun b => Char.ofNat b.toNat)
  String.ofList ('b' :: quote :: (bs.flatMap (quotedByte quote) ++ [quote]))

/-- The least number with more digits than can be written. -/
def overlong : Nat := Decimal.tenTo Text.maxNumeralDigits

/-- A whole number in digits, unless there are too many. -/
def digitsOf (n : Int) : Except Defect String :=
  if n.natAbs < overlong then .ok (toString n) else .error .overlongNumber

/-- What a collection is written as inside of itself. -/
def ellipsis : Value → String
  | .mapping _ => "\x7b...\x7d"
  | _ => "[...]"

mutual
/-- The written form of a value, with texts in quotes. `around` holds the labels of the collections
that the value stands in, and what they are written as. -/
def shownWithin (around : List (Label × String)) : Value → Except Defect String
  | .null => .ok "None"
  | .bool b => .ok (if b then "True" else "False")
  | .int n => digitsOf n
  | .float x => .ok (Decimal.floatText x)
  | .undefined => .ok "nan"
  | .text s => .ok (Text.quoted s)
  | .date d => .ok ("datetime.date(" ++ Text.join ", " d.parts ++ ")")
  | .dateTime t => .ok ("datetime.datetime(" ++ Text.join ", " t.parts ++ ")")
  | .bytes bs => .ok (quotedBytes bs)
  | .set [] => .ok "set()"
  | .set members => do
    pure ("\x7b" ++ Text.join ", " (← shownItems around members) ++ "\x7d")
  | .pair a b => do
    pure ("(" ++ (← shownWithin around a) ++ ", " ++ (← shownWithin around b) ++ ")")
  | .list items => do pure ("[" ++ Text.join ", " (← shownItems around items) ++ "]")
  | .mapping entries => do
    pure ("\x7b" ++ Text.join ", " (← shownEntries around entries) ++ "\x7d")
  | .knot l c =>
    match around.find? (·.1 == l) with
    | some a => .ok a.2
    | none => shownWithin ((l, ellipsis c) :: around) c
  | .again l => .ok (((around.find? (·.1 == l)).map (·.2)).getD "[...]")
termination_by structural v => v

/-- The written forms of values. -/
def shownItems (around : List (Label × String)) : List Value → Except Defect (List String)
  | [] => .ok []
  | v :: r => do
    let s ← shownWithin around v
    pure (s :: (← shownItems around r))
termination_by structural vs => vs

/-- The written forms of entries. -/
def shownEntries (around : List (Label × String)) :
    List (Value × Value) → Except Defect (List String)
  | [] => .ok []
  | (k, v) :: r => do
    let s ← shownWithin around k
    let t ← shownWithin around v
    pure ((s ++ ": " ++ t) :: (← shownEntries around r))
termination_by structural es => es
end

/-- The written form of a value, with texts in quotes. -/
def shown (v : Value) : Except Defect String := v.shownWithin []

/-- A value as a text: a text stands for itself, dates are written with hyphens, and all else is
shown. -/
def toText : Value → Except Defect String
  | .text s => .ok s
  | .date d => .ok d.text
  | .dateTime t => .ok (t.textWith " ")
  | v => v.shown

end Value

end RamlClient
