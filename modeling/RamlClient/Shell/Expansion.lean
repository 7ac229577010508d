import RamlClient.Shell.Arithmetic
import RamlClient.Text.Glob
/-!
# From words to texts

The parts of a word are replaced by what they stand for. What is not quoted is then cut into fields,
and a field with a pattern becomes the paths that it fits.
-/

namespace RamlClient.Shell

open Text (ByteText Glob QuotedChar)
open Running

/-- A character of a word, or a mark between characters. -/
inductive Glyph where
  /-- A character; it may be quoted, and it may separate fields. -/
  | char (c : Char) (quoted splits : Bool)
  /-- The end of a field. -/
  | fieldEnd
  /-- A place where there is a field even without characters. -/
  | present
deriving DecidableEq, Repr

namespace Expansion

/-! ### Parameters -/

/-- Whether a name is that of all arguments. -/
def isAll (name : String) : Bool := name == "@" || name == "*"

/-- The value of a parameter, if it is set. -/
def parameter? (name : String) : Running (Option ByteText) := do
  let p ← own
  match name.toList with
  | [c] =>
    if c = '#' then pure (some (toString p.args.length))
    else if c = '?' then pure (some (toString p.status))
    else if c = '$' then pure (some (toString p.shellId))
    else if c = '-' then pure (some (String.ofList p.options))
    else if c = '!' then pure (p.lastBackground.map toString)
    else if c = '@' || c = '*' then
      pure (if p.args.isEmpty then none else some (Text.join " " p.args))
    else if c = '0' then pure (some p.name)
    else if c.isDigit then pure p.args[c.toNat - 49]?
    else valueOf? name
  | cs =>
    if name = "LINENO" && p.dialect = .extended then pure (some (toString p.line))
    else if name = "PPID" then pure (some (toString (p.shellId - 1)))
    else if cs.all Char.isDigit then
      match Reading.numberOf 10 cs with
      | 0 => pure (some p.name)
      | n + 1 => pure p.args[n]?
    else valueOf? name

/-- What separates the fields of a line. -/
def separators : Running (List Char) := do
  pure (((← valueOf? "IFS").getD " \t\n").toList)

/-- What stands between the arguments in one field. -/
def joint (name : String) : Running ByteText := do
  if name == "@" then pure " "
  else
    match ← valueOf? "IFS" with
    | none => pure " "
    | some s => pure (String.ofList (s.toList.take 1))

/-- The characters of a text. -/
def glyphs (s : ByteText) (quoted splits : Bool) : List Glyph :=
  s.toList.map fun c => .char c quoted splits

/-- The characters of the value of a parameter. -/
def valueGlyphs (s : ByteText) (quoted : Bool) : List Glyph :=
  if quoted then .present :: glyphs s true false else glyphs s false true

/-- The characters of all arguments. -/
def allGlyphs (name : String) (fields quoted : Bool) (args : List ByteText) :
    Running (List Glyph) := do
  if fields && (!quoted || name == "@") then
    pure (List.intercalate [.fieldEnd] (args.map fun a => valueGlyphs a quoted))
  else
    let text := Text.join (← joint name) args
    pure (if name == "@" && args.isEmpty then [] else valueGlyphs text quoted)

/-- The text of characters. -/
def textOf (gs : List Glyph) : ByteText :=
  String.ofList (gs.filterMap fun
    | .char c _ _ => some c
    | .fieldEnd => some ' '
    | .present => none)

/-- The characters with their quotation. -/
def quotedChars (gs : List Glyph) : List QuotedChar :=
  gs.filterMap fun
    | .char c quoted _ => some (c, quoted)
    | .fieldEnd => some (' ', false)
    | .present => none

/-- The pattern that characters write. -/
def patternOf (gs : List Glyph) : Glob := Glob.ofChars (quotedChars gs)

/-- The number of characters of a value. -/
def sizeOf (dialect : Dialect) (s : ByteText) : Nat :=
  match dialect with
  | .plain => s.length
  | .extended => (Text.textOfBytes s).length

/-- A text in upper or lower case. -/
def recase (upper all : Bool) (s : ByteText) : ByteText :=
  let turn (c : Char) : Char := if upper then c.toUpper else c.toLower
  match s.toList with
  | [] => ""
  | c :: r => String.ofList (turn c :: if all then r.map turn else r)

/-- A text with what a pattern fits replaced: the first time, or each time. -/
def replaceIn (p : Glob) (new : List Char) (all : Bool) : Nat → List Char → List Char
  | 0, cs => cs
  | fuel + 1, cs =>
    match p.longestAtStart? cs with
    | some (_ :: _, rest) => if all then new ++ replaceIn p new all fuel rest else new ++ rest
    | _ =>
      match cs with
      | [] => []
      | c :: r => c :: replaceIn p new all fuel r

/-- A text with what a pattern fits replaced, at the place that a mark says. -/
def replaceAt (mark : Option Char) (p : Glob) (new : List Char) (cs : List Char) : List Char :=
  match mark with
  | some '#' =>
    match p.longestAtStart? cs with
    | some (_, rest) => new ++ rest
    | none => cs
  | some '%' =>
    match (Glob.cuts cs).find? fun c => p.fits c.2 with
    | some c => c.1 ++ new
    | none => cs
  | mark => replaceIn p new mark.isSome (cs.length + 1) cs

/-- A part of a text: from a place on, counted from the end if negative, and up to a length. -/
def sliceOf (start : Int) (length : Option Int) (cs : List Char) : List Char :=
  let size : Int := cs.length
  let start := if start < 0 then size + start else start
  if start < 0 then []
  else
    let rest := cs.drop start.toNat
    match length with
    | none => rest
    | some n =>
      if n < 0 then rest.take (rest.length - (-n).toNat) else rest.take n.toNat

/-- The home of a user, if there is one. -/
def homeOf (user : String) : Running (Option ByteText) := do
  if user = "" then valueOf? "HOME" else pure (if user = "root" then some "/root" else none)

/-- The characters at the start of a word that stand for a home, and the text after them. -/
def homeGlyphs (s : String) (atEnd : Bool) (ends : List Char) :
    Running (Option (List Glyph × List Char)) := do
  match s.toList with
  | '~' :: r =>
    let user := r.takeWhile fun c => !ends.contains c
    let rest := r.drop user.length
    if rest.isEmpty && !atEnd then pure none
    else
      match ← homeOf (String.ofList user) with
      | some home => pure (some (glyphs home true false, rest))
      | none => pure none
  | _ => pure none

section

variable (output : Command → Running ByteText)

mutual

/-- The characters of the parts of a word. `fields` says whether it can become several fields, and
`splits` whether its unquoted texts can separate them. -/
def parts (fields splits : Bool) (w : List Part) : Running (List Glyph) :=
  match w with
  | [] => pure []
  | p :: r => do
    let gs ← part fields splits p
    pure (gs ++ (← parts fields splits r))
termination_by structural w

/-- The characters of a part of a word. -/
def part (fields splits : Bool) (p : Part) : Running (List Glyph) :=
  match p with
  | .text s quoted =>
    if s = "" && quoted then pure [.present]
    else pure ((if quoted then [.present] else []) ++ glyphs s quoted splits)
  | .parameter name use quoted => usedParameter fields name quoted use
  | .output command quoted => do
    let text ← output command
    let cs := (text.toList.reverse.dropWhile (· == '\n')).reverse.filter (· != '\x00')
    pure (valueGlyphs (String.ofList cs) quoted)
  | .number expression quoted => do
    let gs ← parts false false expression
    let n ← Arithmetic.evaluate (textOf gs)
    pure (valueGlyphs (toString n) quoted)
termination_by structural p

/-- The characters of what is made of a parameter. -/
def usedParameter (fields : Bool) (name : String) (quoted : Bool) (use : ParameterUse) :
    Running (List Glyph) :=
  match use with
  | .value => do
    if isAll name then allGlyphs name fields quoted (← own).args
    else
      match ← parameter? name with
      | some s => pure (valueGlyphs s quoted)
      | none => do
        if ← hasOption 'u' then fail (name ++ ": parameter not set")
        pure (valueGlyphs "" quoted)
  | .size => do
    if isAll name then pure (valueGlyphs (toString (← own).args.length) quoted)
    else
      match ← parameter? name with
      | some s => do
        pure (valueGlyphs (toString (sizeOf (← own).dialect s)) quoted)
      | none => do
        if ← hasOption 'u' then fail (name ++ ": parameter not set")
        pure (valueGlyphs "0" quoted)
  | .fallback sign whenEmpty word => do
    let value ← parameter? name
    let isGiven := match value with
      | none => false
      | some s => !(whenEmpty && s == "")
    let given : Running (List Glyph) := do
      if isAll name then allGlyphs name fields quoted (← own).args
      else pure (valueGlyphs (value.getD "") quoted)
    match sign with
    | '-' => do
      if isGiven then given
      else
        let gs ← parts fields (!quoted) word
        pure (if quoted then .present :: gs else gs)
    | '+' => do
      if isGiven then
        let gs ← parts fields (!quoted) word
        pure (if quoted then .present :: gs else gs)
      else pure (valueGlyphs "" quoted)
    | '=' => do
      if isGiven then given
      else
        let gs ← parts false false word
        if Reading.isName name then
          setVariable name (textOf gs)
          pure (valueGlyphs (textOf gs) quoted)
        else fail (name ++ ": bad variable name")
    | _ => do
      if isGiven then given
      else
        let gs ← parts false false word
        let usual := match (← own).dialect, whenEmpty with
          | .plain, false => "parameter not set"
          | .plain, true => "parameter not set or null"
          | .extended, false => "parameter not set"
          | .extended, true => "parameter null or not set"
        fail (name ++ ": " ++ (if word.isEmpty then usual else textOf gs))
  | .trimmed atEnd longest word => do
    let value ← parameter? name
    if value.isNone && (← hasOption 'u') then fail (name ++ ": parameter not set")
    let p := patternOf (← parts false false word)
    let cs := (value.getD "").toList
    let cs := if atEnd then p.trimEnd longest cs else p.trimStart longest cs
    pure (valueGlyphs (String.ofList cs) quoted)
  | .recased upper all word => do
    let value := (← parameter? name).getD ""
    discard (parts false false word)
    pure (valueGlyphs (recase upper all value) quoted)
  | .replaced mark word new => do
    let value := (← parameter? name).getD ""
    let p := patternOf (← parts false false word)
    let new := (textOf (← parts false false new)).toList
    pure (valueGlyphs (String.ofList (replaceAt mark p new value.toList)) quoted)
  | .slice start none => do
    let value := (← parameter? name).getD ""
    let start ← Arithmetic.evaluate (textOf (← parts false false start))
    pure (valueGlyphs (String.ofList (sliceOf start none value.toList)) quoted)
  | .slice start (some length) => do
    let value := (← parameter? name).getD ""
    let start ← Arithmetic.evaluate (textOf (← parts false false start))
    let length ← Arithmetic.evaluate (textOf (← parts false false length))
    pure (valueGlyphs (String.ofList (sliceOf start (some length) value.toList)) quoted)
  | .indirect => do
    let other := (← parameter? name).getD ""
    pure (valueGlyphs ((← parameter? other).getD "") quoted)
  | .senseless => fail "Bad substitution"
termination_by structural use

end

/-! ### Words without fields -/

/-- The characters of a word that may start with a home. `ends` holds the characters at which the
name of a user ends. -/
def wordGlyphs (fields : Bool) (ends : List Char) (w : Word) : Running (List Glyph) := do
  match w with
  | .text s false :: r =>
    match ← homeGlyphs s r.isEmpty ends with
    | some (home, rest) => do
      pure (home ++ glyphs (String.ofList rest) false false ++ (← parts output fields false r))
    | none => parts output fields false w
  | w => parts output fields false w

/-- The text of a word that stays one field. -/
def text (w : Word) : Running ByteText := do pure (textOf (← wordGlyphs output false ['/'] w))

/-- The value of an assignment: homes may also stand after colons. -/
def assignedText (w : Word) : Running ByteText := do
  let pieces (s : String) : List String := (Text.splitAtChar ':' s.toList).map String.ofList
  let rec go : List Part → Running ByteText
    | [] => pure ""
    | .text s false :: r => do
      let cut := pieces s
      let count := cut.length
      let expanded ← (cut.zipIdx).mapM fun (piece, i) => do
        match ← homeGlyphs piece (r.isEmpty || i + 1 < count) ['/'] with
        | some (home, rest) => pure (textOf home ++ String.ofList rest)
        | none => pure piece
      pure (Text.join ":" expanded ++ (← go r))
    | p :: r => do
      let s := textOf (← part output false false p)
      pure (s ++ (← go r))
  go w

/-- The pattern of a word. -/
def pattern (w : Word) : Running Glob := do
  pure (patternOf (← wordGlyphs output false ['/'] w))

end

/-! ### Fields -/

/-- The state of cutting characters into fields. -/
structure Cutting where
  /-- The fields, the last one first. -/
  fields : List (List QuotedChar)
  /-- The characters of the current field, the last one first. -/
  current : List QuotedChar
  /-- Whether there is a current field. -/
  isPresent : Bool
  /-- Whether white space has just ended a field. -/
  afterBlank : Bool

namespace Cutting

/-- Ends the current field if there is one. -/
def finish (c : Cutting) : Cutting :=
  if c.isPresent then ⟨c.current.reverse :: c.fields, [], false, c.afterBlank⟩ else c

/-- Ends the current field, even if it is empty. -/
def finishAnyway (c : Cutting) : Cutting := ⟨c.current.reverse :: c.fields, [], false, false⟩

/-- Goes on with a character or a mark. -/
def step (separators : List Char) (c : Cutting) : Glyph → Cutting
  | .fieldEnd => { c.finish with afterBlank := false }
  | .present => { c with isPresent := true, afterBlank := false }
  | .char ch quoted splits =>
    if splits && !quoted && separators.contains ch then
      if ch = ' ' || ch = '\t' || ch = '\n' then
        if c.isPresent then { c.finish with afterBlank := true } else c
      else if c.afterBlank then { c with afterBlank := false }
      else c.finishAnyway
    else { c with current := (ch, quoted) :: c.current, isPresent := true, afterBlank := false }

end Cutting

/-- The fields that characters are cut into. -/
def cutFields (separators : List Char) (gs : List Glyph) : List (List QuotedChar) :=
  let start : Cutting := ⟨[], [], false, false⟩
  (gs.foldl (Cutting.step separators) start).finish.fields.reverse

/-- The paths that the parts of a pattern between slashes fit; `before` is the path so far. -/
def pathsFrom (files : FileTree) (dots : Bool) : ByteText → List (List QuotedChar) → List ByteText
  | before, [] => [before]
  | before, part :: rest =>
    let p := Glob.ofChars part
    let after := if rest.isEmpty then "" else "/"
    if p.isProper then
      let directory := if before = "" then "." else before
      match files.find true (Text.textOfBytes directory) with
      | .ok (place, .dir) =>
        let isHidden := (part.head?.map (·.1)) == some '.'
        let names := (files.namesIn place).map Text.bytesOf ++
          (if isHidden && dots then [".", ".."] else [])
        let fitting := names.filter fun n =>
          (isHidden || !Text.startsWith n ".") && p.fits n.toList
        let sorted := fitting.mergeSort fun m n => !(n < m)
        sorted.flatMap fun n =>
          if rest.isEmpty then [before ++ n]
          else
            match files.find true (Text.textOfBytes (before ++ n)) with
            | .ok (_, .dir) => pathsFrom files dots (before ++ n ++ after) rest
            | _ => []
      | _ => []
    else
      let literal := String.ofList (p.filterMap fun
        | .char c => some c
        | _ => none)
      let path := before ++ literal ++ after
      if rest.isEmpty then
        if literal = "" then [path]
        else match files.find false (Text.textOfBytes path) with
          | .ok _ => [path]
          | .error _ => []
      else pathsFrom files dots path rest

/-- The parts of a pattern between slashes. -/
def splitAtSlashes : List QuotedChar → List (List QuotedChar)
  | [] => [[]]
  | (c, quoted) :: r =>
    if c = '/' then [] :: splitAtSlashes r
    else match splitAtSlashes r with
      | [] => [[(c, quoted)]]
      | piece :: pieces => ((c, quoted) :: piece) :: pieces

/-- The paths that a field fits, or else the text of the field. -/
def paths (files : FileTree) (dots : Bool) (field : List QuotedChar) : List ByteText :=
  let literal := [String.ofList (field.map (·.1))]
  if (Glob.ofChars field).isProper then
    match pathsFrom files dots "" (splitAtSlashes field) with
    | [] => literal
    | found => found
  else literal

section

variable (output : Command → Running ByteText)

/-- The texts that a word becomes. -/
def fields (w : Word) : Running (List ByteText) := do
  let gs ← wordGlyphs output true ['/'] w
  let cut := cutFields (← separators) gs
  if ← hasOption 'f' then pure (cut.map fun f => String.ofList (f.map (·.1)))
  else
    let t ← files
    let dots := (← own).dialect == .plain
    pure (cut.flatMap (paths t dots))

/-- The texts that words become. -/
def allFields : List Word → Running (List ByteText)
  | [] => pure []
  | w :: r => do
    let first ← fields output w
    pure (first ++ (← allFields r))

end

end Expansion

end RamlClient.Shell
