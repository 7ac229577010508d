import RamlClient.Text.Regex
import RamlClient.Tools.Places
/-!
# Searching

A tool that finds the lines of files that match patterns.
-/

namespace RamlClient.Tools

open Text (ByteText Regex Glob)
open Shell
open Shell.Running
open ToolOption (flag setting)

namespace Searching

/-! ### Patterns -/

/-- How patterns are written. -/
inductive Writing where
  /-- As basic regular expressions. -/
  | basic
  /-- As extended regular expressions. -/
  | extended
  /-- As texts. -/
  | fixed
deriving DecidableEq, Repr

/-- Where a match has to stand. -/
inductive Extent where
  /-- Anywhere. -/
  | anywhere
  /-- As a word. -/
  | word
  /-- As a whole line. -/
  | line
deriving DecidableEq, Repr

/-- What is searched for. -/
structure Search where
  /-- The patterns. -/
  patterns : List Regex
  /-- How texts are compared. -/
  comparing : Regex.Comparing
  /-- Where a match has to stand. -/
  extent : Extent

/-- The expression of a pattern. -/
def regexOf (w : Writing) (pattern : ByteText) : Except String Regex :=
  let cs := Text.charsOfBytes pattern
  match w with
  | .fixed => .ok (cs.foldr (fun c r => Regex.append (.char c) r) .empty)
  | .basic => (Regex.ofText ⟨false, false, false⟩ cs).map (·.1)
  | .extended => (Regex.ofText ⟨true, false, false⟩ cs).map (·.1)

/-- What is said about an extended expression in which a repetition has nothing before it. `bracket`
says whether brackets are open, and then whether nothing stands in them so far. -/
def startWarnings (bracket : Option Bool) (isStart : Bool) : List Char → List String
  | [] => []
  | c :: r =>
    match bracket with
    | some isFirst =>
      if c = ']' && !isFirst then startWarnings none false r
      else startWarnings (some (isFirst && c = '^')) false r
    | none =>
      if c = '\\' then
        match r with
        | _ :: r => startWarnings none false r
        | [] => []
      else if c = '[' then startWarnings (some true) false r
      else if isStart && (c = '*' || c = '+' || c = '?') then
        (String.ofList [c] ++ " at start of expression") :: startWarnings none true r
      else if isStart && c = '\x7b' && (Regex.readBounds true r).isOk then
        "\x7b...\x7d at start of expression" :: startWarnings none false r
      else startWarnings none (c = '(' || c = '|' || c = '^') r

/-- Whether an expression is a kind of characters without the outer brackets. -/
def isBareKind (pattern : ByteText) : Bool :=
  let cs := pattern.toList
  4 ≤ cs.length && cs.take 2 == ['[', ':'] && cs.drop (cs.length - 2) == [':', ']'] &&
    ((cs.drop 2).take (cs.length - 4)).all Char.isAlpha

/-! ### Matches -/

/-- The longest match that starts at a place and stands where a match has to. -/
def matchAt? (s : Search) (p : Regex.Place) : Option Nat :=
  let ends := s.patterns.flatMap fun r => r.places s.comparing (p.rest.length + 1) p
  let fits (q : Regex.Place) : Bool :=
    match s.extent with
    | .anywhere => true
    | .word => !Regex.isWordChar p.last && !Regex.isWordChar q.rest.head?
    | .line => p.index = 0 && q.rest.isEmpty
  (ends.filter fits).foldl (fun (best : Option Nat) q =>
    match best with
    | some n => some (max n (q.index - p.index))
    | none => some (q.index - p.index)) none

/-- The first match from a place on: where it starts, and its length. -/
def findFrom (s : Search) : Nat → Regex.Place → Option (Regex.Place × Nat)
  | 0, _ => none
  | fuel + 1, p =>
    match matchAt? s p with
    | some n => some (p, n)
    | none => if p.rest.isEmpty || s.extent = .line then none else findFrom s fuel p.next

/-- The place at the start of a line. -/
def startOf (line : List Char) : Regex.Place := ⟨0, line, none, []⟩

/-- Whether a line has a match. -/
def isMatched (s : Search) (line : List Char) : Bool :=
  (findFrom s (line.length + 1) (startOf line)).isSome

/-- The matches in a line that are not empty: the number of characters before each, and its text. -/
def matchesFrom (s : Search) : Nat → Regex.Place → List (Nat × List Char)
  | 0, _ => []
  | fuel + 1, p =>
    match findFrom s (p.rest.length + 1) p with
    | none => []
    | some (q, n) =>
      if n = 0 then if q.rest.isEmpty then [] else matchesFrom s fuel q.next
      else (q.index, q.rest.take n) :: matchesFrom s fuel (q.skip n)

/-! ### Lines -/

/-- A line of an input. -/
structure Line where
  /-- The bytes without the end. -/
  bytes : ByteText
  /-- The characters. -/
  chars : List Char
  /-- Whether the bytes are those of characters. -/
  isText : Bool
  /-- The number of bytes before it. -/
  offset : Nat
  /-- Its number. -/
  number : Nat
  /-- Whether it is selected. -/
  isSelected : Bool

/-- The lines of an input. -/
def linesFrom (s : Search) (inverts : Bool) : Nat → Nat → List (List Char) → List Line
  | _, _, [] => []
  | number, offset, cs :: r =>
    let bytes := String.ofList cs
    let chars := Text.charsOfBytes bytes
    ⟨bytes, chars, !chars.any Text.isStray, offset, number, isMatched s chars != inverts⟩ ::
      linesFrom s inverts (number + 1) (offset + cs.length + 1) r

/-- The texts of the lines of an input. -/
def lineTexts (ending : Char) (content : ByteText) : List (List Char) :=
  let pieces := Text.splitAtChar ending content.toList
  if pieces.getLast? = some [] then pieces.dropLast else pieces

/-- The lines up to the last one that may be selected, and those after it. -/
def limited : Option Nat → List Line → List Line × List Line
  | some 0, ls => ([], ls)
  | _, [] => ([], [])
  | most, l :: r =>
    let (now, later) := limited (if l.isSelected then most.map (· - 1) else most) r
    (l :: now, later)

/-! ### Reports -/

/-- How lines are shown. -/
structure Showing where
  /-- Whether the file is named. -/
  hasFile : Bool
  /-- Whether lines are numbered. -/
  hasNumber : Bool
  /-- Whether the number of bytes before is told. -/
  hasOffset : Bool
  /-- Whether a zero byte stands after the name of the file. -/
  hasZero : Bool
  /-- Whether only the matches are shown. -/
  onlyMatches : Bool
  /-- Whether lines without matches are selected. -/
  inverts : Bool
  /-- The end of lines. -/
  ending : Char
  /-- The number of lines before a selected one that are shown. -/
  before : Nat
  /-- The number of lines after a selected one that are shown. -/
  after : Nat
  /-- What stands between groups of lines. -/
  separator : Option ByteText
  /-- Whether bytes that are not those of characters are shown. -/
  showsAll : Bool

/-- What stands before a line. -/
def headOf (m : Showing) (file : ByteText) (number offset : Nat) (sign : ByteText) : ByteText :=
  (if m.hasFile then file ++ (if m.hasZero then "\x00" else sign) else "") ++
    (if m.hasNumber then toString number ++ sign else "") ++
    (if m.hasOffset then toString offset ++ sign else "")

/-- What is shown of a line. -/
def shownLine (m : Showing) (s : Search) (file : ByteText) (l : Line) : ByteText :=
  let sign := if l.isSelected then ":" else "-"
  let ending := String.ofList [m.ending]
  if m.onlyMatches then
    if m.inverts || !l.isSelected then ""
    else Text.concat ((matchesFrom s (l.chars.length + 1) (startOf l.chars)).map fun (n, text) =>
      headOf m file l.number (l.offset + (Text.bytesOfChars (l.chars.take n)).length) sign ++
        Text.bytesOfChars text ++ ending)
  else headOf m file l.number l.offset sign ++ l.bytes ++ ending

/-- The numbers of the lines that are shown. -/
def shownNumbers (m : Showing) (ls rest : List Line) : List Nat :=
  let selected := (ls.filter (·.isSelected)).map (·.number)
  let last := ls.length
  ((ls ++ rest).map (·.number)).filter fun n => selected.any fun k =>
    (n ≤ k && k ≤ n + m.before && n ≤ last) || (k ≤ n && n ≤ k + m.after)

/-- What is shown of the lines of an input. `shown` says whether something has been shown before.
The result says whether everything could be shown, and whether something has been shown. -/
def showLines (m : Showing) (s : Search) (file : ByteText) :
    Option Nat → Bool → List Line → Running (Bool × Bool)
  | _, shown, [] => pure (true, shown)
  | last, shown, l :: r =>
    if !l.isText && !m.showsAll && !m.onlyMatches then do
      let (_, shown) ← showLines m s file (some l.number) shown r
      pure (false, shown)
    else do
      let gap := match last with
        | some n => n + 1 != l.number
        | none => shown
      if gap && 0 < m.before + m.after then
        match m.separator with
        | some text => print (text ++ "\n")
        | none => pure ()
      print (shownLine m s file l)
      showLines m s file (some l.number) true r

end Searching

open Searching

/-- Reports a wrong use of the tool. -/
def misuseSearch (text : Option ByteText) : Running Nat := do
  match text with
  | some t => report "grep" t
  | none => pure ()
  printError ("Usage: grep [OPTION]... PATTERNS [FILE]...\n" ++ tryHelp "grep")
  pure 2

/-- The options of the tool. -/
def searchOptions : List ToolOption :=
  ToolOption.letters "0123456789" ++
  [flag "G" "basic-regexp", flag "E" "extended-regexp", flag "F" "fixed-regexp",
   flag "F" "fixed-strings", flag "P" "perl-regexp", setting "A" "after-context",
   setting "B" "before-context", setting "binary-files" "binary-files", flag "U" "binary",
   flag "b" "byte-offset", setting "C" "context", ⟨"color", "color", .sometimes⟩,
   ⟨"color", "colour", .sometimes⟩, flag "c" "count", setting "D" "devices",
   setting "d" "directories", setting "exclude" "exclude", setting "exclude-from" "exclude-from",
   setting "exclude-dir" "exclude-dir", setting "f" "file", flag "l" "files-with-matches",
   flag "L" "files-without-match", setting "group-separator" "group-separator",
   setting "include" "include", flag "i" "ignore-case", flag "no-ignore-case" "no-ignore-case",
   flag "T" "initial-tab", setting "label" "label", flag "line-buffered" "line-buffered",
   flag "n" "line-number", flag "x" "line-regexp", setting "m" "max-count", flag "h" "no-filename",
   flag "no-group-separator" "no-group-separator", flag "s" "no-messages", flag "Z" "null",
   flag "z" "null-data", flag "o" "only-matching", flag "q" "quiet", flag "r" "recursive",
   flag "R" "dereference-recursive", setting "e" "regexp", flag "v" "invert-match",
   flag "q" "silent", flag "a" "text", flag "H" "with-filename", flag "w" "word-regexp",
   flag "I" "", flag "u" "", flag "y" ""]

/-- The files below a directory. -/
def filesToSearch (t : FileTree) (skips : ByteText → Bool) : Nat → ByteText → List String →
    List ByteText
  | 0, _, _ => []
  | depth + 1, path, place =>
    (t.namesIn place).flatMap fun n =>
      let inner := place ++ [n]
      let name := Text.bytesOf n
      let path := if path = "" then name else inDirectory path name
      match t.node? inner with
      | some .dir => if skips name then [] else filesToSearch t skips depth path inner
      | some (.file _ _) => [path]
      | _ => []

/-- Whether the files to be searched include one of a name. -/
def includes (a : ToolArguments) (name : ByteText) : Bool :=
  let rules := a.options.filter fun o => o.1 == "include" || o.1 == "exclude"
  let start := match rules with
    | ("include", _) :: _ => false
    | _ => true
  rules.foldl (fun found o =>
    if (Glob.ofChars (o.2.toList.map fun c => (c, false))).fits name.toList then o.1 == "include"
    else found) start

/-- The patterns: those of a file with its name and their numbers. -/
def patternLines (file : Option ByteText) (text : ByteText) :
    List (ByteText × Option (ByteText × Nat)) :=
  let lines := match file with
    | some _ => lineTexts '\n' text
    | none => Text.splitAtChar '\n' text.toList
  lines.zipIdx.map fun (l, n) => (String.ofList l, file.map fun f => (f, n + 1))

/-- Searches an input. The result says whether a line is selected. -/
def searchInput (a : ToolArguments) (m : Showing) (s : Search) (most : Option Nat) (shown : Bool)
    (name content : ByteText) : Running (Bool × Bool) := do
  let lines := linesFrom s m.inverts 1 0 (lineTexts m.ending content)
  let isBinary := !m.showsAll && m.ending != '\x00' && content.toList.contains '\x00'
  let leavesOut := a.has "I" || a.value? "binary-files" = some "without-match"
  let (now, later) := limited most lines
  let selected := if isBinary && leavesOut then [] else now.filter (·.isSelected)
  let found := !selected.isEmpty
  let lists := a.hasAny ["l", "L"]
  if a.has "q" then pure (found, shown)
  else do
    let mut shown := shown
    if a.has "c" && !lists then
      print ((if m.hasFile then name ++ (if m.hasZero then "\x00" else ":") else "") ++
        toString selected.length ++ "\n")
    else if lists then
      if found != (a.last? ["l", "L"] == some "L") then
        print (name ++ if m.hasZero then "\x00" else "\n")
    else if isBinary then
      if found then report "grep" (name ++ ": binary file matches")
    else do
      let wanted := shownNumbers m now later
      let (all, didShow) ← showLines m s name none shown
        ((now ++ later).filter fun l => wanted.contains l.number)
      shown := didShow
      if !all && !leavesOut then report "grep" (name ++ ": binary file matches")
    pure (found, shown)

/-- Finds the lines of files that match patterns. -/
def searchAs (standard : Writing) : Tool := fun _ _ args => do
  match readToolArguments (searchOptions ++ [flag "help" "help", flag "V" "version"]) true args with
  | .error e => misuseSearch (some e)
  | .ok a =>
    if a.hasAny ["help", "V"] then pure 0
    else
      let writings := (a.options.filter fun o => ["E", "F", "G", "P"].contains o.1).map (·.1)
      let trouble (text : ByteText) : Running Nat := do
        report "grep" text
        pure 2
      let number? (key : String) : Option (ByteText × Option Nat) :=
        (a.value? key).map fun v => (v, digits? v)
      let wrongContext := (["A", "B", "C"].filterMap number?).find? (·.2.isNone)
      let most := a.value? "m"
      let isNumber (v : ByteText) : Bool :=
        (digits? (if Text.startsWith v "-" then String.ofList v.toList.tail else v)).isSome
      let directories := ["read", "recurse", "skip"]
      match (a.value? "d").filter fun v => !directories.contains v with
      | some v => do
        printError ("grep: invalid argument " ++ inCurlyQuotes v ++ " for " ++
          inCurlyQuotes "--directories" ++ "\nValid arguments are:\n" ++
          Text.concat (directories.map fun d => "  - " ++ inCurlyQuotes d ++ "\n"))
        discard (misuseSearch none)
        pure 1
      | none =>
      if (writings.eraseDups).length > 1 then trouble "conflicting matchers specified"
      else match wrongContext with
      | some (v, _) => trouble (v ++ ": invalid context length argument")
      | none =>
        if most.any fun v => !isNumber v then trouble "invalid max count"
        else if (a.value? "binary-files").any fun v =>
            !(["binary", "text", "without-match"].contains v) then
          trouble "unknown binary-files type"
        else do
          let writing := match writings.getLast? with
            | some "E" => .extended
            | some "P" => .extended
            | some "F" => .fixed
            | some "G" => .basic
            | _ => standard
          let given := a.options.filter fun o => o.1 == "e" || o.1 == "f"
          let (given, operands) := match given, a.operands with
            | [], p :: r => ([("e", p)], r)
            | given, operands => (given, operands)
          if given.isEmpty then misuseSearch none
          else do
            let mut lines := []
            let mut missing : Option ByteText := none
            for g in given do
              if g.1 = "e" then lines := lines ++ patternLines none g.2
              else if missing.isNone then
                match ← readInput g.2 with
                | .ok text => lines := lines ++ patternLines (some g.2) text
                | .error k => missing := some (g.2 ++ ": " ++ k.wording)
            match missing with
            | some text => trouble text
            | none =>
              let bare := if writing = .fixed then false
                else lines.any fun l => isBareKind l.1
              let read := lines.map fun l => (l.2, regexOf writing l.1)
              let faults := read.filterMap fun
                | (place, .error e) => some (place, e)
                | _ => none
              if !faults.isEmpty then do
                faults.forM fun (place, e) => report "grep" (match place with
                  | some (file, n) => file ++ ":" ++ toString n ++ ": " ++ e
                  | none => e)
                pure 2
              else if bare then
                trouble "character class syntax is [[:space:]], not [:space:]"
              else do
                if writing = .extended then
                  lines.forM fun l => (startWarnings none true l.1.toList).forM fun w =>
                    report "grep" ("warning: " ++ w)
                search a writing (read.filterMap fun r => r.2.toOption) operands most
where
  /-- Searches the files that are named. -/
  search (a : ToolArguments) (_ : Writing) (patterns : List Regex) (operands : List ByteText)
      (most : Option ByteText) : Running Nat := do
    let recursive := a.hasAny ["r", "R"] || a.value? "d" = some "recurse"
    let extent : Extent := if a.has "x" then .line else if a.has "w" then .word else .anywhere
    let ignores := match a.last? ["i", "y", "no-ignore-case"] with
      | some "no-ignore-case" => false
      | some _ => true
      | none => false
    let s : Search := ⟨patterns, ⟨ignores, false⟩, extent⟩
    let digits := String.ofList (((a.options.filter fun o =>
      o.1.length = 1 && o.1.toList.all Char.isDigit).map (·.1)).flatMap String.toList)
    let context := ((a.value? "C").bind digits?).getD ((digits? digits).getD 0)
    let before := ((a.value? "B").bind digits?).getD context
    let after := ((a.value? "A").bind digits?).getD context
    let most := match most with
      | some v => digits? v
      | none => none
    let shows (several : Bool) : Bool := match a.last? ["h", "H"] with
      | some "h" => false
      | some _ => true
      | none => several
    let separator := match a.last? ["group-separator", "no-group-separator"] with
      | some "group-separator" => a.value? "group-separator"
      | some _ => none
      | none => some "--"
    let m : Showing := ⟨false, a.has "n", a.has "b", a.has "Z", a.has "o", a.has "v",
      if a.has "z" then '\x00' else '\n', if a.has "o" then 0 else before,
      if a.has "o" then 0 else after, separator,
      a.has "a" || a.value? "binary-files" = some "text"⟩
    let inputs := if !operands.isEmpty then operands else if recursive then [""] else ["-"]
    let mut found := false
    let mut failed := false
    let mut shown := false
    for i in inputs do
      if found && a.has "q" then break
      let several := 1 < operands.length
      let isDir ← isDirectory (if i = "" && operands.isEmpty then "." else i)
      let skipped := !includes a (lastName i) && i != "" && i != "-" && !isDir
      if skipped then continue
      if isDir && recursive then
        let t ← files
        match ← nodeAt true (if i = "" then "." else i) with
        | .error _ => pure ()
        | .ok (place, _) =>
          let skips (n : ByteText) : Bool := a.options.any fun o => o.1 == "exclude-dir" &&
            (Glob.ofChars (o.2.toList.map fun c => (c, false))).fits n.toList
          for path in filesToSearch t skips 200 i place do
            if includes a (lastName path) && !(found && a.has "q") then
              match ← readFile path with
              | .ok content =>
                let (f, sh) ← searchInput a { m with hasFile := shows true } s most shown path
                  content
                found := found || f
                shown := sh
              | .error _ => failed := true
      else if isDir && a.value? "d" = some "skip" then continue
      else
        let name := if i = "-" then (a.value? "label").getD "(standard input)" else i
        let m := { m with hasFile := shows several }
        match ← readInput i with
        | .ok content =>
          let (f, sh) ← searchInput a m s most shown name content
          found := found || f
          shown := sh
        | .error k =>
          failed := true
          if !a.has "s" then report "grep" (name ++ ": " ++ k.wording)
          if k = .isDirectory then
            let (f, sh) ← searchInput a m s most shown name ""
            found := found || f
            shown := sh
    pure (if failed && !(found && a.has "q") then 2 else if found then 0 else 1)

/-- Finds the lines of files that match basic expressions. -/
def grep : Tool := searchAs .basic

/-- Finds the lines of files that match extended expressions. -/
def egrep : Tool := searchAs .extended

/-- Finds the lines of files that have texts. -/
def fgrep : Tool := searchAs .fixed

end RamlClient.Tools
