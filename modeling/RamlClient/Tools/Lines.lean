import RamlClient.Decimal.Rounded
import RamlClient.Tools.Options
import RamlClient.Tools.Printing
/-!
# Tools on lines

Tools that write the lines of their inputs: all of them or only some, with numbers, in another
order, or counted; and tools that make lines.
-/

namespace RamlClient.Tools

open Text (ByteText)
open Shell
open Shell.Running
open ToolOption (flag setting)

/-- A text with blanks before it up to a width. -/
def padLeft (width : Nat) (s : ByteText) : ByteText :=
  String.ofList (List.replicate (width - s.length) ' ') ++ s

/-! ### All lines -/

/-- How lines are written. -/
structure LineStyle where
  /-- Whether lines are numbered. -/
  numbers : Bool
  /-- Whether empty lines are not. -/
  skipsEmpty : Bool
  /-- Whether an empty line after an empty line is left out. -/
  squeezes : Bool
  /-- Whether ends of lines are shown. -/
  showsEnds : Bool
  /-- Whether tabs are shown. -/
  showsTabs : Bool
  /-- Whether characters that cannot be seen are shown. -/
  showsHidden : Bool

/-- A character as it is shown. -/
def shownChar (s : LineStyle) (c : Char) : List Char :=
  let low (n : Nat) : List Char :=
    if n < 32 then ['^', Char.ofNat (n + 64)] else if n = 127 then ['^', '?'] else [Char.ofNat n]
  if c = '\t' then (if s.showsTabs then ['^', 'I'] else [c])
  else if c = '\n' || !s.showsHidden then [c]
  else if c.toNat < 128 then low c.toNat
  else ['M', '-'] ++ low (c.toNat - 128)

/-- The text of lines in a style. `atStart` says whether a line begins, `count` is the number of the
last line, and `blank` says whether it was empty. -/
def styled (s : LineStyle) : List ByteText → Bool → Nat → Bool →
    List ByteText × Bool × Nat × Bool
  | [], atStart, count, blank => ([], atStart, count, blank)
  | line :: r, atStart, count, blank =>
    let isEmpty := atStart && line = "\n"
    if isEmpty && blank && s.squeezes then styled s r atStart count blank
    else
      let isNumbered := atStart && s.numbers && !(s.skipsEmpty && isEmpty)
      let count := if isNumbered then count + 1 else count
      let start := if isNumbered then padLeft 6 (toString count) ++ "\t" else ""
      let body := String.ofList ((withoutEnd line).toList.flatMap (shownChar s))
      let hasEnd := Text.endsWith line "\n"
      let last := if hasEnd then (if s.showsEnds then "$\n" else "\n") else ""
      let (rest, state) := styled s r hasEnd count isEmpty
      ((start ++ body ++ last) :: rest, state)

/-- Writes its inputs. -/
def cat : Tool := fun _ name args => do
  let known := [flag "A" "show-all", flag "b" "number-nonblank", flag "e" "", flag "E" "show-ends",
    flag "n" "number", flag "s" "squeeze-blank", flag "t" "", flag "T" "show-tabs", flag "u" "",
    flag "v" "show-nonprinting"]
  withArguments known true 1 name args fun a => do
    let s : LineStyle := ⟨a.hasAny ["n", "b"], a.has "b", a.has "s", a.hasAny ["A", "e", "E"],
      a.hasAny ["A", "t", "T"], a.hasAny ["A", "e", "t", "v"]⟩
    let inputs := if a.operands.isEmpty then ["-"] else a.operands
    let (ok, _) ← inputs.foldlM (fun (ok, atStart, count, blank) i => do
      match ← readInput i with
      | .ok text => do
        let (lines, state) := styled s (linesOf text) atStart count blank
        print (Text.concat lines)
        pure (ok, state)
      | .error k => do
        report name (asNeeded i ++ ": " ++ k.wording)
        pure (false, atStart, count, blank)) (true, true, 0, false)
    pure (statusOf ok)

/-! ### Some lines -/

/-- The factors that letters after a number stand for. -/
def factors : List (String × Nat) :=
  [("b", 512), ("kB", 1000), ("K", 1024), ("KiB", 1024), ("k", 1024), ("MB", 1000000),
   ("M", 1048576), ("MiB", 1048576), ("m", 1048576), ("GB", 1000000000), ("G", 1073741824),
   ("GiB", 1073741824)]

/-- A number of lines or bytes, or why it is none. -/
def countOf (s : ByteText) : Except ByteText Nat :=
  let digits := s.toList.takeWhile Char.isDigit
  let rest := String.ofList (s.toList.drop digits.length)
  let n := Reading.numberOf 10 digits
  let factor := if rest = "" then some 1 else (factors.find? (·.1 == rest)).map (·.2)
  match factor with
  | some f =>
    if digits.isEmpty then .error (inCurlyQuotes s)
    else if 18446744073709551615 < n * f then
      .error (inCurlyQuotes s ++ ": Value too large for defined data type")
    else .ok (n * f)
  | none => .error (inCurlyQuotes s)

/-- What is taken of each input: how many lines or bytes, and whether they are counted from the
other end. -/
structure Portion where
  /-- Whether bytes are counted. -/
  bytes : Bool
  /-- The number. -/
  count : Nat
  /-- Whether it is counted from the other end. -/
  fromOther : Bool

/-- The number of bytes at the start of a text that a portion takes. -/
def Portion.startSize (p : Portion) (text : ByteText) : Nat :=
  if p.bytes then
    if p.fromOther then text.length - p.count else min p.count text.length
  else
    let lines := linesOf text
    let taken := lines.take (if p.fromOther then lines.length - p.count else p.count)
    taken.foldl (fun n l => n + l.length) 0

/-- The end of a text that a portion takes. -/
def Portion.ending (p : Portion) (text : ByteText) : ByteText :=
  if p.bytes then
    let skipped := if p.fromOther then p.count - 1 else text.length - p.count
    String.ofList (text.toList.drop skipped)
  else
    let lines := linesOf text
    Text.concat (lines.drop (if p.fromOther then p.count - 1 else lines.length - p.count))

/-- The arguments with an old form of the number of lines as an option. -/
def modernCount (plus : Bool) (args : List ByteText) : List ByteText :=
  match args with
  | a :: r =>
    match a.toList with
    | '-' :: c :: cs =>
      if c.isDigit then
        let digits := (c :: cs).takeWhile Char.isDigit
        let rest := (c :: cs).drop digits.length
        let unit := if rest.contains 'c' then "-c" else "-n"
        let others := rest.filter fun d => d != 'c' && d != 'n' && d != 'l'
        unit :: String.ofList digits ::
          (if others.isEmpty then [] else [String.ofList ('-' :: others)]) ++ r
      else args
    | '+' :: c :: cs =>
      if plus && c.isDigit && (c :: cs).all Char.isDigit then "-n" :: a :: r else args
    | _ => args
  | [] => args

/-- The line before an input. -/
def inputTitle (input : ByteText) (isFirst : Bool) : ByteText :=
  (if isFirst then "" else "\n") ++ "==> " ++ (if input = "-" then "standard input" else input) ++
    " <==\n"

/-- Writes a portion of each input. -/
def portions (name : ByteText) (a : ToolArguments)
    (portion : ByteText → Running ByteText) : Running Nat := do
  let inputs := if a.operands.isEmpty then ["-"] else a.operands
  let titled := match a.last? ["q", "v"] with
    | some "q" => false
    | some _ => true
    | none => 1 < inputs.length
  let (ok, _, text) ← inputs.foldlM (fun (ok, isFirst, text) i => do
    let title := if titled then inputTitle i isFirst else ""
    let shown := if i = "-" then "'standard input'" else inQuotes i
    match ← (if i = "-" then unread 0 else readFile i) with
    | .ok _ => do
      let part ← portion i
      pure (ok, false, text ++ title ++ part)
    | .error .isDirectory => do
      report name ("error reading " ++ shown ++ ": Is a directory")
      pure (false, false, text ++ title)
    | .error k => do
      report name ("cannot open " ++ shown ++ " for reading: " ++ k.wording)
      pure (false, isFirst, text)) (true, true, "")
  print text
  pure (statusOf ok)

/-- The options of tools that write portions. -/
def portionOptions : List ToolOption :=
  [setting "n" "lines", setting "c" "bytes", flag "q" "quiet", flag "q" "silent",
   flag "v" "verbose", flag "z" "zero-terminated", flag "f" "", flag "F" ""]

/-- The portion that options ask for, or else a report. -/
def portionOf (a : ToolArguments) (sign : Char) : Except ByteText Portion :=
  match a.last? ["n", "c"] with
  | none => .ok ⟨false, 10, false⟩
  | some key =>
    let value := (a.value? key).getD ""
    let (other, digits) := match value.toList with
      | c :: r =>
        if c = sign then (true, String.ofList r)
        else if c = '-' && sign = '+' then (false, String.ofList r)
        else (false, value)
      | [] => (false, value)
    match countOf digits with
    | .ok n => .ok ⟨key == "c", n, other⟩
    | .error e =>
        .error ("invalid number of " ++ (if key = "c" then "bytes" else "lines") ++ ": " ++ e)

/-- Writes the start of each input. -/
def head : Tool := fun _ name args => do
  withArguments (portionOptions.filter fun o => o.key != "f" && o.key != "F") true 1 name
      (modernCount false args) fun a => do
    match portionOf a '-' with
    | .error e => do
      report name e
      pure 1
    | .ok p =>
      portions name a fun i => do
        match ← (if i = "-" then unread 0 else readFile i) with
        | .ok text => do
          let size := p.startSize text
          if i = "-" then
            match ← streamAt? 0 with
            | some (_, ⟨.file _, _, _, _⟩) => advance 0 size
            | _ => advance 0 text.length
          pure (String.ofList (text.toList.take size))
        | .error _ => pure ""

/-- Writes the end of each input. -/
def tail : Tool := fun _ name args => do
  withArguments portionOptions true 1 name (modernCount true args) fun a => do
    match portionOf a '+' with
    | .error e => do
      report name e
      pure 1
    | .ok p =>
      if !p.fromOther && p.count = 0 then pure 0
      else portions name a fun i => do
        match ← readInput i with
        | .ok text => pure (p.ending text)
        | .error _ => pure ""

/-! ### Counts -/

/-- The columns that a text takes, where tabs go on to the next place of eight. -/
def columnsOf (cs : List Char) : Nat :=
  cs.foldl (fun n c =>
    if c = '\t' then n + 8 - n % 8 else if c.toNat < 32 || c.toNat = 127 then n else n + 1) 0

/-- The numbers of lines, words, characters and bytes of a text, and the columns of its longest
line. -/
def countsOf (text : ByteText) : List Nat :=
  let cs := text.toList
  let chars := (Text.textOfBytes text).toList
  let isBlank (c : Char) : Bool := c = ' ' || (9 ≤ c.toNat && c.toNat ≤ 13)
  let (words, _) := cs.foldl (fun (n, inWord) c =>
    if isBlank c then (n, false) else (if inWord then n else n + 1, true)) ((0 : Nat), false)
  let longest := ((Text.splitAtChar '\n' chars).map columnsOf).foldl max 0
  [cs.countP (· == '\n'), words, chars.length, cs.length, longest]

/-- Counts lines, words, characters and bytes. -/
def wc : Tool := fun _ name args => do
  let known := [flag "l" "lines", flag "w" "words", flag "m" "chars", flag "c" "bytes",
    flag "L" "max-line-length"]
  withArguments known true 1 name args fun a => do
    let keys := ["l", "w", "m", "c", "L"]
    let given := if a.hasAny keys then keys.filter a.has else ["l", "w", "c"]
    let pick (counts : List Nat) : List Nat :=
      ((keys.zip counts).filter fun e => given.contains e.1).map (·.2)
    let inputs := if a.operands.isEmpty then [("-", "")] else a.operands.map fun i => (i, " " ++ i)
    let results ← inputs.mapM fun (i, shown) => do
      let size : Option (Option Nat) ←
        if i = "-" then do
          match ← streamAt? 0 with
          | some (_, ⟨.file place, _, _, _⟩) => do pure (some (some (← fileBytes place).size))
          | _ => pure (some none)
        else do
          match ← readFile i with
          | .ok text => pure (some (some text.length))
          | .error .isDirectory => pure (some none)
          | .error _ => pure none
      match ← readInput i with
      | .ok text => pure (size, some (countsOf text), shown)
      | .error k => do
        report name (asNeeded i ++ ": " ++ k.wording)
        pure (size, if k = .isDirectory then some [0, 0, 0, 0, 0] else none, shown)
    let sizes := results.filterMap (·.1)
    let width :=
      if inputs.length = 1 && given.length = 1 then 1
      else
        let total := sizes.foldl (fun n s => n + s.getD 0) 0
        let least := if sizes.any Option.isNone then 7 else 1
        max least (toString total).length
    let line (counts : List Nat) (shown : ByteText) : ByteText :=
      Text.join " " ((pick counts).map fun n => padLeft width (toString n)) ++ shown ++ "\n"
    let lines := results.filterMap fun (_, counts, shown) => counts.map fun c => line c shown
    let total := results.foldl (fun sum (_, counts, _) =>
      match counts with
      | some c =>
        ((sum.zip c).zipIdx).map fun ((m, n), i) => if i = 4 then max m n else m + n
      | none => sum) [0, 0, 0, 0, 0]
    print (Text.concat lines)
    if 1 < inputs.length then print (line total " total")
    let failed ← results.anyM fun r => pure r.2.1.isNone
    let directory ← inputs.anyM fun (i, _) => do
      pure (match ← (if i = "-" then unread 0 else readFile i) with
        | .ok _ => false
        | .error _ => true)
    pure (statusOf (!failed && !directory))

/-! ### New lines -/

/-- Writes its input to files, too. -/
def tee : Tool := fun _ name args => do
  withArguments [flag "a" "append", flag "i" "ignore-interrupts", flag "p" ""] true 1 name args
      fun a => do
    let text := match ← readAll 0 with
      | .ok text => text
      | .error _ => ""
    let ok ← a.operands.foldlM (fun ok path => do
      match ← writeFile path text (a.has "a") with
      | .ok () => pure ok
      | .error k => do
        report name (asNeeded path ++ ": " ++ k.wording)
        pure false) true
    print text
    pure (statusOf ok)

end RamlClient.Tools
