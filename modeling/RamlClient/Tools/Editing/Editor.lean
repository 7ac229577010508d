import RamlClient.Tools.Editing.Script
import RamlClient.Tools.Options
/-!
# Editing

An editor reads the lines of its inputs one after another, runs the commands of a script on each,
and writes what is left of it. It can also put the result into the place of an input.
-/

namespace RamlClient.Tools.Editing

open Text (ByteText Regex)

/-- What is written after a line. -/
inductive Addition where
  /-- A text. -/
  | text (cs : List Char)
  /-- The content of a file. -/
  | file (path : String)

/-- A text that has been written. -/
structure Written where
  /-- Its characters, the last one first. -/
  reversed : List Char
  /-- Whether an end of a line is missing. -/
  owesEnd : Bool

/-- A line, and whether it has an end. -/
structure Line where
  /-- Its characters. -/
  text : List Char
  /-- Whether it has an end. -/
  hasEnd : Bool

/-- An input. -/
structure Input where
  /-- Its name. -/
  name : ByteText
  /-- Its lines. -/
  lines : List Line

/-- The state of an editor. -/
structure Editor where
  /-- The script. -/
  script : Script
  /-- Whether lines are written only if a command says so. -/
  isQuiet : Bool
  /-- Whether each input counts for itself. -/
  separates : Bool
  /-- Whether the result takes the place of the input. -/
  inPlace : Bool
  /-- The width that shown lines are cut to. -/
  width : Nat
  /-- What ends lines. -/
  ending : Char
  /-- The name of the current input. -/
  name : ByteText
  /-- The lines of the current input that are still to be read. -/
  lines : List Line
  /-- The inputs that are still to be read. -/
  inputs : List Input
  /-- The number of the line. -/
  number : Nat
  /-- The line. -/
  line : Line
  /-- What has been put aside. -/
  held : Line
  /-- For commands that are meant for some lines: the number of the last one, if it is known. -/
  ranges : List (Nat × Option Nat)
  /-- The commands whose lines have ended. -/
  closed : List Nat
  /-- What is written after the line. -/
  additions : List Addition
  /-- What has been written. -/
  output : Written
  /-- What has been written to files. -/
  files : List (String × Written)
  /-- The results that take the place of inputs. -/
  results : List (ByteText × List Char)
  /-- Whether something has been replaced in the line. -/
  replaced : Bool
  /-- The last expression that has been used. -/
  lastRegex : Option Regex
  /-- The files that commands read. -/
  sources : List (String × List Char)

/-- How the commands on a line end. -/
inductive CycleEnd where
  /-- The line is written. -/
  | finish
  /-- The line is not written. -/
  | discard
  /-- The commands run again on what is left of the line. -/
  | restart
  /-- Editing ends, with or without writing the line. -/
  | quit (prints : Bool) (status : Nat)

/-- Why editing cannot go on. -/
inductive EditFault where
  /-- No expression has been used before. -/
  | noRegex
  /-- It takes too many steps. -/
  | tooLong

/-- Steps of an editor. -/
abbrev Steps := EStateM EditFault Editor

namespace Written

/-- A text after an end of a line, if that is missing. -/
def settle (w : Written) (ending : Char) : Written :=
  if w.owesEnd then ⟨ending :: w.reversed, false⟩ else w

/-- One more line. -/
def addLine (w : Written) (cs : List Char) (hasEnd : Bool) (ending : Char) : Written :=
  let w := w.settle ending
  if hasEnd then ⟨ending :: (cs.reverse ++ w.reversed), false⟩
  else ⟨cs.reverse ++ w.reversed, true⟩

/-- One more text. -/
def addText (w : Written) (cs : List Char) (ending : Char) : Written :=
  let w := w.settle ending
  ⟨cs.reverse ++ w.reversed, false⟩

end Written

namespace Steps

/-- Writes a line. -/
def emitLine (cs : List Char) (hasEnd : Bool) : Steps Unit :=
  modify fun e => { e with output := e.output.addLine cs hasEnd e.ending }

/-- Writes a text. -/
def emitText (cs : List Char) : Steps Unit :=
  modify fun e => { e with output := e.output.addText cs e.ending }

/-- Writes a line to a file. -/
def emitToFile (path : String) (cs : List Char) (hasEnd : Bool) : Steps Unit := do
  if path = "/dev/stdout" && !(← get).inPlace then emitLine cs hasEnd
  else modify fun e => { e with files := e.files.map fun f =>
    if f.1 == path then (path, f.2.addLine cs hasEnd e.ending) else f }

/-- Writes what is to be written after the line. -/
def flushAdditions : Steps Unit := do
  let additions := (← get).additions
  additions.forM fun a => do
    match a with
    | .text cs => emitText cs
    | .file path =>
      match (← get).sources.find? (·.1 == path) with
      | some s => if !s.2.isEmpty then emitText s.2
      | none => pure ()
  modify fun e => { e with additions := [] }

/-- Goes to the next input. -/
def nextInput : Steps Bool := do
  let e ← get
  match e.inputs with
  | [] => pure false
  | i :: r => do
    set { e with name := i.name, lines := i.lines, inputs := r }
    if e.separates then
      modify fun e => { e with number := 0, ranges := [], closed := [] }
    pure true

/-- Ends the current input. -/
def endInput : Steps Unit :=
  modify fun e =>
    if e.inPlace && e.name != "" then
      { e with results := e.results ++ [(e.name, e.output.reversed)], output := ⟨[], false⟩,
               name := "" }
    else e

/-- The next line. `fuel` is more than the number of inputs. -/
def readLine : Nat → Steps (Option Line)
  | 0 => pure none
  | fuel + 1 => do
    let e ← get
    match e.lines with
    | l :: r => do
      set { e with lines := r, number := e.number + 1, replaced := e.replaced }
      pure (some l)
    | [] => do
      endInput
      if ← nextInput then readLine fuel else pure none

/-- Whether the line is the last one. -/
def isLast : Steps Bool := do
  let e ← get
  pure (e.lines.isEmpty && (e.separates || e.inputs.all (·.lines.isEmpty)))

/-- The expression of a pattern. -/
def regexOf (p : Pattern) : Steps Regex := do
  match p.regex with
  | some r => do
    modify fun e => { e with lastRegex := some r }
    pure r
  | none => do
    match (← get).lastRegex with
    | some r => pure r
    | none => throw .noRegex

/-- Whether the line is one of those of an address. -/
def isAt (a : Address) : Steps Bool := do
  let e ← get
  match a with
  | .line n => pure (e.number == n)
  | .every first step => pure (first ≤ e.number && (e.number - first) % step == 0)
  | .last => isLast
  | .matching p => do
    let r ← regexOf p
    pure ((r.find p.comparing e.line.text 0).isSome)

/-- Whether a command with an index is meant for the line. -/
def isMeant (index : Nat) (c : EditCommand) : Steps Bool := do
  match c.first, c.ending with
  | none, _ => pure true
  | some a, none => isAt a
  | some a, some ending => do
    let e ← get
    let leave : Steps Unit := modify fun e => { e with
      ranges := e.ranges.filter (·.1 != index)
      closed := if e.closed.contains index then e.closed else index :: e.closed }
    let enter (last : Option Nat) : Steps Unit :=
      modify fun e => { e with ranges := (index, last) :: e.ranges.filter (·.1 != index) }
    let isOpen := match a with
      | .line 0 => !e.closed.contains index
      | _ => false
    match e.ranges.find? (·.1 == index), isOpen with
    | some (_, some last), _ => do
      if last ≤ e.number then leave
      pure (e.number ≤ last)
    | some (_, none), _ => do
      match ending with
      | .at b => if ← isAt b then leave
      | _ => pure ()
      pure true
    | none, true => do
      match ending with
      | .at b => if ← isAt b then leave else enter none
      | _ => pure ()
      pure true
    | none, false => do
      if !(← isAt a) then pure false
      else do
        let until_ (last : Nat) : Steps Unit := do
          if e.number < last then enter (some last)
        match ending with
        | .at (.line n) => until_ n
        | .after n => until_ (e.number + n)
        | .multiple n => if n = 0 then pure () else until_ ((e.number / n + 1) * n)
        | .at .last => if !(← isLast) then enter none
        | .at _ => enter none
        pure true

/-- The characters of a replacement for a match. -/
def replacementFor (parts : List ReplacementPart) (f : Regex.Found) : List Char :=
  let turn (r : Recasing) (cs : List Char) : List Char :=
    match r with
    | .none => cs
    | .upper => cs.map Char.toUpper
    | .lower => cs.map Char.toLower
  let add (state : List Char × Recasing × Option Bool) (cs : List Char) :
      List Char × Recasing × Option Bool :=
    let (done, r, next) := state
    match turn r cs, next with
    | c :: rest, some upper => (done ++ (if upper then c.toUpper else c.toLower) :: rest, r, none)
    | cs, next => (done ++ cs, r, next)
  (parts.foldl (fun state p =>
    match p with
    | .text cs => add state cs
    | .group n => add state (f.group n)
    | .recase r => (state.1, r, none)
    | .recaseNext upper => (state.1, state.2.1, some upper)) ([], Recasing.none, none)).1

/-- A text with matches replaced, and whether there is one. `done` is the text before, the last
character first, and `index` its length; `number` is the number of the next match. -/
def replaceFrom (s : Substitution) (r : Regex) (cs : List Char) : Nat → List Char → Nat → Nat →
    Option Nat → Bool → List Char × Bool
  | 0, done, index, _, _, changed => (done.reverse ++ cs.drop index, changed)
  | fuel + 1, done, index, number, lastEnd, changed =>
    match r.find s.pattern.comparing cs index with
    | none => (done.reverse ++ cs.drop index, changed)
    | some f =>
      let before := (cs.drop index).take (f.start - index)
      let done := before.reverse ++ done
      let stop := f.start + f.text.length
      if f.text.isEmpty && lastEnd = some f.start then
        -- Nothing is not matched directly after a match.
        match cs.drop f.start with
        | c :: _ => replaceFrom s r cs fuel (c :: done) (f.start + 1) number none changed
        | [] => (done.reverse, changed)
      else if number < s.number then
        let kept := f.text.reverse ++ done
        if f.text.isEmpty then
          match cs.drop f.start with
          | c :: _ => replaceFrom s r cs fuel (c :: done) (f.start + 1) (number + 1) none changed
          | [] => (done.reverse, changed)
        else replaceFrom s r cs fuel kept stop (number + 1) (some stop) changed
      else
        let done := (replacementFor s.replacement f).reverse ++ done
        if !s.all then (done.reverse ++ cs.drop stop, true)
        else if f.text.isEmpty then
          match cs.drop f.start with
          | c :: _ => replaceFrom s r cs fuel (c :: done) (f.start + 1) (number + 1) none true
          | [] => (done.reverse, true)
        else replaceFrom s r cs fuel done stop (number + 1) (some stop) true

/-- The line as it is shown, cut to a width. -/
def shownLine (width : Nat) (cs : List Char) : List Char :=
  let bytes := (Text.bytesOfChars cs).toList
  let shown (c : Char) : List Char :=
    if c = '\\' then ['\\', '\\']
    else match [('\n', 'n'), ('\t', 't'), ('\r', 'r'), ('\x07', 'a'), ('\x08', 'b'), ('\x0c', 'f'),
        ('\x0b', 'v')].find? (·.1 == c) with
      | some e => ['\\', e.2]
      | none =>
        if 32 ≤ c.toNat && c.toNat < 127 then [c]
        else
          let ds := Nat.toDigits 8 c.toNat
          '\\' :: (List.replicate (3 - ds.length) '0' ++ ds)
  let (text, _) := bytes.foldl (fun (text, column) c =>
    let piece := shown c
    if 1 < width && width - 1 < column + piece.length then
      (piece.reverse ++ '\n' :: '\\' :: text, piece.length)
    else (piece.reverse ++ text, column + piece.length)) (([] : List Char), 0)
  text.reverse ++ ['$']

/-- The characters up to the first end of a line. -/
def firstLine (cs : List Char) : List Char := cs.takeWhile (· != '\n')

/-- Changes the text of the line. -/
def setText (cs : List Char) : Steps Unit :=
  modify fun e => { e with line := { e.line with text := cs } }

/-- Runs the commands from one on. -/
def runFrom : Nat → Nat → Steps CycleEnd
  | 0, _ => throw .tooLong
  | fuel + 1, index => do
    let e ← get
    match e.script.commands[index]? with
    | none => pure .finish
    | some c => do
      let meant ← isMeant index c
      let next := runFrom fuel (index + 1)
      if meant = c.negated then
        match c.action with
        | .block stop => runFrom fuel stop
        | _ => next
      else
        let e ← get
        match c.action with
        | .block _ => next
        | .nothing => next
        | .append text => do
          modify fun e => { e with additions := e.additions ++ [.text text.toList] }
          next
        | .insert text => do
          emitText text.toList
          next
        | .change text => do
          if c.negated || !e.ranges.any (·.1 == index) then emitText text.toList
          pure .discard
        | .jump name ifReplaced => do
          let jumps := match ifReplaced with
            | none => true
            | some b => e.replaced == b
          if ifReplaced.isSome then modify fun e => { e with replaced := false }
          if !jumps then next
          else if name = "" then pure .finish
          else
            match e.script.labels.find? (·.1 == name) with
            | some l => runFrom fuel l.2
            | none => pure .finish
        | .substitute s => do
          let r ← regexOf s.pattern
          let cs := e.line.text
          let (text, changed) := replaceFrom s r cs (cs.length + 2) [] 0 1 none false
          if changed then
            setText text
            modify fun e => { e with replaced := true }
            if s.prints then emitLine text e.line.hasEnd
            match s.file with
            | some path => emitToFile path text e.line.hasEnd
            | none => pure ()
          next
        | .translate pairs => do
          setText (e.line.text.map fun c => ((pairs.find? (·.1 == c)).map (·.2)).getD c)
          next
        | .quit prints status => do
          modify fun e => { e with line := { e.line with hasEnd := true } }
          pure (.quit prints status)
        | .readFile path => do
          modify fun e => { e with additions := e.additions ++ [.file path] }
          next
        | .writeFile path firstOnly => do
          emitToFile path (if firstOnly then firstLine e.line.text else e.line.text)
            (firstOnly || e.line.hasEnd)
          next
        | .show width => do
          emitText (shownLine (width.getD e.width) e.line.text ++ [e.ending])
          next
        | .letter l => do
          match l with
          | '=' => do
            emitText ((toString e.number).toList ++ ['\n'])
            next
          | 'd' => pure .discard
          | 'D' => do
            if e.line.text.contains '\n' then
              setText (e.line.text.drop ((firstLine e.line.text).length + 1))
              pure .restart
            else pure .discard
          | 'F' => do
            emitText (e.name.toList ++ ['\n'])
            next
          | 'g' => do
            modify fun e => { e with line := e.held }
            next
          | 'G' => do
            modify fun e => { e with line := ⟨e.line.text ++ '\n' :: e.held.text, e.held.hasEnd⟩ }
            next
          | 'h' => do
            modify fun e => { e with held := e.line }
            next
          | 'H' => do
            modify fun e => { e with held := ⟨e.held.text ++ '\n' :: e.line.text, e.line.hasEnd⟩ }
            next
          | 'n' => do
            if ← isLast then
              if e.separates && !e.inputs.isEmpty then
                if !e.isQuiet then emitLine e.line.text e.line.hasEnd
                flushAdditions
                match ← readLine (e.inputs.length + 2) with
                | some line => do
                  modify fun e => { e with line := line }
                  next
                | none => pure (.quit false 0)
              else pure (.quit true 0)
            else do
              if !e.isQuiet then emitLine e.line.text e.line.hasEnd
              flushAdditions
              match ← readLine (e.inputs.length + 2) with
              | some line => do
                modify fun e => { e with line := line }
                next
              | none => pure (.quit false 0)
          | 'N' => do
            if ← isLast then pure (.quit true 0)
            else do
              flushAdditions
              match ← readLine (e.inputs.length + 2) with
              | some line => do
                modify fun e => { e with line := ⟨e.line.text ++ '\n' :: line.text, line.hasEnd⟩ }
                next
              | none => pure (.quit true 0)
          | 'p' => do
            emitLine e.line.text e.line.hasEnd
            next
          | 'P' => do
            emitLine (firstLine e.line.text) true
            next
          | 'x' => do
            modify fun e => { e with held := e.line, line := e.held }
            next
          | 'z' => do
            setText []
            next
          | _ => next

/-- The number of commands that are run on a line at most. -/
def maxSteps : Nat := 20000

/-- Edits all lines. The result is the exit code. `again` says whether the commands run on what is
left of a line. -/
def runAll : Nat → Bool → Steps Nat
  | 0, _ => throw .tooLong
  | fuel + 1, again => do
    let line? ← if again then do pure (some (← get).line)
      else readLine ((← get).inputs.length + 2)
    match line? with
    | none => pure 0
    | some line => do
      modify fun e => { e with line := line, replaced := if again then e.replaced else false }
      match ← runFrom maxSteps 0 with
      | .finish => do
        let e ← get
        if !e.isQuiet then emitLine e.line.text e.line.hasEnd
        flushAdditions
        runAll fuel false
      | .discard => do
        flushAdditions
        runAll fuel false
      | .restart => do
        flushAdditions
        runAll fuel true
      | .quit prints status => do
        let e ← get
        if prints && !e.isQuiet then emitLine e.line.text e.line.hasEnd
        flushAdditions
        pure status

end Steps

end RamlClient.Tools.Editing
