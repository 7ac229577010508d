import RamlClient.Tools.Editing.Editor
/-!
# The editing tool

The script is given by options or is the first argument. Reports about the script say where its
fault is.
-/

namespace RamlClient.Tools.Editing

open Text (ByteText)
open Shell
open Shell.Running
open ToolOption (flag setting)

/-- The options of the tool. -/
def editOptions : List ToolOption :=
  [flag "n" "quiet", flag "n" "silent", setting "e" "expression", setting "f" "file",
   flag "E" "regexp-extended", flag "r" "", ⟨"i", "in-place", .sometimes⟩, flag "s" "separate",
   flag "u" "unbuffered", flag "z" "null-data", setting "l" "line-length", flag "posix" "posix",
   flag "debug" "debug", flag "sandbox" "sandbox", flag "follow-symlinks" "follow-symlinks"]

/-- A piece of a script as it is given. -/
inductive GivenPiece where
  /-- An expression. -/
  | expression (text : ByteText)
  /-- A file. -/
  | file (name : ByteText)

/-- The files that commands write to. -/
def writtenFiles (s : Script) : List String :=
  (s.commands.toList.filterMap fun c => match c.action with
    | .writeFile path _ => some path
    | .substitute t => t.file
    | _ => none).eraseDups

/-- The files that commands read. -/
def readFiles (s : Script) : List String :=
  (s.commands.toList.filterMap fun c => match c.action with
    | .readFile path => some path
    | _ => none).eraseDups

/-- The name of a copy of a file. -/
def backupName (suffix path : ByteText) : ByteText :=
  if suffix.toList.contains '*' then
    let names := FileTree.namesOf path
    let base := names.getLast?.getD ""
    let copy := String.ofList (suffix.toList.flatMap fun c => if c = '*' then base.toList else [c])
    if copy.toList.contains '/' then copy
    else Text.join "/" (names.dropLast ++ [copy])
  else path ++ suffix

/-- The inputs of the editor with the exit code so far, and the report about an input that ends
editing. -/
def gatherInputs (name : ByteText) (inPlace : Bool) (ending : Char) :
    List ByteText → Running (List (ByteText × ByteText) × Nat × Option ByteText)
  | [] => pure ([], 0, none)
  | i :: r => do
    match ← (if i = "-" && !inPlace then readAll 0 else readFile i) with
    | .ok text => do
      let (inputs, status, last) ← gatherInputs name inPlace ending r
      pure ((i, text) :: inputs, status, last)
    | .error .isDirectory =>
      let shown := if i = "-" then "standard input" else i
      pure ([], 0, some (if inPlace then "couldn't edit " ++ i ++ ": not a regular file"
        else "read error on " ++ shown ++ ": Is a directory"))
    | .error k => do
      report name ("can't read " ++ i ++ ": " ++ k.wording)
      let (inputs, _, last) ← gatherInputs name inPlace ending r
      pure (inputs, 2, last)

/-- The lines of a text. -/
def linesOf (ending : Char) (cs : List Char) : List Line :=
  let pieces := Text.splitAtChar ending cs
  let whole := pieces.dropLast.map fun p => (⟨p, true⟩ : Line)
  match pieces.getLast? with
  | some [] => whole
  | some p => whole ++ [⟨p, false⟩]
  | none => whole

/-- Edits with a script. -/
def edit (name : ByteText) (a : ToolArguments) (script : Script) (quiet : Bool)
    (inputs : List (ByteText × ByteText)) : Running (Option Nat) := do
  let ending : Char := if a.has "z" then '\x00' else '\n'
  let inPlace := a.has "i"
  let sources ← (readFiles script).mapM fun path => do
    match ← readInput (if path = "/dev/stdin" then "-" else Text.bytesOfChars path.toList) with
    | .ok text => pure (path, Text.charsOfBytes text)
    | .error _ => pure (path, [])
  let size := inputs.foldl (fun n i => n + i.2.length + 2) 2
  let editor : Editor := {
    script, isQuiet := quiet, separates := inPlace || a.has "s", inPlace
    width := ((a.value? "l").bind digits?).getD 70
    ending, name := "", lines := []
    inputs := inputs.map fun i => ⟨i.1, linesOf ending (Text.charsOfBytes i.2)⟩
    number := 0, line := ⟨[], true⟩, held := ⟨[], true⟩, ranges := [], closed := [], additions := []
    output := ⟨[], false⟩
    files := (writtenFiles script).map fun f => (f, ⟨[], false⟩)
    results := [], replaced := false, lastRegex := none, sources }
  let store (e : Editor) : Running Unit := do
    e.files.forM fun f => do
      let text := Text.bytesOfChars f.2.reversed.reverse
      if f.1 = "/dev/stdout" then print text
      else if f.1 = "/dev/stderr" then printError text
      else discard (writeFile (Text.bytesOfChars f.1.toList) text false)
    e.results.forM fun r => do
      let suffix := (a.value? "i").getD ""
      if suffix != "" then
        match ← readFile r.1 with
        | .ok old => discard (writeFile (backupName suffix r.1) old false)
        | .error _ => pure ()
      discard (writeFile r.1 (Text.bytesOfChars r.2.reverse) false)
    print (Text.bytesOfChars e.output.reversed.reverse)
  let edited := do
    let status ← Steps.runAll (2 * size) false
    Steps.endInput
    pure status
  match edited editor with
  | .ok status e => do
    store e
    pure (some status)
  | .error .noRegex e => do
    store e
    report name "-e expression #1, char 0: no previous regular expression"
    pure none
  | .error .tooLong _ => throw .lost

/-- Edits lines. -/
def sed : Tool := fun _ name args => do
  match readToolArguments (editOptions ++ [flag "help" "help", flag "version" "version"])
    true args with
  | .error e => do
    report name e
    pure 1
  | .ok a =>
    if a.hasAny ["help", "version"] then pure 0
    else
      let given := a.options.filterMap fun o =>
        if o.1 == "e" then some (GivenPiece.expression o.2)
        else if o.1 == "f" then some (GivenPiece.file o.2) else none
      match given, a.operands with
      | [], [] => do
        printError ("Usage: " ++ name ++
          " [OPTION]... \x7bscript-only-if-no-other-script\x7d [input-file]...\n")
        pure 1
      | given, operands =>
        let (given, operands) := match given, operands with
          | [], s :: r => ([GivenPiece.expression s], r)
          | given, operands => (given, operands)
        let mut pieces : List (Option ByteText × Nat × ByteText) := []
        let mut count := 0
        let mut missing : Option ByteText := none
        for g in given do
          match g with
          | .expression text =>
            count := count + 1
            pieces := pieces ++ [(none, count, text)]
          | .file path =>
            match ← readInput path with
            | .ok text =>
              let text :=
                if Text.endsWith text "\n" then String.ofList text.toList.dropLast else text
              pieces := pieces ++ [(some path, 0, text)]
            | .error k =>
              if missing.isNone then
                missing := some ("couldn't open file " ++ path ++ ": " ++ k.wording)
        match missing with
        | some text => do
          report name text
          pure 4
        | none => do
          let inPlace := a.has "i"
          match readScript ⟨a.hasAny ["E", "r"], true, true⟩ (pieces.map fun p =>
              ⟨p.1, p.2.1, Text.charsOfBytes p.2.2⟩) with
          | .error (.unreadable text) => do
            report name (Text.bytesOf text)
            pure 1
          | .error (.noLabel label) => do
            report name ("can't find label for jump to \x60" ++ Text.bytesOf label ++ "'")
            pure 4
          | .ok script =>
            if inPlace && operands.isEmpty then do
              report name "no input files"
              pure 4
            else do
              let ending : Char := if a.has "z" then '\x00' else '\n'
              let (inputs, status, last) ← gatherInputs name inPlace ending
                (if operands.isEmpty then ["-"] else operands)
              let marked := match pieces with
                | (_, _, text) :: _ => text = "#n" || Text.startsWith text "#n\n"
                | [] => false
              match ← edit name a script (a.has "n" || marked) inputs with
              | none => pure 1
              | some code => do
                match last with
                | some text => do
                  report name text
                  pure 4
                | none => pure (if code != 0 then code else status)

end RamlClient.Tools.Editing
