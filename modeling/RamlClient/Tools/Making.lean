import RamlClient.Tools.Lines
import RamlClient.Tools.Places
/-!
# Making and removing

Tools that make and remove files and directories, and change what may be done with them.
-/

namespace RamlClient.Tools

open Text (ByteText)
open Shell
open Shell.Running
open ToolOption (flag setting)

/-! ### Directories -/

/-- Makes a directory. -/
def makeDirectory (path : ByteText) : Running (Except FaultKind Unit) := do
  let plain := withoutSlashes path
  match ← placeOf false plain with
  | .error k => pure (.error k)
  | .ok place =>
    match (← files).node? place with
    | some _ => pure (.error .exists)
    | none => do
      changeTree fun t => t.put place .dir
      pure (.ok ())

/-- The paths on the way to a path, from the first name to the last one. -/
def waysTo (path : ByteText) : List ByteText :=
  let plain := withoutSlashes path
  let start : ByteText := if Text.startsWith plain "/" then "/" else ""
  let names := (FileTree.namesOf plain).filter (· != "")
  (List.range names.length).map fun n => start ++ Text.join "/" (names.take (n + 1))

/-- Makes directories. -/
def mkdir : Tool := fun _ name args => do
  let known := [setting "m" "mode", flag "p" "parents", flag "v" "verbose", flag "Z" ""]
  withArguments known true 1 name args fun a => do
    if a.operands.isEmpty then misuse name "missing operand" 1
    else match (a.value? "m").filter fun m => (Builtin.changedMode 511 m.toList).isNone with
    | some m => do
      report name ("invalid mode " ++ inCurlyQuotes m)
      pure 1
    | none =>
      let make (path shown : ByteText) : Running Bool := do
        match ← makeDirectory path with
        | .ok () => do
          if a.has "v" then print (name ++ ": created directory " ++ inQuotes shown ++ "\n")
          pure true
        | .error k => do
          if a.has "p" && k = .exists && (← isDirectory path) then pure true
          else
            let k := if a.has "p" && k = .exists then .notDirectory else k
            report name ("cannot create directory " ++ inCurlyQuotes shown ++ ": " ++ k.wording)
            pure false
      let ok ← a.operands.foldlM (fun ok path => do
        let made ←
          if a.has "p" && path != "" then do
            (waysTo path).foldlM (fun ok w => do
              if !ok then pure false
              else if w = withoutSlashes path then do
                match ← makeDirectory w with
                | .error .exists =>
                  if ← isDirectory w then pure true
                  else do
                    report name
                      ("cannot create directory " ++ inCurlyQuotes path ++ ": File exists")
                    pure false
                | .ok () => do
                  if a.has "v" then print (name ++ ": created directory " ++ inQuotes path ++ "\n")
                  pure true
                | .error k => do
                  report name ("cannot create directory " ++ inCurlyQuotes path ++ ": " ++
                    k.wording)
                  pure false
              else make w w) true
          else make path path
        pure (ok && made)) true
      pure (statusOf ok)

/-- Removes a directory without content. -/
def removeDirectory (path : ByteText) : Running (Except FaultKind Unit) := do
  if lastName path = "." then pure (.error .invalid)
  else match ← nodeAt false path with
  | .error k => pure (.error k)
  | .ok (place, .dir) =>
    if lastName path = ".." || !((← files).namesIn place).isEmpty then pure (.error .notEmpty)
    else do
      changeTree fun t => t.remove place
      pure (.ok ())
  | .ok _ => pure (.error .notDirectory)

/-- Removes directories without content. -/
def rmdir : Tool := fun _ name args => do
  let known := [flag "p" "parents", flag "v" "verbose",
    flag "ignore" "ignore-fail-on-non-empty"]
  withArguments known true 1 name args fun a => do
    if a.operands.isEmpty then misuse name "missing operand" 1
    else
      let remove (path : ByteText) (isFirst : Bool) : Running (Option Bool) := do
        if a.has "v" then print (name ++ ": removing directory, " ++ inQuotes path ++ "\n")
        match ← removeDirectory path with
        | .ok () => pure (some true)
        | .error k => do
          if k = .notEmpty && a.has "ignore" then pure (some false)
          else do
            report name ("failed to remove " ++ (if isFirst then "" else "directory ") ++
              inQuotes path ++ ": " ++ k.wording)
            pure none
      let ok ← a.operands.foldlM (fun ok path => do
        let ways := if a.has "p" then (waysTo path).reverse else [path]
        let (fine, _) ← ways.foldlM (fun (fine, goesOn) w => do
          if !goesOn then pure (fine, false)
          else match ← remove w (w == path) with
            | some b => pure (fine, b)
            | none => pure (false, false)) (true, true)
        pure (ok && fine)) true
      pure (statusOf ok)

/-! ### Files -/

/-- Makes files that are not there. -/
def touch : Tool := fun _ name args => do
  let known := [flag "a" "", flag "c" "no-create", setting "d" "date", flag "f" "",
    flag "h" "no-dereference", flag "m" "", setting "r" "reference", setting "t" "",
    setting "time" "time"]
  withArguments known true 1 name args fun a => do
    let reference ← match a.value? "r" with
      | some p => do pure ((← nodeAt true p).map fun _ => ())
      | none => pure (.ok ())
    match reference with
    | .error k => do
      report name ("failed to get attributes of " ++ inQuotes ((a.value? "r").getD "") ++ ": " ++
        k.wording)
      pure 1
    | .ok () =>
      if a.operands.isEmpty then misuse name "missing file operand" 1
      else do
        let ok ← a.operands.foldlM (fun ok path => do
          match ← nodeAt true path with
          | .ok _ => pure ok
          | .error k => do
            if path = "-" then pure ok
            else if a.hasAny ["c", "h"] && k = .absent then pure ok
            else if Text.endsWith path "/" && k = .absent then do
              report name ("setting times of " ++ inQuotes path ++ ": " ++ k.wording)
              pure false
            else match ← writeFile path "" false with
              | .ok () => pure ok
              | .error k => do
                report name ("cannot touch " ++ inQuotes path ++ ": " ++ k.wording)
                pure false) true
        pure (statusOf ok)

/-- Whether the answer to a question is yes. -/
def isConfirmed (name question : ByteText) : Running Bool := do
  printError (name ++ ": " ++ question ++ "? ")
  match ← unread 0 with
  | .ok text => do
    let line := text.toList.takeWhile (· != '\n')
    advance 0 (line.length + 1)
    pure (line.head? == some 'y' || line.head? == some 'Y')
  | .error _ => pure false

/-- Whether something may be done, which is asked only if it has to be. -/
def isAllowed (asks : Bool) (name question : ByteText) : Running Bool :=
  if asks then isConfirmed name question else pure true

/-- How removing goes. -/
structure Removal where
  /-- Whether directories are removed with their content. -/
  descends : Bool
  /-- Whether directories without content are removed. -/
  takesEmpty : Bool
  /-- Whether it does not matter if something is not there. -/
  forces : Bool
  /-- Whether each step is confirmed. -/
  asks : Bool
  /-- Whether each step is told. -/
  tells : Bool

/-- Removes what stands at a place and below it; `depth` bounds the number of directories on the
way. -/
def removeAt (name : ByteText) (m : Removal) : Nat → ByteText → List String → Running Bool
  | 0, _, _ => pure false
  | depth + 1, path, place => do
    match (← files).node? place with
    | some .dir => do
      let names := (← files).namesIn place
      let enters ← if m.asks && !names.isEmpty then
          isConfirmed name ("descend into directory " ++ inQuotes path)
        else pure true
      if !enters then pure true
      else do
        let ok ← names.foldlM (fun ok n => do
          let fine ← removeAt name m depth (inDirectory path (Text.bytesOf n)) (place ++ [n])
          pure (ok && fine)) true
        let isEmpty := ((← files).namesIn place).isEmpty
        let goes ← if m.asks && isEmpty then isConfirmed name ("remove directory " ++ inQuotes path)
          else pure isEmpty
        if goes then do
          changeTree fun t => t.remove place
          if m.tells then print ("removed directory " ++ inQuotes path ++ "\n")
        else if !isEmpty && !m.asks then
          report name ("cannot remove " ++ inQuotes path ++ ": Directory not empty")
        pure (ok && (goes || m.asks))
    | some node => do
      let kind := match node with
        | .link _ => "symbolic link"
        | .file c _ => if c.isEmpty then "regular empty file" else "regular file"
        | .dir => "directory"
      let goes ← if m.asks then isConfirmed name ("remove " ++ kind ++ " " ++ inQuotes path)
        else pure true
      if goes then do
        changeTree fun t => t.remove place
        if m.tells then print ("removed " ++ inQuotes path ++ "\n")
      pure true
    | none => pure true

/-- Removes files, and directories if asked to. -/
def rm : Tool := fun _ name args => do
  let known := [flag "d" "dir", flag "f" "force", flag "i" "", flag "I" "", flag "r" "recursive",
    flag "R" "", flag "v" "verbose", flag "no-preserve-root" "no-preserve-root",
    ⟨"preserve-root", "preserve-root", .sometimes⟩, flag "one-file-system" "one-file-system",
    ⟨"interactive", "interactive", .sometimes⟩]
  withArguments known true 1 name args fun a => do
    let m : Removal := ⟨a.hasAny ["r", "R"], a.has "d", a.last? ["f", "i"] == some "f",
      a.last? ["f", "i"] == some "i", a.has "v"⟩
    if a.operands.isEmpty then
      if a.has "f" then pure 0 else misuse name "missing operand" 1
    else do
      let ok ← a.operands.foldlM (fun ok path => do
        let last := lastName path
        let isLink := match Text.endsWith path "/", ← nodeAt false (withoutSlashes path) with
          | true, .ok (_, .link _) => true
          | _, _ => false
        match ← nodeAt false path with
        | .error k => do
          if m.forces && (k = .absent || k = .notDirectory) then pure ok
          else do
            report name ("cannot remove " ++ inQuotes path ++ ": " ++ k.wording)
            pure false
        | .ok (place, node) => do
          if node.isDir && !m.descends &&
            !(m.takesEmpty && ((← files).namesIn place).isEmpty) then do
            report name ("cannot remove " ++ inQuotes path ++ ": " ++
              if m.takesEmpty then "Directory not empty" else "Is a directory")
            pure false
          else if last = "." || last = ".." then do
            report name ("refusing to remove '.' or '..' directory: skipping " ++ inQuotes path)
            pure false
          else if place.isEmpty then do
            report name ("it is dangerous to operate recursively on " ++ inQuotes path)
            report name "use --no-preserve-root to override this failsafe"
            pure false
          else if isLink then do
            let names := (← files).namesIn place
            names.forM fun n => do
              discard (removeAt name m 200 (inDirectory path (Text.bytesOf n)) (place ++ [n]))
            report name ("cannot remove " ++ inQuotes path ++ ": Not a directory")
            pure false
          else do
            let fine ← removeAt name m 200 path place
            pure (ok && fine)) true
      pure (statusOf ok)

/-! ### Permissions -/

/-- What may be done with a node, as a number. -/
def modeOf : FileNode → Nat
  | .dir => 493
  | .file _ isProgram => if isProgram then 493 else 420
  | .link _ => 511

/-- What may be done, in letters. -/
def modeLetters (mode : Nat) : ByteText :=
  String.ofList ([64, 8, 1].flatMap fun place =>
    let bits := mode / place % 8
    [if bits / 4 % 2 = 1 then 'r' else '-', if bits / 2 % 2 = 1 then 'w' else '-',
      if bits % 2 = 1 then 'x' else '-'])

end RamlClient.Tools
