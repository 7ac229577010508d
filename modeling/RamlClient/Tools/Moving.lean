import RamlClient.Tools.Making
/-!
# Copying and moving

Tools that copy and move files and directories, and make links to them. The last argument is the
target, or a directory that everything else goes to.
-/

namespace RamlClient.Tools

open Text (ByteText)
open Shell
open Shell.Running
open ToolOption (flag setting)

/-! ### Targets -/

/-- Where things go: to one path, or into a directory. -/
inductive Target where
  /-- To a path. -/
  | path (p : ByteText)
  /-- Into a directory. -/
  | directory (p : ByteText)

/-- The sources and the target of a tool, or the exit code if they make no sense. -/
def sourcesAndTarget (name : ByteText) (a : ToolArguments) :
    Running (Except Nat (List ByteText × Target)) := do
  match a.value? "t" with
  | some d =>
    if a.operands.isEmpty then do pure (.error (← misuse name "missing file operand" 1))
    else match ← nodeAt true d with
      | .ok (_, .dir) => pure (.ok (a.operands, .directory d))
      | .ok _ => do
        report name ("target directory " ++ inQuotes d ++ ": Not a directory")
        pure (.error 1)
      | .error k => do
        report name ("target directory " ++ inQuotes d ++ ": " ++ k.wording)
        pure (.error 1)
  | none =>
    match a.operands with
    | [] => do pure (.error (← misuse name "missing file operand" 1))
    | [x] => do
      pure (.error (← misuse name ("missing destination file operand after " ++ inQuotes x) 1))
    | operands =>
      let last := operands.getLast?.getD ""
      let sources := operands.dropLast
      if a.has "T" then
        match sources with
        | [_] => pure (.ok (sources, .path last))
        | _ => do
          pure (.error (← misuse name ("extra operand " ++ inQuotes ((operands[2]?).getD "")) 1))
      else if ← isDirectory last then pure (.ok (sources, .directory last))
      else match sources with
        | [_] => pure (.ok (sources, .path last))
        | _ => do
          let k := match ← nodeAt true last with
            | .ok _ => FaultKind.notDirectory
            | .error k => k
          report name ("target " ++ inQuotes last ++ ": " ++ k.wording)
          pure (.error 1)

/-- The path that a source goes to. -/
def targetOf (source : ByteText) : Target → ByteText
  | .path p => p
  | .directory d =>
    let name := lastName source
    inDirectory d (if name = ".." then "." else name)

/-- How what is there is kept under another name. -/
structure Keeping where
  /-- What stands at the end of the other name. -/
  suffix : ByteText
  /-- Whether the other names are numbered. -/
  isNumbered : Bool

/-- How what is there is kept, if options say that it is. -/
def keepingOf (a : ToolArguments) : Option Keeping :=
  if !a.hasAny ["b", "backup"] then none
  else
    let suffix := (a.value? "S").getD "~"
    match (a.value? "backup").getD "" with
    | "none" => none
    | "off" => none
    | "numbered" => some ⟨suffix, true⟩
    | "t" => some ⟨suffix, true⟩
    | _ => some ⟨suffix, false⟩

/-- Keeps what stands at a place under another name. -/
def keepCopy (k : Keeping) (place : List String) : Running Unit := do
  match place.getLast? with
  | some n => do
    let names := (← files).namesIn place.dropLast
    let numbered (i : Nat) : String := n ++ ".~" ++ toString i ++ "~"
    let free := (List.range (names.length + 1)).find? fun i => !names.contains (numbered (i + 1))
    let name := if k.isNumbered then numbered (free.getD 0 + 1) else n ++ Text.textOfBytes k.suffix
    changeTree fun t => t.move place (place.dropLast ++ [name])
  | none => pure ()

/-- The options for keeping what is there. -/
def keepingOptions : List ToolOption :=
  [flag "b" "", ⟨"backup", "backup", .sometimes⟩, setting "S" "suffix"]

/-- Whether options say that each step is confirmed. -/
def asksFirst (a : ToolArguments) : Bool := a.last? ["f", "i", "n"] == some "i"

/-! ### Copying -/

/-- How copying goes. -/
structure Copying where
  /-- Whether directories are copied. -/
  descends : Bool
  /-- Whether links are copied as links. -/
  keepsLinks : Bool
  /-- Whether files that are there are left alone. -/
  spares : Bool
  /-- Whether each step is told. -/
  tells : Bool
  /-- How what is there is kept under another name, if it is. -/
  keeping : Option Keeping
  /-- Whether each step that replaces a file is confirmed. -/
  asks : Bool
  /-- Whether a file that cannot be written is removed first. -/
  forces : Bool
  /-- Whether links to the sources are made. -/
  links : Bool

/-- How far copying has come. -/
structure Copied where
  /-- Whether everything could be copied. -/
  isOk : Bool
  /-- The place of the first directory that has been made. -/
  made : Option (List String)
  /-- Whether copying ends. -/
  ended : Bool

/-- Tells why something cannot be copied. -/
def copyFault (name text : ByteText) (c : Copied) : Running Copied := do
  report name text
  pure { c with isOk := false }

/-- Copies a file or a link to a path. `old` is what stands there. -/
def copyNode (name : ByteText) (m : Copying) (source target : ByteText) (node : FileNode)
    (old : Except FaultKind (List String × FileNode)) (tell : Running Unit) (c : Copied) :
    Running Copied := do
  match old, m.keeping with
  | .ok (place, _), some k => keepCopy k place
  | _, _ => pure ()
  let target? : Except FaultKind (List String) ←
    if Text.endsWith target "/" then
      pure (match ← placeOf false (withoutSlashes target) with
        | .ok _ => .error .notDirectory
        | .error k => .error k)
    else placeOf (!m.keepsLinks) target
  match target? with
  | .error k =>
    copyFault name ("cannot create " ++ (match node with
      | .link _ => "symbolic link "
      | _ => "regular file ") ++ inQuotes target ++ ": " ++ k.wording) c
  | .ok place => do
    let isProgram := match old, node with
      | .ok (_, .file _ p), _ => p
      | _, .file _ p => p
      | _, _ => false
    let new : FileNode := match node with
      | .file content _ =>
        if m.links then .link (Text.textOfBytes source) else .file content isProgram
      | node => node
    tell
    changeTree fun t => t.put place new
    pure c

/-- Copies what a path leads to; `depth` bounds the number of directories on the way. `whole` holds
the source and the target that copying began with. -/
def copyFrom (name : ByteText) (whole : ByteText × ByteText) :
    Nat → Copying → ByteText → ByteText → Copied → Running Copied
  | 0, _, _, _, c => pure c
  | depth + 1, m, source, target, c => do
    let intoItself : Running Copied := do
      report name ("cannot copy a directory, " ++ inQuotes whole.1 ++ ", into itself, " ++
        inQuotes whole.2)
      pure { c with isOk := false, ended := true }
    match ← nodeAt (!m.keepsLinks) source with
    | .error k => copyFault name ("cannot stat " ++ inQuotes source ++ ": " ++ k.wording) c
    | .ok (from_, node) =>
      if node.isDir && !m.descends then
        copyFault name ("-r not specified; omitting directory " ++ inQuotes source) c
      else
        let old ← nodeAt (!(m.keepsLinks && !node.isDir)) target
        let link ← nodeAt false target
        let tell : Running Unit := do
          if m.tells then print (inQuotes source ++ " -> " ++ inQuotes target ++ "\n")
        let inside (c : Copied) : Running Copied := do
          let names := (← files).namesIn from_
          names.foldlM (fun c n => do
            let n := Text.bytesOf n
            if c.ended then pure c
            else
              let m := { m with keepsLinks := true }
              copyFrom name whole depth m (inDirectory source n) (inDirectory target n) c) c
        let isSame := old.toOption.map (·.1) == some from_
        if m.spares && old.isOk && !node.isDir then pure c
        else if isSame && m.keeping.isNone then
          if node.isDir && source = target then intoItself
          else copyFault name (inQuotes source ++ " and " ++ inQuotes target ++
            " are the same file") c
        else match node, old, link with
          | .dir, .ok (_, .dir), _ => if c.made = some from_ then intoItself else inside c
          | .dir, .ok _, _ =>
            copyFault name ("cannot overwrite non-directory " ++ inQuotes target ++
              " with directory " ++ inQuotes source) c
          | .dir, .error .absent, .ok (_, .link _) =>
            copyFault name ("cannot overwrite non-directory " ++ inQuotes target ++
              " with directory " ++ inQuotes source) c
          | .dir, .error k, _ =>
            if k != .absent then
              copyFault name ("cannot stat " ++ inQuotes target ++ ": " ++ k.wording) c
            else if c.made = some from_ then intoItself
            else match ← placeOf false (withoutSlashes target) with
            | .error k =>
              copyFault name ("cannot create directory " ++ inQuotes target ++ ": " ++ k.wording) c
            | .ok place =>
              match ← makeDirectory target with
              | .error k =>
                copyFault name ("cannot create directory " ++ inQuotes target ++ ": " ++
                  k.wording) c
              | .ok () => do
                tell
                inside { c with made := some (c.made.getD place) }
          | _, .ok (_, .dir), _ =>
            copyFault name ("cannot overwrite directory " ++ inQuotes target ++
              " with non-directory") c
          | .file _ _, .error .absent, .ok (_, .link _) =>
            copyFault name ("not writing through dangling symlink " ++ inQuotes target) c
          | node, old, _ =>
            match old with
            | .error .absent => copyNode name m source target node old tell c
            | .error k =>
              copyFault name ("cannot stat " ++ inQuotes target ++ ": " ++ k.wording) c
            | .ok _ =>
              if !(← isAllowed m.asks name ("overwrite " ++ inQuotes target)) then pure c
              else copyNode name m source target node old tell c

/-- Copies files. -/
def cp : Tool := fun _ name args => do
  let known :=
    keepingOptions ++ [flag "a" "archive", flag "d" "", flag "f" "force", flag "i" "interactive",
    flag "H" "", flag "l" "link", flag "L" "dereference", flag "n" "no-clobber",
    flag "P" "no-dereference", flag "p" "",
    ⟨"preserve", "preserve", .sometimes⟩, setting "no-preserve" "no-preserve",
    flag "parents" "parents", flag "r" "recursive", flag "R" "", flag "s" "symbolic-link",
    setting "sparse" "sparse", ⟨"reflink", "reflink", .sometimes⟩, setting "t" "target-directory",
    flag "T" "no-target-directory",
    flag "u" "update", flag "v" "verbose", flag "x" "one-file-system",
    flag "remove-destination" "remove-destination",
    flag "strip-trailing-slashes" "strip-trailing-slashes", flag "Z" ""]
  withArguments known true 1 name args fun a => do
    match ← sourcesAndTarget name a with
    | .error status => pure status
    | .ok (sources, target) => do
      let descends := a.hasAny ["a", "r", "R"]
      let keepsLinks := a.last? ["a", "d", "P", "L", "H"] != some "L" &&
        a.last? ["a", "d", "P", "L", "H"] != some "H" && (descends || a.hasAny ["d", "P"])
      let m : Copying := ⟨descends, keepsLinks, a.hasAny ["n", "u"] && !asksFirst a, a.has "v",
        keepingOf a, asksFirst a, a.has "f", a.has "s"⟩
      let mut seen : List (List String) := []
      let mut ok := true
      for s in sources do
        let place? := match ← nodeAt (!keepsLinks) s with
          | .ok (place, .file _ _) => some place
          | _ => none
        let isRepeated := place?.any seen.contains
        match place? with
        | some place => seen := place :: seen
        | none => pure ()
        if isRepeated && m.keeping.isNone then
          report name ("warning: source file " ++ inQuotes s ++ " specified more than once")
          continue
        let path ←
          match a.has "parents", target with
          | true, .directory d => do
            let path := inDirectory d s
            discard ((waysTo (directoryName path)).mapM makeDirectory)
            pure path
          | _, _ => pure (targetOf s target)
        let c ← copyFrom name (s, path) 200 m s path ⟨true, none, false⟩
        ok := ok && c.isOk
      pure (statusOf ok)

/-! ### Moving -/

/-- Moves files. -/
def mv : Tool := fun _ name args => do
  let known := keepingOptions ++ [flag "f" "force", flag "i" "interactive",
    flag "n" "no-clobber", setting "t" "target-directory", flag "T" "no-target-directory",
    flag "u" "update",
    flag "v" "verbose", flag "strip-trailing-slashes" "strip-trailing-slashes", flag "Z" ""]
  withArguments known true 1 name args fun a => do
    match ← sourcesAndTarget name a with
    | .error status => pure status
    | .ok (sources, target) => do
      let move (source : ByteText) : Running Bool := do
        let path := targetOf source target
        let complain (text : ByteText) : Running Bool := do
          report name text
          pure false
        match ← nodeAt false source with
        | .error k => complain ("cannot stat " ++ inQuotes source ++ ": " ++ k.wording)
        | .ok (from_, node) =>
          match ← nodeAt false path with
          | .error .absent => do
            let plain := if node.isDir then withoutSlashes path else path
            if Text.endsWith plain "/" then
              complain ("cannot move " ++ inQuotes source ++ " to " ++ inQuotes path ++
                ": Not a directory")
            else match ← placeOf false plain with
              | .error k =>
                complain ("cannot move " ++ inQuotes source ++ " to " ++ inQuotes path ++ ": " ++
                  k.wording)
              | .ok place =>
                if ["." , ".."].contains (lastName source) then
                  complain ("cannot move " ++ inQuotes source ++ " to " ++ inQuotes path ++
                    ": Device or resource busy")
                else if from_.isPrefixOf place then
                  complain ("cannot move " ++ inQuotes source ++ " to a subdirectory of itself, " ++
                    inQuotes path)
                else do
                  changeTree fun t => t.move from_ place
                  if a.has "v" then
                    print ("renamed " ++ inQuotes source ++ " -> " ++ inQuotes path ++ "\n")
                  pure true
          | .error k => complain ("cannot stat " ++ inQuotes path ++ ": " ++ k.wording)
          | .ok (place, old) => do
            let isLinkTo := match node, old with
              | .link _, .file _ _ => true
              | _, _ => false
            let isSame := from_ == place || (isLinkTo &&
              (← nodeAt true source).toOption.map (·.1) == some place)
            if a.hasAny ["n", "u"] &&
              !(["f", "i"].contains ((a.last? ["n", "f", "i"]).getD "")) then
              pure true
            else if isSame then
              complain (inQuotes source ++ " and " ++ inQuotes path ++ " are the same file")
            else if node.isDir && from_.isPrefixOf place then
              complain ("cannot move " ++ inQuotes source ++ " to a subdirectory of itself, " ++
                inQuotes path)
            else if node.isDir && !old.isDir && (keepingOf a).isNone then
              complain ("cannot overwrite non-directory " ++ inQuotes path ++ " with directory " ++
                inQuotes source)
            else if !node.isDir && old.isDir && (keepingOf a).isNone then
              complain ("cannot overwrite directory " ++ inQuotes path ++ " with non-directory")
            else if !(← isAllowed (asksFirst a) name ("overwrite " ++ inQuotes path)) then pure true
            else if (keepingOf a).isSome then do
              match keepingOf a with
              | some k => keepCopy k place
              | none => pure ()
              changeTree fun t => t.move from_ place
              if a.has "v" then
                print ("renamed " ++ inQuotes source ++ " -> " ++ inQuotes path ++ "\n")
              pure true
            else if old.isDir && !((← files).namesIn place).isEmpty then
              complain ("cannot move " ++ inQuotes source ++ " to " ++ inQuotes path ++
                ": Directory not empty")
            else do
              changeTree fun t => t.move from_ place
              if a.has "v" then
                print ("renamed " ++ inQuotes source ++ " -> " ++ inQuotes path ++ "\n")
              pure true
      let ok ← sources.foldlM (fun ok s => do
        let fine ← move s
        pure (ok && fine)) true
      pure (statusOf ok)

/-! ### Links -/

/-- Makes links. -/
def ln : Tool := fun _ name args => do
  let known := keepingOptions ++ [flag "d" "directory", flag "F" "", flag "f" "force",
    flag "i" "interactive", flag "L" "logical", flag "n" "no-dereference", flag "P" "physical",
    flag "r" "relative", flag "s" "symbolic", setting "t" "target-directory",
    flag "T" "no-target-directory", flag "v" "verbose"]
  withArguments known true 1 name args fun a => do
    let symbolic := a.has "s"
    let link (source path : ByteText) : Running Bool := do
      let fail (text : ByteText) : Running Bool := do
        report name text
        pure false
      let kind := if symbolic then "symbolic" else "hard"
      let node? : Except ByteText FileNode ←
        if symbolic then do
          let text ← if a.has "r" then do
              match ← canonical "some" source, ← canonical "some" (directoryName path) with
              | .ok p, .ok d => pure (relativePlace d p)
              | _, _ => pure source
            else pure source
          pure (.ok (.link (Text.textOfBytes text)))
        else do
          match ← nodeAt (a.has "L") source with
          | .error k => pure (.error ("failed to access " ++ inQuotes source ++ ": " ++ k.wording))
          | .ok (_, .dir) =>
            pure (.error (asNeeded source ++ ": hard link not allowed for directory"))
          | .ok (_, node) => pure (.ok node)
      match node? with
      | .error text => fail text
      | .ok node =>
        match ← placeOf false path with
        | .error k =>
          fail ("failed to create " ++ kind ++ " link " ++ inQuotes path ++
            (if symbolic then "" else " => " ++ inQuotes source) ++ ": " ++ k.wording)
        | .ok place =>
          let old := (← files).node? place
          match old with
          | some old =>
            let isSame := (← nodeAt false source).toOption.map (·.1) == some place
            let replaced ← isAllowed (asksFirst a) name ("replace " ++ inQuotes path)
            if !replaced then pure false
            else if isSame && (keepingOf a).isNone && a.has "f" then
              fail (inQuotes source ++ " and " ++ inQuotes path ++ " are the same file")
            else if (keepingOf a).isSome then do
              match keepingOf a with
              | some k => keepCopy k place
              | none => pure ()
              changeTree fun t => t.put place node
              pure true
            else if !a.hasAny ["f", "i"] then
              fail ("failed to create " ++ kind ++ " link " ++ inQuotes path ++ ": File exists")
            else if old.isDir then fail (asNeeded path ++ ": cannot overwrite directory")
            else do
              changeTree fun t => (t.remove place).put place node
              if a.has "v" then
                print (inQuotes path ++ (if symbolic then " -> " else " => ") ++ inQuotes source ++
                  "\n")
              pure true
          | none => do
            changeTree fun t => t.put place node
            if a.has "v" then
              print (inQuotes path ++ (if symbolic then " -> " else " => ") ++ inQuotes source ++
                "\n")
            pure true
    let intoDirectory (d : ByteText) : Running Bool := do
      if a.has "n" then
        pure (match ← nodeAt false d with
          | .ok (_, .dir) => true
          | _ => false)
      else isDirectory d
    let all (sources : List ByteText) (d : ByteText) : Running Nat := do
      let ok ← sources.foldlM (fun ok s => do
        let fine ← link s (inDirectory d (lastName s))
        pure (ok && fine)) true
      pure (statusOf ok)
    match a.value? "t", a.operands with
    | some d, sources =>
      if sources.isEmpty then misuse name "missing file operand" 1
      else if ← isDirectory d then all sources d
      else do
        let k := match ← nodeAt true d with
          | .ok _ => FaultKind.notDirectory
          | .error k => k
        report name ("target directory " ++ inQuotes d ++ ": " ++ k.wording)
        pure 1
    | none, [] => misuse name "missing file operand" 1
    | none, [x] => all [x] "."
    | none, operands => do
      let last := operands.getLast?.getD ""
      let sources := operands.dropLast
      match sources, a.has "T" with
      | _ :: x :: _, true => misuse name ("extra operand " ++ inQuotes x) 1
      | [s], true => do pure (statusOf (← link s last))
      | sources, _ =>
        if ← intoDirectory last then all sources last
        else match sources with
          | [s] => do pure (statusOf (← link s last))
          | _ => do
            let k := match ← nodeAt true last with
              | .ok _ => FaultKind.notDirectory
              | .error k => k
            report name ("target " ++ inQuotes last ++ ": " ++ k.wording)
            pure 1

end RamlClient.Tools
