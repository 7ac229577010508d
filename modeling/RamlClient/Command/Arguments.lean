import RamlClient.Command.Option
import RamlClient.Files.Path
import RamlClient.Text.Numeral
import RamlClient.Text.ShellWord
/-!
# Arguments of the command

The command takes one argument that is no option, the document, and options before and after it. The
arguments are read from left to right. The first thing that is wrong ends the reading, and so does
the option for help.

An option with a value in the same argument may have two hyphens there. They do not count as its
value: the option is blank.
-/

namespace RamlClient.Command

/-- What the command is asked to do. -/
structure Arguments where
  /-- The path or the web address of the document. -/
  spec : String
  /-- The name of the target, unless it is blank. -/
  target : Option String
  /-- The directory that is written to, unless it is blank. -/
  output : Option Path
  /-- The name of the generated package. -/
  packageName : String
  /-- The number of segments that are left out of names, unless it is blank. -/
  prefixDepth : Option Int
  /-- The command that formats the generated files. -/
  formatter : String
  /-- Whether more records are shown. -/
  verbose : Bool
  /-- Whether fewer records are shown. -/
  quiet : Bool
deriving DecidableEq, Repr

/-- Why the reading of arguments ends. -/
inductive Stop where
  /-- The option for help is given. -/
  | help
  /-- The arguments are wrong. -/
  | usage (e : UsageError)
deriving DecidableEq, Repr

/-- What has been read of the arguments. -/
structure Given where
  /-- The document. -/
  spec : Option String
  /-- The target, which may be blank. -/
  target : Option (Option String)
  /-- The directory, which may be blank. -/
  output : Option (Option String)
  /-- The name of the package. -/
  packageName : String
  /-- The number of segments, unless it is blank. -/
  prefixDepth : Option Int
  /-- The command. -/
  formatter : String
  /-- Whether more records are shown. -/
  verbose : Bool
  /-- Whether fewer records are shown. -/
  quiet : Bool
  /-- The arguments without meaning. -/
  extras : List String
deriving DecidableEq, Repr

/-- The name of the package unless another one is given. -/
def defaultPackageName : String := "client"

/-- The command unless another one is given. -/
def defaultFormatter : String := "gofmt -w"

/-- Nothing has been read. -/
def Given.none : Given :=
  ⟨.none, .none, .none, defaultPackageName, some 0, defaultFormatter, false, false, []⟩

/-! ### Values of options -/

/-- A package name: a lower-case letter or an underscore, and then letters, digits and underscores.
One line end after it does not count. -/
def isPackageName (s : String) : Bool :=
  let cs := s.toList
  let cs := if cs.getLast? = some '\n' then cs.dropLast else cs
  let isStart (c : Char) : Bool := ('a' ≤ c && c ≤ 'z') || c == '_'
  match cs with
  | [] => false
  | c :: r => isStart c && r.all fun d => isStart d || d.isDigit

/-- A number that is not negative. -/
def readDepth (s : String) : Except UsageError Int :=
  match Text.intOfNumeral? s.toList with
  | none => .error (.invalidDepth s)
  | some n => if n < 0 then .error .negativeDepth else .ok n

/-- A command with words. -/
def readFormatter (s : String) : Except UsageError String :=
  match Text.shellWords s with
  | .error _ => .error (.invalidFormatter s)
  | .ok [] => .error .emptyFormatter
  | .ok _ => .ok s

/-- A package name. -/
def readPackageName (s : String) : Except UsageError String :=
  if isPackageName s then .ok s else .error (.invalidPackageName s)

/-- Takes an option with its value, unless it is blank. -/
def takeFlag (g : Given) (flag : Flag) (value : Option String) : Except Stop Given :=
  match flag with
  | .help => .error .help
  | .target => .ok { g with target := some value }
  | .output => .ok { g with output := some value }
  | .packageName =>
    match value.mapM readPackageName with
    | .ok name => .ok { g with packageName := name.getD defaultPackageName }
    | .error e => .error (.usage e)
  | .prefixDepth =>
    match value.mapM readDepth with
    | .ok depth => .ok { g with prefixDepth := depth }
    | .error e => .error (.usage e)
  | .formatter =>
    match value.mapM readFormatter with
    | .ok command => .ok { g with formatter := command.getD defaultFormatter }
    | .error e => .error (.usage e)
  | .verbose =>
    if g.quiet then .error (.usage (.conflict .verbose .quiet)) else .ok { g with verbose := true }
  | .quiet =>
    if g.verbose then .error (.usage (.conflict .quiet .verbose)) else .ok { g with quiet := true }

/-- Takes options one after another. -/
def takeFlags (g : Given) (flags : List (Flag × Option String)) : Except Stop Given :=
  flags.foldlM (fun g f => takeFlag g f.1 f.2) g

/-! ### Options in one argument -/

/-- The options in one argument, with their values. -/
structure Cluster where
  /-- The options that are complete. -/
  flags : List (Flag × Option String)
  /-- The last option, if its value is to follow. -/
  waiting : Option Flag

/-- An option without anything after it. -/
def Cluster.ofFlag (flag : Flag) : Cluster :=
  if flag.hasValue then ⟨[], some flag⟩ else ⟨[(flag, none)], none⟩

/-- The value of an option in the same argument: two hyphens are none. -/
def attachedValue (cs : List Char) : Option String :=
  if cs = ['-', '-'] then none else some (String.ofList cs)

/-- The options in one argument. Short options without values may be followed by others, the last of
which may have its value after it. -/
def readCluster (flag : Flag) (isShort : Bool) (value : List Char) : Except UsageError Cluster :=
  if flag.hasValue then .ok ⟨[(flag, attachedValue value)], none⟩
  else match value with
    | [] => .error (.ignoredValue flag "")
    | c :: r =>
      match if isShort then Flag.ofName? (String.ofList ['-', c]) else none with
      | none => .error (.ignoredValue flag (String.ofList (c :: r)))
      | some next => do
        let rest ← if r.isEmpty then pure (Cluster.ofFlag next) else readCluster next true r
        pure { rest with flags := (flag, none) :: rest.flags }
termination_by structural value

/-- The options in one argument, with or without a value in it. -/
def readOption (flag : Flag) (isShort : Bool) : Option (List Char) → Except UsageError Cluster
  | some value => readCluster flag isShort value
  | none => .ok (Cluster.ofFlag flag)

/-! ### All arguments -/

/-- Reads the arguments one after another. The first one that is no option is the document; the mark
before it or right after it belongs to it. -/
def readArguments (g : Given) : List (String × ArgumentKind) → Except Stop Given
  | [] => .ok g
  | (_, .option flag isShort value) :: r =>
    match readOption flag isShort value with
    | .error e => .error (.usage e)
    | .ok cluster =>
      match cluster.waiting, r with
      | none, r => do readArguments (← takeFlags g cluster.flags) r
      | some waiting, (v, .plain) :: r => do
        readArguments (← takeFlags g (cluster.flags ++ [(waiting, some v)])) r
      | some waiting, _ => .error (.usage (.missingValue waiting))
  | (a, .unknownOption) :: r => readArguments { g with extras := g.extras ++ [a] } r
  | (a, .plain) :: r =>
    match g.spec, r with
    | none, (_, .mark) :: r => readArguments { g with spec := some a } r
    | none, r => readArguments { g with spec := some a } r
    | some _, r => readArguments { g with extras := g.extras ++ [a] } r
  | (a, .mark) :: r =>
    match g.spec, r with
    | none, (b, _) :: r => readArguments { g with spec := some b } r
    | _, r => readArguments { g with extras := g.extras ++ [a] } r

/-- The labels of the arguments that are missing. -/
def missingLabels (g : Given) : List String :=
  (if g.spec.isNone then ["spec"] else []) ++
    (if g.target.isNone then [Flag.target.label] else []) ++
    (if g.output.isNone then [Flag.output.label] else [])

/-- What the given arguments ask for. -/
def complete (g : Given) : Except UsageError Arguments :=
  match g.spec, g.target, g.output with
  | some spec, some target, some output =>
    if g.extras.isEmpty then
      .ok ⟨spec, target, output.map Path.ofText, g.packageName, g.prefixDepth, g.formatter,
        g.verbose, g.quiet⟩
    else .error (.unrecognized g.extras)
  | _, _, _ => .error (.missing (missingLabels g))

/-- What the arguments of the command ask for. -/
def Arguments.parse (args : List String) : Except Stop Arguments := do
  let kinds ← (argumentKinds args).mapError .usage
  let g ← readArguments Given.none kinds
  (complete g).mapError .usage

end RamlClient.Command
