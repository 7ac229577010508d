import RamlClient.Text.Digit
import RamlClient.Text.Quoted
import RamlClient.Text.Segment
/-!
# Options of the command line

An option has a long name, and some also have a short one. Long names may be cut short as long as
only one option is meant. A value stands after an equals sign, after a short name, or as the next
argument.
-/

namespace RamlClient.Command

/-- The options of the command line. -/
inductive Flag where
  /-- Shows how the command is used. -/
  | help
  /-- The target. -/
  | target
  /-- The directory that is written to. -/
  | output
  /-- The name of the generated package. -/
  | packageName
  /-- The number of segments that are left out of names. -/
  | prefixDepth
  /-- The command that formats the generated files. -/
  | formatter
  /-- Shows more records. -/
  | verbose
  /-- Shows fewer records. -/
  | quiet
deriving DecidableEq, Repr

namespace Flag

/-- The names of an option. -/
def names : Flag → List String
  | help => ["-h", "--help"]
  | target => ["-t", "--target"]
  | output => ["-o", "--output"]
  | packageName => ["-p", "--package-name"]
  | prefixDepth => ["--prefix-depth"]
  | formatter => ["--formatter"]
  | verbose => ["-v", "--verbose"]
  | quiet => ["-q", "--quiet"]

/-- The names of an option as reports give them. -/
def label (f : Flag) : String := Text.join "/" f.names

/-- Whether an option has a value. -/
def hasValue : Flag → Bool
  | help => false
  | verbose => false
  | quiet => false
  | _ => true

/-- All options. -/
def all : List Flag :=
  [help, target, output, packageName, prefixDepth, formatter, verbose, quiet]

/-- The names of all options. -/
def table : List (String × Flag) := all.flatMap fun f => f.names.map fun n => (n, f)

/-- The option of a name. -/
def ofName? (name : String) : Option Flag := (table.find? (·.1 == name)).map (·.2)

end Flag

/-- What is wrong with the arguments of the command. -/
inductive UsageError where
  /-- A name that is cut short means more than one option. -/
  | ambiguous (argument : String) (candidates : List String)
  /-- An option has no value. -/
  | missingValue (flag : Flag)
  /-- A value is given to an option that has none. -/
  | ignoredValue (flag : Flag) (value : String)
  /-- Two options exclude each other. -/
  | conflict (flag other : Flag)
  /-- A text is no package name. -/
  | invalidPackageName (value : String)
  /-- A text is no number. -/
  | invalidDepth (value : String)
  /-- A number is negative. -/
  | negativeDepth
  /-- A command cannot be cut into words. -/
  | invalidFormatter (value : String)
  /-- A command has no words. -/
  | emptyFormatter
  /-- Arguments are missing. -/
  | missing (labels : List String)
  /-- Arguments have no meaning. -/
  | unrecognized (arguments : List String)
deriving DecidableEq, Repr

/-- A report about an option. -/
def aboutFlag (flag : Flag) (text : String) : String := "argument " ++ flag.label ++ ": " ++ text

/-- The report of what is wrong with the arguments. -/
def UsageError.message : UsageError → String
  | .ambiguous argument candidates =>
    "ambiguous option: " ++ argument ++ " could match " ++ Text.join ", " candidates
  | .missingValue flag => aboutFlag flag "expected one argument"
  | .ignoredValue flag value =>
    aboutFlag flag ("ignored explicit argument " ++ Text.quoted value)
  | .conflict flag other => aboutFlag flag ("not allowed with argument " ++ other.label)
  | .invalidPackageName value =>
    aboutFlag .packageName ("invalid package name: " ++ Text.quoted value)
  | .invalidDepth value =>
    aboutFlag .prefixDepth ("invalid _non_negative value: " ++ Text.quoted value)
  | .negativeDepth => aboutFlag .prefixDepth "must be zero or more"
  | .invalidFormatter value =>
    aboutFlag .formatter ("invalid _command value: " ++ Text.quoted value)
  | .emptyFormatter => aboutFlag .formatter "formatter command is empty"
  | .missing labels => "the following arguments are required: " ++ Text.join ", " labels
  | .unrecognized arguments => "unrecognized arguments: " ++ Text.join " " arguments

/-! ### Telling options from other arguments -/

/-- What an argument is. -/
inductive ArgumentKind where
  /-- No option. -/
  | plain
  /-- The mark after which no options follow. -/
  | mark
  /-- An option with a value in the same argument, if there is one. -/
  | option (flag : Flag) (isShort : Bool) (value : Option (List Char))
  /-- It looks like an option but is none. -/
  | unknownOption
deriving DecidableEq, Repr

/-- Whether a name has one hyphen only. -/
def isShortName (name : String) : Bool := !Text.startsWith name "--"

/-- Whether a text is a negative number: digits with an optional point, and digits after it. One
line end after it does not count. -/
def isNegativeNumber (cs : List Char) : Bool :=
  let cs := if cs.getLast? = some '\n' then cs.dropLast else cs
  match cs with
  | '-' :: r =>
    let isDecimal (c : Char) : Bool := (Text.decimalValue? c).isSome
    match Text.cutAtChar '.' r with
    | (whole, none) => !whole.isEmpty && whole.all isDecimal
    | (whole, some fraction) => whole.all isDecimal && !fraction.isEmpty && fraction.all isDecimal
  | _ => false

/-- The options that an argument can mean when it is no full name: a long name cut short, or a short
name with a value after it. -/
def readings (argument : String) : List (String × Flag × Option (List Char)) :=
  let cs := argument.toList
  if isShortName argument then
    Flag.table.filterMap fun (name, flag) =>
      if name.toList = cs.take 2 then some (name, flag, some (cs.drop 2)) else none
  else
    let (start, value) := Text.cutAtChar '=' cs
    Flag.table.filterMap fun (name, flag) =>
      if start.isPrefixOf name.toList then some (name, flag, value) else none

/-- What an argument is that starts with a hyphen and is no full name. -/
def kindOfReading (argument : String) : Except UsageError ArgumentKind :=
  match readings argument with
  | [(name, flag, value)] => .ok (.option flag (isShortName name) value)
  | [] =>
    let cs := argument.toList
    .ok (if isNegativeNumber cs || cs.contains ' ' then .plain else .unknownOption)
  | several => .error (.ambiguous argument (several.map (·.1)))

/-- What an argument is before the mark. -/
def argumentKind (argument : String) : Except UsageError ArgumentKind :=
  match argument.toList with
  | '-' :: '-' :: [] => .ok .mark
  | '-' :: [] => .ok .plain
  | '-' :: r =>
    match Flag.ofName? argument with
    | some flag => .ok (.option flag (isShortName argument) none)
    | none =>
      match Text.cutAtChar '=' ('-' :: r) with
      | (name, some value) =>
        let name := String.ofList name
        match Flag.ofName? name with
        | some flag => .ok (.option flag (isShortName name) (some value))
        | none => kindOfReading argument
      | (_, none) => kindOfReading argument
  | _ => .ok .plain

/-- What each argument is; after the mark none is an option. -/
def argumentKinds : List String → Except UsageError (List (String × ArgumentKind))
  | [] => .ok []
  | a :: r => do
    match ← argumentKind a with
    | .mark => pure ((a, .mark) :: r.map fun b => (b, .plain))
    | kind => pure ((a, kind) :: (← argumentKinds r))

end RamlClient.Command
