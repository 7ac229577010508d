import RamlClient.Failure
import RamlClient.Text.ShellWord
/-!
# Settings of a run
-/

namespace RamlClient.Client

/-- The settings of a run. -/
structure Profile where
  /-- The name of the generated package. -/
  packageName : String
  /-- How many segments of a path are left out of the names of operations, unless it is blank. -/
  prefixDepth : Option Int
  /-- The words of the command that formats the generated files. -/
  formatter : List String
deriving DecidableEq, Repr

namespace Profile

/-- The settings that hold unless others are given. -/
def default : Profile := ⟨"client", some 0, ["gofmt", "-w"]⟩

/-- The settings for some options. An empty text counts as not given. -/
def ofOptions (packageName : Option String) (prefixDepth : Option Int)
    (formatter : Option String) : Except Defect Profile := do
  let command ← match formatter.filter (· ≠ "") with
    | none => pure default.formatter
    | some s => (Text.shellWords s).mapError fun _ => Defect.malformedCommand
  pure {
    packageName := (packageName.filter (· ≠ "")).getD default.packageName
    prefixDepth := prefixDepth <|> default.prefixDepth
    formatter := command }

end Profile

end RamlClient.Client
