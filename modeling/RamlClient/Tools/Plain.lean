import RamlClient.Tools.Condition
import RamlClient.Tools.Options
import RamlClient.Tools.Printing
/-!
# Plain tools

Tools that succeed or fail, print their arguments, and test conditions.
-/

namespace RamlClient.Tools

open Text (ByteText)
open Shell
open Shell.Running

/-- Succeeds. -/
def succeed : Tool := fun _ _ _ => pure 0

/-- Fails. -/
def failAlways : Tool := fun _ _ _ => pure 1

/-- Prints its arguments. -/
def echo : Tool := fun _ _ args => do
  print (echoText .program args)
  pure 0

/-- Prints its arguments as a format says. -/
def printf : Tool := fun _ name args => do
  match (if args.head? = some "--" then args.tail else args) with
  | [] => do
    printError (name ++ ": missing operand\n" ++ tryHelp name)
    pure 1
  | format :: rest => do
    let printed := printFormat .program format rest
    printed.reports.reverse.forM (report name)
    print (String.ofList printed.text.reverse)
    pure printed.status

/-- Tests whether a condition holds. -/
def test (closed : Bool) : Tool := fun _ name args => do
  let closing : List ByteText := if closed then ["]"] else []
  if closed && args.getLast? != some "]" then
    report name ("missing " ++ inCurlyQuotes "]")
    pure 2
  else
    let words := if closed then args.dropLast else args
    match Condition.programHolds (← files) closing words with
    | .ok b => pure (if b then 0 else 1)
    | .error text => do
      report name text
      pure 2

end RamlClient.Tools
