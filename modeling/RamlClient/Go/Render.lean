import RamlClient.Go.Package
import RamlClient.Text.Template
import RamlClient.Text.Word
/-!
# Go source texts

A file is written as its imports, type definitions, structs and functions, in this order, under a
header and a package clause.
-/

namespace RamlClient.Go

/-- The first line of every generated file. -/
def generatedHeader : String := "// Code generated by ramlify. DO NOT EDIT."

/-- The tag of a field between backquotes; an empty tag is left out. -/
def tagText : Option String → String
  | none => ""
  | some tag => if tag = "" then "" else " \x60" ++ tag ++ "\x60"

/-- The line of a field. -/
def Field.text (f : Field) : String := "\t" ++ f.name ++ " " ++ f.type ++ tagText f.tag

/-- The text of a struct. -/
def Struct.text (s : Struct) : String :=
  Text.join "\n" (["type " ++ s.name ++ " struct \x7b"] ++ s.fields.map Field.text ++ ["\x7d"])

/-- The text of a type definition. -/
def TypeDef.text (d : TypeDef) : String := "type " ++ d.name ++ " " ++ d.type

/-- The receiver before the name of a method. -/
def receiverText : Option String → String
  | none => ""
  | some receiver => if receiver = "" then "" else "(" ++ receiver ++ ") "

/-- The results after the arguments of a function. -/
def resultsText : List String → String
  | [] => ""
  | [type] => " " ++ type
  | types => " (" ++ Text.join ", " types ++ ")"

/-- The body of a function, which ends with a line feed unless it is empty. -/
def bodyText (pieces : List String) : String :=
  let body := Text.concat pieces
  if body ≠ "" && !Text.endsWith body "\n" then body ++ "\n" else body

/-- The text of a function. -/
def Func.text (f : Func) : String :=
  "func " ++ receiverText f.receiver ++ f.name ++ "(" ++
    Text.join ", " (f.args.map fun a => a.name ++ " " ++ a.type) ++ ")" ++ resultsText f.results ++
    " \x7b\n" ++ bodyText f.body ++ "\x7d"

/-- The lines of the imports. -/
def importLines (imports : List String) : List String :=
  if imports.isEmpty then []
  else ["import ("] ++ imports.map (fun path => "\t\x22" ++ path ++ "\x22") ++ [")", ""]

/-- The text of a file in a package. -/
def File.text (f : File) (package : String) : String :=
  let parts := [generatedHeader, "", "package " ++ package, ""] ++ importLines f.imports ++
    f.typeDefs.flatMap (fun d => [d.text, ""]) ++ f.structs.flatMap (fun s => [s.text, ""]) ++
    f.funcs.flatMap (fun g => [g.text, ""])
  Text.trimRight (Text.join "\n" parts) ++ "\n"

/-- The word that starts a package clause. -/
def packageWord : List Char := "package".toList

/-- The length of the package clause at the start of a line, up to the end of the name. -/
def clauseLength? (cs : List Char) : Option Nat :=
  if packageWord.isPrefixOf cs then
    let afterWord := cs.drop packageWord.length
    let blanks := afterWord.takeWhile Text.isBlank
    let name := (afterWord.dropWhile Text.isBlank).takeWhile Text.isWord
    if blanks.isEmpty || name.isEmpty then none
    else some (packageWord.length + blanks.length + name.length)
  else none

/-- A text cut at its first package clause: what stands before, the clause, and what follows.
`lineStart` tells whether a line starts here. -/
def splitClause? (lineStart : Bool) : List Char → Option (List Char × List Char × List Char)
  | [] => none
  | c :: r =>
    match if lineStart then clauseLength? (c :: r) else none with
    | some n => some ([], (c :: r).take n, (c :: r).drop n)
    | none => (splitClause? (c == '\n') r).map fun (before, clause, after) =>
      (c :: before, clause, after)

/-- The defect that a malformed template is. -/
def templateDefect : Text.TemplateError → Defect
  | .malformed => .malformedTemplate
  | .unknownGroup => .unknownGroup

/-- A text with its first package clause changed to name the package. The name is read as a template
in which the clause is the matched text. -/
def renderInclude (text package : String) : Except Defect String :=
  let expand (clause : List Char) : Except Defect (List Char) :=
    (Text.expandTemplate ("package " ++ package).toList clause).mapError templateDefect
  match splitClause? true text.toList with
  | none => (expand []).map fun _ => text
  | some (before, clause, after) => do
    let clause' ← expand clause
    pure (String.ofList (before ++ clause' ++ after))

end RamlClient.Go
