import RamlClient.Text.Segment
import RamlClient.Text.Uppercase
/-!
# Go identifiers

Names in a description are free texts. An identifier is made of the words of a name, which are its
runs of ASCII letters and digits, joined in camel case. Acronyms are written in capitals, and Go's
keywords are replaced.
-/

namespace RamlClient.Go

/-- Acronyms as they stand in camel case, with their usual form. They are put right in this
order. -/
def acronyms : List (String × String) :=
  [("Id", "ID"), ("Oauth", "OAuth"), ("Url", "URL"), ("Uri", "URI"), ("Http", "HTTP"),
   ("Api", "API"), ("Json", "JSON")]

/-- Go's keywords, with the identifiers that stand in for them. -/
def keywords : List (String × String) :=
  [("break", "brk"), ("case", "kase"), ("chan", "channel"), ("const", "constant"),
   ("continue", "cont"), ("default", "dflt"), ("defer", "deferred"), ("else", "otherwise"),
   ("fallthrough", "fallthru"), ("for", "forValue"), ("func", "fn"), ("go", "goValue"),
   ("goto", "gotoValue"), ("if", "ifValue"), ("import", "imp"), ("interface", "iface"),
   ("map", "mapping"), ("package", "pkg"), ("range", "rng"), ("return", "ret"),
   ("select", "sel"), ("struct", "strct"), ("switch", "swtch"), ("type", "kind"),
   ("var", "variable")]

/-- The text with its first character in upper case. -/
def upperFirst : List Char → List Char
  | [] => []
  | c :: r => Text.upperChars c ++ r

/-- Whether a word of a camel-case identifier ends before a text: no lower-case letter follows. -/
def endsWord : List Char → Bool
  | [] => true
  | c :: _ => !c.isLower

/-- The text with one acronym in its usual form, wherever it is a word of its own. -/
def fixAcronym (acronym : String × String) (cs : List Char) : List Char :=
  Text.replaceWhen acronym.1.toList acronym.2.toList endsWord cs

/-- The text with all acronyms in their usual form. -/
def fixAcronyms (cs : List Char) : List Char := acronyms.foldl (fun t a => fixAcronym a t) cs

/-- The words of a name. -/
def words (name : String) : List (List Char) :=
  (Text.splitWhere (fun c => !c.isAlphanum) name.toList).filter fun w => !w.isEmpty

/-- The words in camel case; the first one is capitalised if the identifier is exported. -/
def camelCase (exported : Bool) : List (List Char) → List Char
  | [] => []
  | w :: r => (if exported then upperFirst w else w) ++ r.flatMap upperFirst

/-- An identifier, or what stands in for it if it is a keyword. -/
def avoidKeyword (identifier : String) : String :=
  ((keywords.find? fun k => k.1 == identifier).map (·.2)).getD identifier

/-- The identifier for a name. -/
def identifier (name : String) (exported : Bool) : String :=
  avoidKeyword (String.ofList (fixAcronyms (camelCase exported (words name))))

/-- The exported identifier for a name. -/
def exportedName (name : String) : String := identifier name true

end RamlClient.Go
