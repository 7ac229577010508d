/-!
# Defects

A defect is an input that no report is provided for; it ends a run as it is.
-/

namespace RamlClient

/-- Inputs that no report is provided for. -/
inductive Defect where
  /-- A numeral cannot be read. -/
  | malformedNumeral
  /-- A web address names no host. -/
  | malformedUrl
  /-- The calendar does not have a date or a time. -/
  | impossibleDate
  /-- A command line cannot be cut into words. -/
  | malformedCommand
  /-- A text is not UTF-8. -/
  | notUtf8
  /-- A replacement template cannot be read. -/
  | malformedTemplate
  /-- A replacement template refers to a named group. -/
  | unknownGroup
  /-- A numeral has no digits. -/
  | emptyNumeral
  /-- A command has no words. -/
  | emptyCommand
  /-- A word is no truth value. -/
  | unknownTruthValue
  /-- An escape gives a code that no character has. -/
  | noSuchCharacter
  /-- A text is no date. -/
  | malformedDate
  /-- A date is no text. -/
  | dateNotText
  /-- A value contains itself. -/
  | endlessValue
  /-- A number has more digits than can be written. -/
  | overlongNumber
  /-- A number is too large for its use. -/
  | numberTooLarge
  /-- An option is given without the value that is needed. -/
  | missingOptionValue
  /-- A path has the character with code 0 in it. -/
  | malformedPath
  /-- A text that has to be encoded holds half of a character. -/
  | halfCharacter
  /-- The links on a path lead to links without an end. -/
  | linkLoop
deriving DecidableEq, Repr

end RamlClient
