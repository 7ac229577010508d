import RamlClient.Text.Blank
/-!
# Lines

A line ends at a line feed, a carriage return, both in this order, a vertical tab, a form feed, one
of the file, group and record separators, the next-line control, or the line and paragraph
separators.
-/

namespace RamlClient.Text

/-- Whether a character ends a line. -/
def isLineEnd (c : Char) : Bool :=
  CodeRanges.contains [(10, 13), (28, 30), (133, 133), (8232, 8233)] c

/-- The lines of a text, each with its line end. -/
def lines : List Char → List (List Char)
  | [] => []
  | c :: r =>
    if isLineEnd c && !(c == '\r' && r.head? == some '\n') then [c] :: lines r
    else match lines r with
      | [] => [[c]]
      | line :: rest => (c :: line) :: rest

/-- The text with a tab before every line that is not blank. -/
def indentLines (s : String) : String :=
  String.ofList ((lines s.toList).flatMap fun line =>
    if line.all isBlank then line else '\t' :: line)

/-- The text with a line feed in place of each carriage return and of each carriage return with its
line feed. -/
def unifyLineEnds : List Char → List Char
  | [] => []
  | '\r' :: '\n' :: r => '\n' :: unifyLineEnds r
  | '\r' :: r => '\n' :: unifyLineEnds r
  | c :: r => c :: unifyLineEnds r

end RamlClient.Text
