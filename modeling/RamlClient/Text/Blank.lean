import RamlClient.Text.CodeRange
/-!
# Blank characters and trimming

White space is the Unicode class of that name together with the four information separators.
-/

namespace RamlClient.Text

/-- The ranges of the blank characters. -/
def blankRanges : CodeRanges :=
  [(9, 13), (28, 32), (133, 133), (160, 160), (5760, 5760), (8192, 8202), (8232, 8233),
   (8239, 8239), (8287, 8287), (12288, 12288)]

/-- Whether a character is white space. -/
def isBlank (c : Char) : Bool := blankRanges.contains c

/-- The text without the characters of a class at its end. -/
def dropRightWhile (p : Char → Bool) (cs : List Char) : List Char :=
  (cs.reverse.dropWhile p).reverse

/-- The characters without the white space around them. -/
def trimChars (cs : List Char) : List Char := dropRightWhile isBlank (cs.dropWhile isBlank)

/-- The text without the white space before it. -/
def trimLeft (s : String) : String := String.ofList (s.toList.dropWhile isBlank)

/-- The text without the white space after it. -/
def trimRight (s : String) : String := String.ofList (dropRightWhile isBlank s.toList)

/-- The text without the white space around it. -/
def trim (s : String) : String := String.ofList (trimChars s.toList)

end RamlClient.Text
