import RamlClient.Text.Quoted
/-!
# Go string literals

A text is written between double quotes. The quote, the backslash and the control characters below
the space are escaped, and all other characters stand for themselves.
-/

namespace RamlClient.Go

/-- The written form of a character in a string literal. -/
def literalChar (c : Char) : List Char :=
  if c = Text.doubleQuote then ['\\', Text.doubleQuote]
  else if c = '\\' then ['\\', '\\']
  else if c = '\n' then ['\\', 'n']
  else if c = '\r' then ['\\', 'r']
  else if c = '\t' then ['\\', 't']
  else if c = '\x0c' then ['\\', 'f']
  else if c = '\x08' then ['\\', 'b']
  else if c.toNat < 32 then '\\' :: 'u' :: Text.hexPadded 4 c.toNat
  else [c]

/-- The characters of a string literal. -/
def literalChars (cs : List Char) : List Char :=
  Text.doubleQuote :: (cs.flatMap literalChar ++ [Text.doubleQuote])

/-- The string literal of a text. -/
def literal (s : String) : String := String.ofList (literalChars s.toList)

/-- A call of a function. -/
def call (function : String) (args : List String) : String :=
  function ++ "(" ++ Text.join ", " args ++ ")"

end RamlClient.Go
