import RamlClient.Text.Half
import RamlClient.Text.Printable
import RamlClient.Text.Segment
/-!
# Quoted texts

A text is quoted between single quotes, or between double quotes when it holds a single quote and
no double quote. Inside, the quote and the backslash are escaped, as are all characters that do not
print and all halves of characters.
-/

namespace RamlClient.Text

/-- The single quote. -/
def singleQuote : Char := '\x27'

/-- The double quote. -/
def doubleQuote : Char := '\x22'

/-- A number in hexadecimal, padded with zeros on the left. -/
def hexPadded (width n : Nat) : List Char :=
  let digits := Nat.toDigits 16 n
  List.replicate (width - digits.length) '0' ++ digits

/-- The written form of a character inside a quoted text. -/
def quotedChar (quote c : Char) : List Char :=
  if c == quote || c == '\\' then ['\\', c]
  else if c == '\t' then ['\\', 't']
  else if c == '\n' then ['\\', 'n']
  else if c == '\r' then ['\\', 'r']
  else if isPrintable c then [c]
  else
    let code := (halfCode? c).getD c.toNat
    if code < 0x100 then '\\' :: 'x' :: hexPadded 2 code
    else if code < 0x10000 then '\\' :: 'u' :: hexPadded 4 code
    else '\\' :: 'U' :: hexPadded 8 code

/-- The text with its halves of characters escaped. -/
def escapeHalves (s : String) : String :=
  String.ofList (s.toList.flatMap fun c =>
    match halfCode? c with
    | some code => '\\' :: 'u' :: hexPadded 4 code
    | none => [c])

/-- The quote that surrounds a text. -/
def quoteFor (cs : List Char) : Char :=
  if cs.contains singleQuote && !cs.contains doubleQuote then doubleQuote else singleQuote

/-- The text in quotes. -/
def quoted (s : String) : String :=
  let quote := quoteFor s.toList
  String.ofList (quote :: (s.toList.flatMap (quotedChar quote) ++ [quote]))

end RamlClient.Text
