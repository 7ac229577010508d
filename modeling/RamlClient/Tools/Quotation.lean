import RamlClient.Text.ByteText
/-!
# Names in reports of tools

Tools quote the names in their reports: between curly quotes, or so that a shell reads the name.
-/

namespace RamlClient.Tools

open Text (ByteText)

/-- The left and the right curly quote. -/
def curlyQuotes : ByteText × ByteText := (Text.bytesOf "\u2018", Text.bytesOf "\u2019")

/-- The letters after a backslash for characters that cannot be seen. -/
def escapeLetters : List (Char × Char) :=
  [('\n', 'n'), ('\t', 't'), ('\r', 'r'), ('\x07', 'a'), ('\x08', 'b'), ('\x0c', 'f'),
   ('\x0b', 'v')]

/-- A character that cannot be seen, after a backslash. -/
def escapeOf (c : Char) : List Char :=
  match escapeLetters.find? (·.1 == c) with
  | some e => ['\\', e.2]
  | none =>
    let ds := Nat.toDigits 8 c.toNat
    '\\' :: (List.replicate (3 - ds.length) '0' ++ ds)

/-- Whether a byte cannot be seen. -/
def isHidden (c : Char) : Bool := c.toNat < 32 || c.toNat = 127

/-- A name between curly quotes. -/
def inCurlyQuotes (s : ByteText) : ByteText :=
  let inner := s.toList.flatMap fun c =>
    if c = '\\' then ['\\', '\\'] else if isHidden c then escapeOf c else [c]
  curlyQuotes.1 ++ String.ofList inner ++ curlyQuotes.2

/-- The characters that have a meaning for a shell. -/
def hasMeaning (c : Char) : Bool :=
  [' ', '!', '\x22', '$', '&', '\x27', '(', ')', '*', ';', '<', '=', '>', '?', '[', '\\', ']', '^',
   '\x60', '|', ':'].contains c || isHidden c

/-- The characters that have a meaning for a shell only at the start of a name. -/
def hasMeaningAtStart (c : Char) : Bool := c == '#' || c == '~'

/-- The pieces of a name that can be seen and those that cannot. -/
def visiblePieces : List Char → List (Bool × List Char)
  | [] => []
  | c :: r =>
    match visiblePieces r with
    | (hidden, cs) :: rest =>
      if hidden == isHidden c then (hidden, c :: cs) :: rest
      else (isHidden c, [c]) :: (hidden, cs) :: rest
    | [] => [(isHidden c, [c])]

/-- A name in quotes, as a shell reads it. -/
def inQuotes (s : ByteText) : ByteText :=
  let cs := s.toList
  if cs.contains '\x27' && cs.all fun c =>
      !isHidden c && !(['\x22', '$', '\x60', '\\', '!'].contains c) then
    "\x22" ++ s ++ "\x22"
  else
    let piece (p : Bool × List Char) : List Char :=
      if p.1 then ['\x27', '$', '\x27'] ++ p.2.flatMap escapeOf ++ ['\x27', '\x27']
      else p.2.flatMap fun c => if c = '\x27' then ['\x27', '\\', '\x27', '\x27'] else [c]
    let inner := (visiblePieces cs).flatMap piece
    let text := '\x27' :: (inner ++ ['\x27'])
    let text := if text.take 4 = ['\x27', '\x27', '$', '\x27'] then text.drop 2 else text
    let n := text.length
    let text := if 4 < n && text.drop (n - 3) = ['\x27', '\x27', '\x27'] then text.take (n - 2)
      else text
    String.ofList text

/-- A name as a shell reads it, in quotes only if it needs them. -/
def asNeeded (s : ByteText) : ByteText :=
  if s = "" || s.toList.any hasMeaning || (s.toList.head?).any hasMeaningAtStart then inQuotes s
  else s

end RamlClient.Tools
