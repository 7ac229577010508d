import RamlClient.Text.Quoted
/-!
# Words of a command line

A command line is cut into words at white space. Single quotes keep everything up to the next one,
double quotes keep everything but the backslash before a double quote or a backslash, and a
backslash outside quotes keeps the next character.
-/

namespace RamlClient.Text

/-- Why a command line cannot be cut into words. -/
inductive ShellWordError where
  /-- A quote has no partner. -/
  | unclosedQuote
  /-- The text ends with a backslash that keeps nothing. -/
  | danglingEscape
deriving DecidableEq, Repr

/-- Where the reader of words stands. -/
inductive ShellWordState where
  /-- Outside quotes. -/
  | plain
  /-- Inside quotes of the given kind. -/
  | inside (quote : Char)
  /-- After a backslash, inside the given quotes if there are any. -/
  | escape (quote : Option Char)
deriving DecidableEq, Repr

/-- Whether a character separates the words of a command line. -/
def isShellBlank (c : Char) : Bool := c == ' ' || c == '\t' || c == '\r' || c == '\n'

/-- Whether a character opens a quotation. -/
def isQuote (c : Char) : Bool := c == singleQuote || c == doubleQuote

/-- Adds the characters to the word being read, which starts here if there is none. -/
def extendWord (word : Option (List Char)) (cs : List Char) : Option (List Char) :=
  some (word.getD [] ++ cs)

/-- Reads words; `word` is the word being read, if one has started. -/
def shellWordsFrom : ShellWordState → Option (List Char) → List Char →
    Except ShellWordError (List String)
  | .plain, word, [] => .ok ((word.map String.ofList).toList)
  | .inside _, _, [] => .error .unclosedQuote
  | .escape _, _, [] => .error .danglingEscape
  | .plain, word, c :: r =>
    if isShellBlank c then do
      let rest ← shellWordsFrom .plain none r
      pure ((word.map String.ofList).toList ++ rest)
    else if c = '\\' then shellWordsFrom (.escape none) (extendWord word []) r
    else if isQuote c then shellWordsFrom (.inside c) (extendWord word []) r
    else shellWordsFrom .plain (extendWord word [c]) r
  | .inside quote, word, c :: r =>
    if c = quote then shellWordsFrom .plain word r
    else if c = '\\' && quote == doubleQuote then shellWordsFrom (.escape (some quote)) word r
    else shellWordsFrom (.inside quote) (extendWord word [c]) r
  | .escape none, word, c :: r => shellWordsFrom .plain (extendWord word [c]) r
  | .escape (some quote), word, c :: r =>
    let kept := if c = '\\' || c = quote then [c] else ['\\', c]
    shellWordsFrom (.inside quote) (extendWord word kept) r

/-- The words of a command line. -/
def shellWords (s : String) : Except ShellWordError (List String) :=
  shellWordsFrom .plain none s.toList

end RamlClient.Text
