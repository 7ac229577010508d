import RamlClient.Decimal.Notation
import RamlClient.Decimal.Rounded
import RamlClient.Shell.Arithmetic
import RamlClient.Tools.Quotation
/-!
# Printing

Two tools print their arguments: one as they are, and one as a format says. A backslash and what
follows it can stand for another character.
-/

namespace RamlClient.Tools

open Text (ByteText)
open Shell (Dialect)

/-- Who prints: a program of its own, or a shell. -/
inductive Printer where
  /-- A program. -/
  | program
  /-- A shell. -/
  | shell (dialect : Dialect)
deriving DecidableEq, Repr

/-! ### Escapes -/

/-- The characters that letters after a backslash stand for. -/
def printedEscapes : List (Char × Char) :=
  [('n', '\n'), ('t', '\t'), ('r', '\r'), ('\\', '\\'), ('a', '\x07'), ('b', '\x08'), ('f', '\x0c'),
   ('v', '\x0b')]

/-- The number that up to some digits of a base write, and what follows them. -/
def takeCode (base count : Nat) (cs : List Char) : Option (Nat × List Char) :=
  let p (c : Char) : Bool :=
    Shell.Reading.isHexDigit c && Shell.Reading.digitValue c < base
  let digits := (cs.take count).takeWhile p
  if digits.isEmpty then none
  else some (Shell.Reading.numberOf base digits, cs.drop digits.length)

/-- The bytes of the character of a code. -/
def bytesOfCode (code : Nat) : List Char :=
  (Text.bytesOf (String.ofList [Char.ofNat code])).toList

/-- What stands for the characters after a backslash, and what follows them. `rich` says whether
more letters have a meaning than those that always do. -/
def readEscape (rich : Bool) : List Char → List Char × List Char
  | [] => (['\\'], [])
  | c :: r =>
    match printedEscapes.find? (·.1 == c) with
    | some e => ([e.2], r)
    | none =>
      match takeCode 8 3 (c :: r) with
      | some (n, rest) => ([Char.ofNat (n % 256)], rest)
      | none =>
        if rich && (c = 'e' || c = 'E') then (['\x1b'], r)
        else if rich && c = '\x22' then (['\x22'], r)
        else if rich && c = 'x' then
          match takeCode 16 2 r with
          | some (n, rest) => ([Char.ofNat n], rest)
          | none => (['\\', c], r)
        else if rich && (c = 'u' || c = 'U') then
          match takeCode 16 (if c = 'u' then 4 else 8) r with
          | some (n, rest) => (bytesOfCode n, rest)
          | none => (['\\', c], r)
        else (['\\', c], r)

/-- A text with its escapes replaced, and whether it says that nothing else is printed. `fuel` is
more than its length. -/
def printEscapes (rich octal : Bool) : Nat → List Char → List Char × Bool
  | 0, cs => (cs, false)
  | _, [] => ([], false)
  | fuel + 1, '\\' :: r =>
    match r with
    | 'c' :: _ => ([], true)
    | '0' :: digits =>
      let (c, rest) := match takeCode 8 3 digits with
        | some (n, rest) => (Char.ofNat (n % 256), rest)
        | none => ('\x00', digits)
      let (text, stops) := printEscapes rich octal fuel rest
      (c :: text, stops)
    | r =>
      let (cs, rest) :=
        if !octal && (r.head?).any Shell.Reading.isOctalDigit then (['\\'], r)
        else readEscape rich r
      let (text, stops) := printEscapes rich octal fuel rest
      (cs ++ text, stops)
  | fuel + 1, c :: r =>
    let (text, stops) := printEscapes rich octal fuel r
    (c :: text, stops)

/-- What is printed of arguments, with or without escapes, and with or without a line end. -/
def joinedText (escapes : Option Bool) (octal line : Bool) (args : List ByteText) : ByteText :=
  let cs := (Text.join " " args).toList
  match escapes with
  | none => String.ofList cs ++ if line then "\n" else ""
  | some rich =>
    let (text, stops) := printEscapes rich octal (cs.length + 1) cs
    String.ofList text ++ if line && !stops then "\n" else ""

/-- The options at the start of the arguments, and the other arguments. -/
def printOptions : Bool → Bool → List ByteText → Bool × Bool × List ByteText
  | line, escapes, a :: r =>
    match a.toList with
    | '-' :: c :: cs =>
      if (c :: cs).all fun d => d = 'n' || d = 'e' || d = 'E' then
        let line := line && !(c :: cs).contains 'n'
        let escapes := (c :: cs).foldl (fun on d =>
          if d = 'e' then true else if d = 'E' then false else on) escapes
        printOptions line escapes r
      else (line, escapes, a :: r)
    | _ => (line, escapes, a :: r)
  | line, escapes, [] => (line, escapes, [])

/-- What is printed of arguments. -/
def echoText (printer : Printer) (args : List ByteText) : ByteText :=
  match printer, args with
  | .shell .plain, "-n" :: r => joinedText (some false) true false r
  | .shell .plain, args => joinedText (some false) true true args
  | _, args =>
    let (line, escapes, rest) := printOptions true false args
    joinedText (if escapes then some true else none) false line rest

/-! ### Formats -/

/-- How an argument is printed. -/
structure Directive where
  /-- The signs that change it. -/
  flags : List Char
  /-- The width; nothing if it is not given. -/
  width : Option Int
  /-- The precision; nothing if it is not given. -/
  precision : Option Int
  /-- The letter for the kind. -/
  letter : Char

/-- A text in a field of the width of a directive. -/
def Directive.fill (d : Directive) (cs : List Char) : List Char :=
  let width := (d.width.getD 0).natAbs
  let left := d.flags.contains '-' || (d.width.getD 0) < 0
  let space := List.replicate (width - cs.length) ' '
  if left then cs ++ space else space ++ cs

/-- A number with its sign or mark in a field of the width of a directive; zeros may fill it. -/
def Directive.fillNumber (d : Directive) (mark digits : List Char) (zeros : Bool) : List Char :=
  let width := (d.width.getD 0).natAbs
  let left := d.flags.contains '-' || (d.width.getD 0) < 0
  if zeros && !left then
    mark ++ List.replicate (width - (mark.length + digits.length)) '0' ++ digits
  else d.fill (mark ++ digits)

/-- The precision, unless it is not given or negative. -/
def Directive.places? (d : Directive) : Option Nat :=
  d.precision.bind fun p => if p < 0 then none else some p.toNat

/-- Digits with as many zeros before them as a directive asks for; no digits stand for zero if none
are asked for. -/
def Directive.digits (d : Directive) (n : Nat) (ds : List Char) : List Char :=
  match d.places? with
  | none => ds
  | some p => if n = 0 && p = 0 then [] else List.replicate (p - ds.length) '0' ++ ds

/-- The sign of a number. -/
def Directive.sign (d : Directive) (negative : Bool) : List Char :=
  if negative then ['-']
  else if d.flags.contains '+' then ['+']
  else if d.flags.contains ' ' then [' ']
  else []

/-- A whole number as a directive says. -/
def Directive.whole (d : Directive) (n : Int) : List Char :=
  let zeros := d.flags.contains '0' && d.places?.isNone
  if d.letter = 'd' || d.letter = 'i' then
    d.fillNumber (d.sign (n < 0)) (d.digits n.natAbs (Nat.toDigits 10 n.natAbs)) zeros
  else
    let n := (n % (Shell.Arithmetic.wordSize : Int)).toNat
    let base := if d.letter = 'o' then 8 else if d.letter = 'u' then 10 else 16
    let ds := d.digits n (Nat.toDigits base n)
    let alternative := d.flags.contains '#'
    let ds := if alternative && d.letter = 'o' && ds.head? != some '0' then '0' :: ds else ds
    let mark := if alternative && base = 16 && n ≠ 0 then ['0', 'x'] else []
    let cs := d.fillNumber mark ds zeros
    if d.letter = 'X' then cs.map Char.toUpper else cs

/-- A number that may have a fraction. -/
inductive Real where
  /-- A fraction, negated if `negative`. -/
  | finite (negative : Bool) (x : Decimal.Fraction)
  /-- A word that stands for a number that is none. -/
  | special (negative : Bool) (word : String)

/-- A number as a directive says. -/
def Directive.real (d : Directive) : Real → List Char
  | .special negative word =>
    let cs := d.fillNumber (d.sign negative) word.toList false
    if d.letter.isUpper then cs.map Char.toUpper else cs
  | .finite negative x =>
    let places := d.places?.getD 6
    let point := d.flags.contains '#'
    let kind := d.letter.toLower
    let ds :=
      if kind = 'f' then x.fixed places point
      else if kind = 'e' then x.withExponent places point
      else x.general places point
    let cs := d.fillNumber (d.sign negative) ds (d.flags.contains '0')
    if d.letter.isUpper then cs.map Char.toUpper else cs

/-! ### Numbers of arguments -/

/-- What is wrong with the number of an argument. -/
inductive NumberFault where
  /-- It does not start with a number. -/
  | noNumber
  /-- Something follows the number. -/
  | moreText
  /-- The number is too large. -/
  | outOfRange
deriving DecidableEq, Repr

/-- The report about the number of an argument. -/
def NumberFault.report (printer : Printer) (arg : ByteText) : NumberFault → ByteText
  | .noNumber =>
    match printer with
    | .program => inCurlyQuotes arg ++ ": expected a numeric value"
    | .shell .plain => arg ++ ": expected numeric value"
    | .shell .extended => arg ++ ": invalid number"
  | .moreText =>
    match printer with
    | .program => inCurlyQuotes arg ++ ": value not completely converted"
    | .shell .plain => arg ++ ": not completely converted"
    | .shell .extended => arg ++ ": invalid number"
  | .outOfRange =>
    match printer with
    | .program => inCurlyQuotes arg ++ ": Numerical result out of range"
    | .shell .plain => arg ++ ": Numerical result out of range"
    | .shell .extended => "warning: " ++ arg ++ ": Numerical result out of range"

/-- The first character of a text, as far as a printer knows characters. -/
def firstCode (printer : Printer) (cs : List Char) : Nat :=
  match printer with
  | .shell .plain => (cs.head?.getD '\x00').toNat
  | _ => ((Text.textOfBytes (String.ofList cs)).toList.head?.getD '\x00').toNat

/-- The whole number of an argument. -/
def wholeOf (printer : Printer) (unsigned : Bool) (arg : ByteText) : Int × Option NumberFault :=
  match arg.toList with
  | [] => (0, none)
  | c :: r =>
    if c = '\x27' || c = '\x22' then ((firstCode printer r : Int), none)
    else
      let cs := (c :: r).dropWhile Shell.Arithmetic.isSpace
      let (negative, digits) := match cs with
        | '-' :: r => (true, r)
        | '+' :: r => (false, r)
        | cs => (false, cs)
      if (digits.head?).any Char.isDigit then
        let (n, rest) := Shell.Arithmetic.takeNumber digits
        let n : Int := if negative then -n else n
        let size : Int := Shell.Arithmetic.wordSize
        let kept :=
          if unsigned then (if n.natAbs < Shell.Arithmetic.wordSize then n else size - 1)
          else Shell.Arithmetic.clamp n
        let fault := if !rest.isEmpty then some NumberFault.moreText
          else if kept != n then some .outOfRange else none
        (kept, fault)
      else (0, some .noNumber)

/-- The digits of a number with a point, its exponent, and what follows it, unless there are
none. -/
def takeDecimal (cs : List Char) : Option (Nat × Int × List Char) :=
  let (whole, n, rest) := Decimal.readDigits cs
  let (digits, m, exponent, rest) := match rest with
    | '.' :: r =>
      let (fraction, m, rest) := Decimal.readDigits r
      (whole * Decimal.tenTo m + fraction, m, -(m : Int), rest)
    | rest => (whole, 0, 0, rest)
  if n + m = 0 then none
  else
    let power := match rest with
      | e :: r =>
        if e = 'e' || e = 'E' then
          let (negative, ds) := match r with
            | '-' :: ds => (true, ds)
            | '+' :: ds => (false, ds)
            | ds => (false, ds)
          let (p, k, after) := Decimal.readDigits ds
          if k = 0 then none else some ((if negative then -(p : Int) else p), after)
        else none
      | [] => none
    match power with
    | some (p, after) => some (digits, exponent + p, after)
    | none => some (digits, exponent, rest)

/-- The number of an argument. -/
def realOf (printer : Printer) (arg : ByteText) : Real × Option NumberFault :=
  match arg.toList with
  | [] => (.finite false ⟨0, 1⟩, none)
  | c :: r =>
    if c = '\x27' || c = '\x22' then (.finite false ⟨firstCode printer r, 1⟩, none)
    else
      let cs := (c :: r).dropWhile Shell.Arithmetic.isSpace
      let (negative, cs) := match cs with
        | '-' :: r => (true, r)
        | '+' :: r => (false, r)
        | cs => (false, cs)
      let word := Text.lower (String.ofList cs)
      let bits := if printer = .program then 64 else 53
      if word = "inf" || word = "infinity" then (.special negative "inf", none)
      else if word = "nan" then (.special negative "nan", none)
      else match takeDecimal cs with
        | some (digits, exponent, rest) =>
          let exponent := max (-5000) (min 5000 exponent)
          (.finite negative ((Decimal.Fraction.ofScaled digits exponent).toBits bits),
            if rest.isEmpty then none else some .moreText)
        | none => (.finite false ⟨0, 1⟩, some .noNumber)

/-! ### Printing with a format -/

/-- What a format leaves. -/
structure Printed where
  /-- The text, the last character first. -/
  text : List Char
  /-- The reports, the last one first. -/
  reports : List ByteText
  /-- The exit code. -/
  status : Nat
  /-- The arguments that are left. -/
  args : List ByteText
  /-- Whether an argument has been used. -/
  used : Bool
  /-- Whether nothing else is printed. -/
  stops : Bool

namespace Printed

/-- More text. -/
def add (p : Printed) (cs : List Char) : Printed := { p with text := cs.reverse ++ p.text }

/-- One more report. -/
def report (p : Printed) (text : ByteText) : Printed :=
  { p with reports := text :: p.reports, status := max 1 p.status }

/-- The next argument, if there is one. -/
def next (p : Printed) : Option ByteText × Printed :=
  match p.args with
  | [] => (none, { p with used := true })
  | a :: r => (some a, { p with args := r, used := true })

/-- One more report if there is something wrong with the number of an argument. -/
def check (p : Printed) (printer : Printer) (arg : ByteText) : Option NumberFault → Printed
  | none => p
  | some fault => p.report (fault.report printer arg)

end Printed

/-- The letters of directives. -/
def directiveLetters (printer : Printer) : List Char :=
  ['d', 'i', 'o', 'u', 'x', 'X', 'e', 'E', 'f', 'F', 'g', 'G', 'c', 's', 'b'] ++
    if printer = .shell .plain then [] else ['q']

/-- Prints an argument as a directive says. -/
def printArgument (printer : Printer) (d : Directive) (p : Printed) : Printed :=
  let (arg, p) := p.next
  let given := arg.getD ""
  let limited (cs : List Char) : List Char :=
    match d.places? with
    | some n => cs.take n
    | none => cs
  if d.letter = 's' then p.add (d.fill (limited given.toList))
  else if d.letter = 'c' then p.add (d.fill [given.toList.head?.getD '\x00'])
  else if d.letter = 'q' then p.add (d.fill (asNeeded given).toList)
  else if d.letter = 'b' then
    let cs := given.toList
    let rich := printer != .shell .plain
    let (text, stops) := printEscapes rich true (cs.length + 1) cs
    { p.add (d.fill (limited text)) with stops }
  else if ['e', 'E', 'f', 'F', 'g', 'G'].contains d.letter then
    let (x, fault) := realOf printer given
    (p.check printer given fault).add (d.real x)
  else
    let unsigned := !(d.letter = 'd' || d.letter = 'i')
    let (n, fault) := wholeOf printer unsigned given
    (p.check printer given fault).add (d.whole n)

/-- A width or a precision: digits, or an argument. -/
def takeWidth (printer : Printer) (cs : List Char) (p : Printed) :
    Option Int × List Char × Printed :=
  match cs with
  | '*' :: r =>
    let (arg, p) := p.next
    let (n, fault) := wholeOf printer false (arg.getD "")
    (some n, r, p.check printer (arg.getD "") fault)
  | cs =>
    let ds := cs.takeWhile Char.isDigit
    (if ds.isEmpty then none else some (Shell.Reading.numberOf 10 ds : Int),
      cs.drop ds.length, p)

/-- The report about a directive that makes no sense. -/
def directiveReport (printer : Printer) (text : List Char) : ByteText :=
  match printer with
  | .program => String.ofList text ++ ": invalid conversion specification"
  | .shell .plain => String.ofList text ++ ": invalid directive"
  | .shell .extended =>
    "\x60" ++ String.ofList (text.drop (text.length - 1)) ++ "\x27: invalid format character"

/-- Prints a format once. `fuel` is more than its length. -/
def printOnce (printer : Printer) : Nat → List Char → Printed → Printed
  | 0, _, p => p
  | _, [], p => p
  | fuel + 1, '%' :: '%' :: r, p => printOnce printer fuel r (p.add ['%'])
  | fuel + 1, '%' :: r, p =>
    let flags := r.takeWhile fun c => ['#', '-', '+', ' ', '0', '\x27'].contains c
    let (width, rest, p) := takeWidth printer (r.drop flags.length) p
    let (precision, rest, p) := match rest with
      | '.' :: rest =>
        let (precision, rest, p) := takeWidth printer rest p
        (some (precision.getD 0), rest, p)
      | rest => (none, rest, p)
    let rest := if printer = .shell .plain then rest
      else rest.dropWhile fun c => ['h', 'l', 'L', 'q', 'j', 't', 'z'].contains c &&
        !(c = 'q' && printer != .shell .plain)
    let stopped (report : ByteText) : Printed :=
      let p := p.report report
      { p with status := if printer = .shell .plain then 2 else 1, stops := true }
    match rest with
    | [] =>
      if printer = .shell .plain then stopped "missing format character"
      else if printer = .program then
        stopped (String.ofList ('%' :: r) ++ ": invalid conversion specification")
      else stopped ("\x60" ++ String.ofList ('%' :: r) ++ "\x27: missing format character")
    | letter :: rest =>
      if (directiveLetters printer).contains letter then
        let p := printArgument printer ⟨flags, width, precision, letter⟩ p
        if p.stops then p else printOnce printer fuel rest p
      else
        stopped (directiveReport printer ('%' :: r.take (r.length - rest.length)))
  | fuel + 1, '\\' :: r, p =>
    match r with
    | 'c' :: _ =>
      if printer = .program then { p with stops := true }
      else
        let (cs, rest) := readEscape (printer != .shell .plain) r
        printOnce printer fuel rest (p.add cs)
    | r =>
      let (cs, rest) := readEscape (printer != .shell .plain) r
      printOnce printer fuel rest (p.add cs)
  | fuel + 1, c :: r, p => printOnce printer fuel r (p.add [c])

/-- Prints a format again as long as arguments are left. -/
def printAll (printer : Printer) (format : List Char) : Nat → Printed → Printed
  | 0, p => p
  | fuel + 1, p =>
    let p := printOnce printer (format.length + 1) format { p with used := false }
    if p.stops || p.args.isEmpty || !p.used then p else printAll printer format fuel p

/-- Prints arguments as a format says. -/
def printFormat (printer : Printer) (format : ByteText) (args : List ByteText) : Printed :=
  let start : Printed := ⟨[], [], 0, args, false, false⟩
  let p := printAll printer format.toList (args.length + 1) start
  if printer = .program && !p.stops && !p.args.isEmpty then
    { p with reports :=
        ("warning: ignoring excess arguments, starting with " ++
          inCurlyQuotes (p.args.head?.getD "")) :: p.reports }
  else p

end RamlClient.Tools
