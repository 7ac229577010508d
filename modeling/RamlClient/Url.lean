import RamlClient.Text.Blank
import RamlClient.Text.Segment
/-!
# Web addresses

A text is a web address if its scheme is `http` or `https`. Control characters and spaces before it
do not count, nor do tabs and line ends inside. The part that names the host has to be well formed,
whatever the scheme is.
-/

namespace RamlClient.Url

/-- The host of an address is malformed. -/
inductive HostError where
  /-- A bracket has no partner. -/
  | unbalancedBracket
  /-- What stands between brackets is no network address. -/
  | badAddress
  /-- A character stands for a text with a delimiter. -/
  | hiddenDelimiter
deriving DecidableEq, Repr

/-- Characters whose compatibility form has a delimiter of addresses in it. -/
def delimiterForms : List Nat :=
  [0x2047, 0x2048, 0x2049, 0x2100, 0x2101, 0x2105, 0x2106, 0x2a74, 0xfe13, 0xfe16, 0xfe55, 0xfe56,
   0xfe5f, 0xfe6b, 0xff03, 0xff0f, 0xff1a, 0xff1f, 0xff20]

/-- The address without what does not count. -/
def clean (cs : List Char) : List Char :=
  (cs.dropWhile fun c => c.toNat ≤ 32).filter fun c => c != '\t' && c != '\r' && c != '\n'

/-- Whether a character can stand in a scheme. -/
def isSchemeChar (c : Char) : Bool := c.isAlphanum || c == '+' || c == '-' || c == '.'

/-- The scheme in lower case, empty if there is none, and the text after it. -/
def splitScheme (cs : List Char) : List Char × List Char :=
  match cs, Text.cutAtChar ':' cs with
  | c :: _, (scheme, some rest) =>
    if c.isAlpha && scheme.all isSchemeChar then (scheme.map Char.toLower, rest) else ([], cs)
  | _, _ => ([], cs)

/-- The part that names the host: it follows two slashes. -/
def hostPart : List Char → List Char
  | '/' :: '/' :: r => r.takeWhile fun c => c != '/' && c != '?' && c != '#'
  | _ => []

/-- Whether a character is a hexadecimal digit. -/
def isHexDigit (c : Char) : Bool :=
  c.isDigit || ('a' ≤ c && c ≤ 'f') || ('A' ≤ c && c ≤ 'F')

/-- Whether a text is a number below 256 without leading zeros. -/
def isOctet (cs : List Char) : Bool :=
  !cs.isEmpty && cs.all Char.isDigit && cs.length ≤ 3 && (cs == ['0'] || cs.head? != some '0') &&
    cs.foldl (fun n d => n * 10 + (d.toNat - 48)) 0 ≤ 255

/-- Whether a text is a network address of four octets. -/
def isDottedAddress (cs : List Char) : Bool :=
  let octets := Text.splitAtChar '.' cs
  octets.length == 4 && octets.all isOctet

/-- Whether a text is a group of one to four hexadecimal digits. -/
def isGroup (cs : List Char) : Bool := !cs.isEmpty && cs.length ≤ 4 && cs.all isHexDigit

/-- The groups of a network address, with its dotted end written as two groups; nothing if that end
is malformed. -/
def groups? (cs : List Char) : Option (List (List Char)) :=
  let parts := Text.splitAtChar ':' cs
  let last := parts.getLast?.getD []
  if last.contains '.' then
    if isDottedAddress last then some (parts.dropLast ++ [['0'], ['0']]) else none
  else some parts

/-- Whether the texts between colons form a network address of eight groups, of which one run may
be left out. -/
def formAddress (parts : List (List Char)) : Bool :=
  let inner := parts.dropLast.tail
  let gaps := (inner.filter List.isEmpty).length
  if gaps = 0 then parts.length == 8 && parts.all isGroup
  else
    let before := 1 + inner.findIdx List.isEmpty
    let high := parts.take before
    let low := parts.drop (before + 1)
    let high' := if high.head? = some [] then high.tail else high
    let low' := if low.getLast? = some [] then low.dropLast else low
    gaps == 1 && (high'.length == high.length || high'.isEmpty) &&
      (low'.length == low.length || low'.isEmpty) && high'.length + low'.length ≤ 7 &&
      high'.all isGroup && low'.all isGroup

/-- Whether a text is a network address of eight groups, possibly with a zone. -/
def isGroupedAddress (cs : List Char) : Bool :=
  let (address, zone) := Text.cutAtChar '%' cs
  let zoneFits := match zone with
    | none => true
    | some z => !z.isEmpty && !z.contains '%'
  let colons := (address.filter (· == ':')).length
  zoneFits && 2 ≤ colons &&
    match groups? address with
    | some parts => parts.length ≤ 9 && formAddress parts
    | none => false

/-- Whether a text is a network address of a version to come. -/
def isFutureAddress (cs : List Char) : Bool :=
  match cs with
  | 'v' :: r =>
    match Text.cutAtChar '.' r with
    | (version, some rest) => !version.isEmpty && version.all isHexDigit && !rest.isEmpty
    | _ => false
  | _ => false

/-- Whether a text can stand between brackets. -/
def isBracketedAddress (cs : List Char) : Bool :=
  if cs.head? = some 'v' then isFutureAddress cs else isGroupedAddress cs

/-- Whether the host of the part that names it is well formed if there are brackets in that part:
the host stands between them, after the name of a user and before the number of a port. -/
def fitsBrackets (part : List Char) : Bool :=
  let host := (Text.splitAtChar '@' part).getLast?.getD []
  match Text.cutAtChar '[' host with
  | (before, some after) =>
    let (inside, port) := Text.cutAtChar ']' after
    let port := port.getD []
    before.isEmpty && (port.isEmpty || port.head? == some ':') && isBracketedAddress inside
  | (host, none) => isBracketedAddress (Text.cutAtChar ':' host).1

/-- Checks the part that names the host. -/
def checkHost (host : List Char) : Except HostError Unit := do
  if host.contains '[' != host.contains ']' then throw .unbalancedBracket
  if host.contains '[' && !fitsBrackets host then throw .badAddress
  if host.any fun c => delimiterForms.contains c.toNat then throw .hiddenDelimiter

/-- Whether a text is a web address. -/
def isWebAddress (s : String) : Except HostError Bool := do
  let (scheme, rest) := splitScheme (clean s.toList)
  checkHost (hostPart rest)
  pure (scheme == "http".toList || scheme == "https".toList)

/-- The address that is asked for: white space around an address does not count, nor does an empty
fragment. -/
def requested (s : String) : String :=
  let cs := (Text.trim s).toList
  String.ofList (if cs.getLast? = some '#' then cs.dropLast else cs)

end RamlClient.Url
