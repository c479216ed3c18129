import OrcRows.Text.CharClass
import OrcRows.Text.Pieces

/-!
# Parts of a location

A location may begin with a scheme and a host. The split drops control characters and blanks at the
front and all tabs and line breaks, and cuts off parameters, query and fragment. Only hosts are
checked: with brackets in it a host has to name an address of the sixth version or of a future one,
and no character may stand for a delimiter in disguise.
-/

namespace OrcRows

/-- The parts of a location that tell where a file is. -/
structure Uri where
  /-- The scheme in lower case; empty if there is none. -/
  scheme : String
  /-- The host with everything in front of the path. -/
  host : String
  /-- The path without parameters, query and fragment. -/
  path : String
  deriving DecidableEq, Repr

namespace Uri

/-- Four hexadecimal digits at most, and one at least. -/
def isHextet (text : List Char) : Bool :=
  !text.isEmpty && text.length ≤ 4 && text.all fun c => (CharClass.hexValue? c).isSome

/-- A number from 0 to 255 in ASCII digits, without leading zeros. -/
def isOctet (text : List Char) : Bool :=
  !text.isEmpty && text.length ≤ 3 && text.all Char.isDigit &&
    (text == ['0'] || text.head? != some '0') &&
    text.foldl (fun value c => 10 * value + (c.toNat - '0'.toNat)) 0 ≤ 255

/-- Whether a text is an address of four octets. -/
def isFourOctets (text : List Char) : Bool :=
  let octets := Pieces.cut (· == '.') text
  octets.length == 4 && octets.all isOctet

/-- The groups of an address of the sixth version; four octets at its end count as two groups. -/
def addressGroups? (text : List Char) : Option (List (List Char)) :=
  let groups := Pieces.cut (· == ':') text
  match groups.getLast? with
  | some last =>
    if groups.length < 3 then none
    else if last.contains '.' then
      if isFourOctets last then some (groups.dropLast ++ [['0'], ['0']]) else none
    else some groups
  | none => none

/-- Groups at one end of an address; a lone empty group is no group. -/
def endGroups (groups : List (List Char)) : List (List Char) :=
  if groups = [[]] then [] else groups

/-- Whether a text is an address of the sixth version: eight groups, or fewer around two colons. -/
def isSixthVersion (text : List Char) : Bool :=
  match addressGroups? text with
  | none => false
  | some groups =>
    let inner := (groups.drop 1).dropLast
    match inner.findIdx? List.isEmpty with
    | none => groups.length == 8 && groups.all isHextet
    | some place =>
      let outer := endGroups (groups.take (place + 1)) ++ endGroups (groups.drop (place + 2))
      groups.length ≤ 9 && outer.length ≤ 7 && outer.all isHextet

/-- Whether a text is an address with an optional zone behind a percent sign. -/
def isZonedAddress (text : List Char) : Bool :=
  let address := text.takeWhile (· ≠ '%')
  let zoned := match text.dropWhile (· ≠ '%') with
    | [] => true
    | _ :: zone => !zone.isEmpty && !zone.contains '%'
  zoned && isSixthVersion address

/-- Whether a text is an address of a version to come. -/
def isFutureAddress (text : List Char) : Bool :=
  match text with
  | 'v' :: rest =>
    let version := rest.takeWhile fun c => (CharClass.hexValue? c).isSome
    match rest.dropWhile fun c => (CharClass.hexValue? c).isSome with
    | '.' :: address => !version.isEmpty && !address.isEmpty
    | _ => false
  | _ => false

/-- The host name behind the last at sign: what brackets enclose, if nothing stands in front of them
and nothing but a port behind them, else what stands in front of the port. -/
def hostName? (host : List Char) : Option (List Char) :=
  let located := (host.reverse.takeWhile (· ≠ '@')).reverse
  if located.contains '[' then
    let inside := (located.dropWhile (· ≠ '[')).drop 1
    let behind := (inside.dropWhile (· ≠ ']')).drop 1
    if located.head? = some '[' ∧ (behind = [] ∨ behind.head? = some ':') then
      some (inside.takeWhile (· ≠ ']'))
    else none
  else some (located.takeWhile (· ≠ ':'))

/-- Whether a host has no brackets, or has both and names an address. -/
def hasSoundBrackets (host : List Char) : Bool :=
  match host.contains '[', host.contains ']' with
  | false, false => true
  | true, true => (hostName? host).any fun name =>
    if name.head? = some 'v' then isFutureAddress name else isZonedAddress name
  | _, _ => false

/-- Code points that are compatible with a text in which a delimiter occurs. -/
def disguises : List Nat :=
  [0x2047, 0x2048, 0x2049, 0x2100, 0x2101, 0x2105, 0x2106, 0x2a74, 0xfe13, 0xfe16, 0xfe55, 0xfe56,
   0xfe5f, 0xfe6b, 0xff03, 0xff0f, 0xff1a, 0xff1f, 0xff20]

/-- Whether a host can be accepted. -/
def isSoundHost (host : List Char) : Bool :=
  hasSoundBrackets host && !host.any fun c => disguises.contains c.toNat

/-- Schemes whose paths may have parameters. -/
def parameterSchemes : List String :=
  ["", "ftp", "hdl", "prospero", "http", "imap", "https", "shttp", "rtsp", "rtsps", "rtspu", "sip",
   "sips", "mms", "sftp", "tel"]

/-- A character of a scheme. -/
def isSchemeChar (c : Char) : Bool := c.isAlphanum || c == '+' || c == '-' || c == '.'

/-- Splits off a scheme: a letter and other characters of a scheme before a colon. -/
def splitScheme (text : List Char) : List Char × List Char :=
  let front := text.takeWhile (· ≠ ':')
  match text.dropWhile (· ≠ ':') with
  | _ :: rest =>
    if front.head?.any Char.isAlpha ∧ front.all isSchemeChar then (front.map Char.toLower, rest)
    else ([], text)
  | [] => ([], text)

/-- Splits off a host between two slashes and the next delimiter. -/
def splitHost (text : List Char) : List Char × List Char :=
  match text with
  | '/' :: '/' :: rest =>
    let delimits (c : Char) : Bool := c == '/' || c == '?' || c == '#'
    (rest.takeWhile fun c => !delimits c, rest.dropWhile fun c => !delimits c)
  | _ => ([], text)

/-- The path without the parameters of its last segment. -/
def cutParameters (path : List Char) : List Char :=
  let lastSegment := (path.reverse.takeWhile (· ≠ '/')).reverse
  if lastSegment.contains ';' then
    path.take (path.length - lastSegment.length) ++ lastSegment.takeWhile (· ≠ ';')
  else path

/-- The text of a location as it is read: without control characters and blanks at the front, and
without tabs and line breaks anywhere. -/
def legible (text : String) : List Char :=
  (text.toList.dropWhile fun c => c.toNat ≤ 0x20).filter fun c =>
    !(c == '\t' || c == '\r' || c == '\n')

/-- The parts of a location; there are none if its host cannot be accepted. -/
def ofText? (text : String) : Option Uri :=
  let (scheme, rest) := splitScheme (legible text)
  let (host, rest) := splitHost rest
  if isSoundHost host then
    let path := (rest.takeWhile (· ≠ '#')).takeWhile (· ≠ '?')
    let path := if parameterSchemes.contains (String.ofList scheme) then cutParameters path
      else path
    some ⟨String.ofList scheme, String.ofList host, String.ofList path⟩
  else none

end Uri

end OrcRows
