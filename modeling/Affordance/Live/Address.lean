import Affordance.Text.Basic
import Affordance.Text.Quoted

/-!
# Addresses of pages

  * `Address`: the scheme, the host and the path of an address.
  * `Address.read`: an address from a text.  White space before it, tabs and line breaks
    do not count.
  * `Address.isPage`: a page can stand at the address.
-/

namespace Affordance

open Affordance.Text

/-! ## 1. Addresses -/

/-- The parts of an address. -/
structure Address where
  scheme : String
  /-- The host with the user's name and the number that may stand with it. -/
  host : String
  path : String
  deriving Repr, DecidableEq

/-- What is wrong with the host of an address. -/
inductive AddressFault where
  /-- A bracket stands alone, or something stands beside the brackets. -/
  | loneBracket
  /-- The text in brackets is no address of a future version. -/
  | futureVersion
  /-- The text in brackets is no numeric address. -/
  | notNumeric (text : String)
  /-- The text in brackets is a numeric address that needs no brackets. -/
  | needlessBrackets
  /-- A character of the host stands for a mark that ends hosts. -/
  | disguisedMark (host : String)
  deriving Repr, DecidableEq

/-- The wording of a fault. -/
def AddressFault.message : AddressFault → String
  | loneBracket => "Invalid IPv6 URL"
  | futureVersion => "IPvFuture address is invalid"
  | notNumeric text => quoted text ++ " does not appear to be an IPv4 or IPv6 address"
  | needlessBrackets => "An IPv4 address cannot be in brackets"
  | disguisedMark host =>
    "netloc '" ++ host ++ "' contains invalid characters under NFKC normalization"

/-! ## 2. Numeric addresses -/

/-- A hexadecimal digit. -/
def isHexDigit (c : Char) : Bool :=
  isDigitAscii c || ('a' ≤ c && c ≤ 'f') || ('A' ≤ c && c ≤ 'F')

/-- One of the four numbers of a short address. -/
def isOctetText (s : List Char) : Bool :=
  !s.isEmpty && s.all isDigitAscii && s.length ≤ 3 && (s = ['0'] || s.head? ≠ some '0') &&
  s.foldl (fun n c => n * 10 + (c.toNat - 48)) 0 ≤ 255

/-- A numeric address of four numbers. -/
def isShortNumeric (s : List Char) : Bool :=
  let parts := splitOn '.' s
  parts.length = 4 && parts.all isOctetText

/-- One of the eight groups of a long address. -/
def isGroup (s : List Char) : Bool := !s.isEmpty && s.length ≤ 4 && s.all isHexDigit

/-- The groups between colons, the last one of which may be a short address: it counts
    for two. -/
def groupsOf (s : List Char) : Option (List (List Char)) :=
  let parts := splitOn ':' s
  match parts.getLast? with
  | some last =>
    if parts.length < 3 then none
    else if last.contains '.' then
      if isShortNumeric last then some (parts.dropLast ++ [['0'], ['0']]) else none
    else some parts
  | none => none

/-- The groups on one side of the gap: nothing at all, or groups. -/
def isSide (ps : List (List Char)) : Bool := ps.all isGroup || ps = [[]]

/-- The groups before and after the only gap. -/
def aroundGap (ps : List (List Char)) : Option (List (List Char) × List (List Char)) :=
  match ps with
  | first :: rest =>
    let inner := rest.takeWhile (· ≠ [])
    let after := rest.dropWhile (· ≠ [])
    match after with
    | _ :: last :: more => some (first :: inner, last :: more)
    | _ => none
  | [] => none

/-- The groups make a long address. -/
def isLongGroups (ps : List (List Char)) : Bool :=
  match aroundGap ps with
  | some (before, after) =>
    isSide before && isSide after && ((before ++ after).filter (· ≠ [])).length ≤ 7
  | none => ps.length = 8 && ps.all isGroup

/-- A zone may follow a long address after a percent sign. -/
def isZone : List Char → Bool
  | [] => true
  | _ :: zone => !zone.isEmpty && !zone.contains '%'

/-- A numeric address of eight groups. -/
def isLongNumeric (s : List Char) : Bool :=
  isZone (s.dropWhile (· ≠ '%')) &&
  match groupsOf (s.takeWhile (· ≠ '%')) with
  | some ps => isLongGroups ps
  | none => false

/-- An address of a future version: its number, a point and more text. -/
def isFutureVersion : List Char → Bool
  | _ :: s =>
    let number := s.takeWhile isHexDigit
    match s.drop number.length with
    | '.' :: c :: rest => !number.isEmpty && (c :: rest).all (· ≠ '\n')
    | _ => false
  | [] => false

/-! ## 3. Hosts -/

/-- Characters that stand for one of the marks `/`, `?`, `#`, `@` and `:`, alone or among
    others. -/
def disguisedMarks : List Char := [
  '\u2047', '\u2048', '\u2049', '\u2100', '\u2101', '\u2105', '\u2106', '\u2a74', '\ufe13',
  '\ufe16', '\ufe55', '\ufe56', '\ufe5f', '\ufe6b', '\uff03', '\uff0f', '\uff1a', '\uff1f',
  '\uff20']

/-- The host without the user's name before it. -/
def withoutUser (host : List Char) : List Char :=
  (host.reverse.takeWhile (· ≠ '@')).reverse

/-- What is wrong with a text in brackets. -/
def bracketedFault (s : List Char) : Option AddressFault :=
  if s.head? = some 'v' then
    if isFutureVersion s then none else some .futureVersion
  else if isShortNumeric s then some .needlessBrackets
  else if isLongNumeric s then none
  else some (.notNumeric (String.ofList s))

/-- What is wrong with a host that stands after the user's name and has brackets somewhere:
    nothing may stand before them, and only a port after them.  Brackets in the user's name
    ask for a host that could stand in brackets. -/
def numericHostFault (host : List Char) : Option AddressFault :=
  match host with
  | '[' :: rest =>
    match rest.dropWhile (· ≠ ']') with
    | _ :: c :: _ =>
      if c = ':' then bracketedFault (rest.takeWhile (· ≠ ']')) else some .loneBracket
    | _ => bracketedFault (rest.takeWhile (· ≠ ']'))
  | _ =>
    if host.contains '[' then some .loneBracket
    else bracketedFault (host.takeWhile (· ≠ ':'))

/-- What is wrong with a host. -/
def hostFault (host : List Char) : Option AddressFault :=
  let opens := host.contains '['
  let closes := host.contains ']'
  let brackets := if opens ≠ closes then some .loneBracket
    else if opens then numericHostFault (withoutUser host)
    else none
  brackets <|>
    if host.any disguisedMarks.contains then some (.disguisedMark (String.ofList host)) else none

/-! ## 4. Reading -/

/-- A character of a scheme. -/
def isSchemeChar (c : Char) : Bool := isAlnumAscii c || c == '+' || c == '-' || c == '.'

/-- The scheme of an address in small letters, and what follows it. -/
def splitScheme (s : List Char) : List Char × List Char :=
  let scheme := s.takeWhile isSchemeChar
  match s.drop scheme.length with
  | ':' :: rest =>
    if (scheme.head?.map isLetterAscii).getD false then (scheme.map Char.toLower, rest) else ([], s)
  | _ => ([], s)

/-- A mark that ends hosts. -/
def endsHost (c : Char) : Bool := c == '/' || c == '?' || c == '#'

/-- The host of what follows a scheme, and what follows the host. -/
def splitHost : List Char → List Char × List Char
  | '/' :: '/' :: s => (s.takeWhile (!endsHost ·), s.dropWhile (!endsHost ·))
  | s => ([], s)

/-- What counts of a text. -/
def addressText (s : String) : List Char :=
  (s.toList.dropWhile (·.toNat ≤ 32)).filter fun c => c ≠ '\t' && c ≠ '\r' && c ≠ '\n'

/-- An address from a text. -/
def Address.read (s : String) : Except AddressFault Address :=
  let (scheme, rest) := splitScheme (addressText s)
  let (host, rest) := splitHost rest
  match hostFault host with
  | some f => .error f
  | none => .ok ⟨String.ofList scheme, String.ofList host,
      String.ofList (rest.takeWhile fun c => c ≠ '#' && c ≠ '?')⟩

/-- A page can stand at the address: at a host of the web, or in a file. -/
def Address.isPage (a : Address) : Bool :=
  (a.scheme = "file" && a.path ≠ "") ||
  ((a.scheme = "http" || a.scheme = "https") && a.host ≠ "")

end Affordance
