import QueryPlayground.Service.HostName.Bracketed
import QueryPlayground.Service.HostName.Label
import QueryPlayground.Service.HostName.Numeric
import QueryPlayground.Text.IntegerText
import QueryPlayground.Text.Lowercase

/-!
Addresses of the remote service. An endpoint is a path below the base address, or an address of its own.
Requests show addresses in a normal form, and an address without one cannot be asked for.
-/
namespace QueryPlayground.Service

/-- Whether a path is an address of its own. -/
def isAddress (path : String) : Bool :=
  "http://".toList.isPrefixOf path.toList || "https://".toList.isPrefixOf path.toList

/-- The address of an endpoint: exactly one slash joins the base to a relative path without one. -/
def endpoint (base path : String) : String :=
  if isAddress path then path
  else if path.toList.head? = some '/' then base ++ path
  else base ++ "/" ++ path

/-- Why an address has no normal form. -/
inductive AddressFault where
  | tooLong
  | control (c : Char) (place : Nat)
  | numericHost (host : String)
  | bracketedHost (host : String)
  | hostName (host : String)
  | portNumber (text : String)
  deriving DecidableEq, Repr

def AddressFault.message : AddressFault → String
  | .tooLong => "URL too long"
  | .control c place =>
    s!"Invalid non-printable ASCII character in URL, {Text.quoted (String.ofList [c])} at position {place}."
  | .numericHost host => s!"Invalid IPv4 address: {Text.quoted host}"
  | .bracketedHost host => s!"Invalid IPv6 address: {Text.quoted host}"
  | .hostName host => s!"Invalid IDNA hostname: {Text.quoted host}"
  | .portNumber text => s!"Invalid port: {Text.quoted text}"

namespace Address

/-- Addresses have at most this many characters. -/
def maxLength : Nat := 65536

/-- The parts of an absolute address; a query keeps its mark, and so does a fragment. -/
structure Parts where
  scheme : List Char
  authority : List Char
  path : List Char
  query : List Char
  fragment : List Char

def isScheme (s : List Char) : Bool :=
  s.head?.any Char.isAlpha && s.all fun c => c.isAlphanum || c == '+' || c == '.' || c == '-'

/-- Splits an absolute address; anything else is no address. -/
def split? (address : List Char) : Option Parts :=
  let scheme := address.takeWhile (· != ':')
  match isScheme scheme, address.drop scheme.length with
  | true, ':' :: '/' :: '/' :: rest =>
    let authority := rest.takeWhile fun c => c != '/' && c != '?' && c != '#'
    let rest := rest.drop authority.length
    let path := rest.takeWhile fun c => c != '?' && c != '#'
    let rest := rest.drop path.length
    let query := rest.takeWhile (· != '#')
    some ⟨scheme, authority, path, query, rest.drop query.length⟩
  | _, _ => none

/-- Drops `.` and takes back the segment before `..`; `done` holds the segments so far, the last one
first. -/
def reduceDots (done : List (List Char)) : List (List Char) → List (List Char)
  | [] => done.reverse
  | ['.'] :: rest => reduceDots done rest
  | ['.', '.'] :: rest => reduceDots (if done = [[]] then done else done.tail) rest
  | segment :: rest => reduceDots (segment :: done) rest

def normalPath (path : List Char) : List Char := Text.joined '/' (reduceDots [] (Text.pieces '/' path))

/-- A byte as an escape. -/
def escapeByte (b : UInt8) : List Char :=
  '%' :: (Text.hexDigits 2 b.toNat).map Char.toUpper

/-- Escapes what is no printable ASCII character, and the characters that are refused. -/
def escapeText (refused : List Char) (s : List Char) : List Char :=
  s.flatMap fun c =>
    if 0x20 < c.toNat ∧ c.toNat < 0x7f ∧ c ∉ refused then [c]
    else (String.ofList [c]).toUTF8.toList.flatMap escapeByte

/-- What a path refuses. -/
def pathRefused : List Char := ['"', '#', '<', '>', '?', '\x60', '\x7b', '\x7d']

/-- What the name of a user refuses, and a password with it. -/
def userRefused : List Char := pathRefused ++ ['/', ';', '=', '@', '[', '\\', ']', '^', '|']

/-- What the name of a host refuses. -/
def hostRefused : List Char := ['<', '>', '[', ']', '^']

/-- The parts of an authority. -/
structure Authority where
  user : List Char
  host : List Char
  portNumber : List Char

/-- The host at the front of a site: up to the last closing bracket if the site starts with an opening one,
and otherwise up to the next colon. -/
def hostAtFront (site : List Char) : List Char :=
  if site.head? = some '[' ∧ ']' ∈ site then (site.reverse.dropWhile (· != ']')).reverse
  else site.takeWhile (· != ':')

/-- Splits an authority: the last at sign ends the user, and a colon may stand behind the host. -/
def Authority.split (authority : List Char) : Authority :=
  let site := (authority.reverse.takeWhile (· != '@')).reverse
  let host := hostAtFront site
  let rest := site.drop host.length
  ⟨authority.take (authority.length - site.length - 1), host, if rest.head? = some ':' then rest.tail else rest⟩

/-- The form of a host that requests show. A name outside ASCII is shown as it is sent. -/
def normalHost (host : List Char) : Except AddressFault (List Char) :=
  if HostName.looksNumeric host then
    if HostName.isNumeric host then .ok host else .error (.numericHost (String.ofList host))
  else if host.head? = some '[' ∧ host.getLast? = some ']' then
    if HostName.isGrouped host.tail.dropLast then .ok host else .error (.bracketedHost (String.ofList host))
  else if HostName.isAscii host then .ok (escapeText hostRefused (host.map Char.toLower))
  else
    match HostName.sent? (Text.lowerChars host) with
    | some sent => .ok sent
    | none => .error (.hostName (String.ofList host))

/-- The port numbers that go without saying. A scheme in capitals has none. -/
def defaultPortNumbers : List (String × Int) :=
  [("ftp", 21), ("http", 80), ("https", 443), ("ws", 80), ("wss", 443)]

/-- The port number that some digits denote, or nothing when none is given. -/
def readPortNumber (digits : List Char) : Except AddressFault (Option Int) :=
  if digits.isEmpty then .ok none
  else
    match Text.readInteger 10 digits with
    | .ok number => .ok (some number)
    | .error _ => .error (.portNumber (String.ofList digits))

/-- The form of a port number that requests show, with its colon. -/
def normalPortNumber (scheme digits : List Char) : Except AddressFault (List Char) :=
  (readPortNumber digits).map fun
    | none => []
    | some number =>
      if defaultPortNumbers.lookup (String.ofList scheme) = some number then [] else s!":{number}".toList

/-- The form of an authority that requests show. -/
def normalAuthority (scheme authority : List Char) : Except AddressFault (List Char) := do
  let parts := Authority.split authority
  let host ← normalHost parts.host
  let portNumber ← normalPortNumber scheme parts.portNumber
  return (if parts.user.isEmpty then [] else escapeText userRefused parts.user ++ ['@']) ++ host ++ portNumber

/-- Refuses an address that is too long or holds a control character. -/
def check (address : List Char) : Except AddressFault Unit :=
  if maxLength < address.length then .error .tooLong
  else
    match address.findIdx? fun c => c.toNat < 0x20 || c.toNat == 0x7f with
    | some place => .error (.control (address.getD place ' ') place)
    | none => .ok ()

/-- The form of an address that requests show. -/
def normalize (address : String) : Except AddressFault String := do
  check address.toList
  match split? address.toList with
  | none => return address
  | some parts =>
    let authority ← normalAuthority parts.scheme parts.authority
    return String.ofList (parts.scheme.map Char.toLower ++ "://".toList ++ authority ++
      escapeText pathRefused (normalPath parts.path) ++
      escapeText ['"', '#', '<', '>'] parts.query ++
      escapeText ['"', '<', '>', '\x60'] parts.fragment)

end Address
end QueryPlayground.Service
