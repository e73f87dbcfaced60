import MavenResolution.Text.Casing

/-! URLs cut into scheme, authority, path, query and fragment, and put together again, as `urlsplit` and
`urlunsplit` do it. -/
namespace MavenResolution

structure Url where
  scheme : List Char
  authority : List Char
  path : List Char
  query : List Char
  fragment : List Char
  deriving DecidableEq, Repr

namespace Url

open Text

/-- A control character or a blank: URLs do not start with one. -/
def isLeadingNoise (c : Char) : Bool := c.toNat ≤ 32

/-- Tabs and line ends count nowhere in a URL. -/
def isIgnored (c : Char) : Bool := c == '\t' || c == '\r' || c == '\n'

def isAsciiLetter (c : Char) : Bool := c.isAlpha

def isSchemeChar (c : Char) : Bool := c.isAlphanum || c == '+' || c == '-' || c == '.'

def clean (text : List Char) : List Char := (text.dropWhile isLeadingNoise).filter (!isIgnored ·)

/-- The text before the first character of a kind, and that character with what follows it. -/
def before (stop : Char → Bool) (text : List Char) : List Char × List Char :=
  text.span (!stop ·)

/-- Scheme and rest: letters, digits and a few marks in front of a colon, a letter first. -/
def cutScheme (text : List Char) : List Char × List Char :=
  match before (· == ':') text with
  | (c :: name, ':' :: rest) =>
    if isAsciiLetter c && name.all isSchemeChar then (lowercase (c :: name), rest) else ([], text)
  | _ => ([], text)

/-- Characters outside ASCII that decompose into marks which separate the parts of a URL. -/
def disguisedMarks : List Nat :=
  [0x2047, 0x2048, 0x2049, 0x2100, 0x2101, 0x2105, 0x2106, 0x2a74, 0xfe13, 0xfe16, 0xfe55,
    0xfe56, 0xfe5f, 0xfe6b, 0xff03, 0xff0f, 0xff1a, 0xff1f, 0xff20]

/-- Schemes whose URLs have an authority, be it an empty one. -/
def schemesWithAuthority : List String :=
  ["ftp", "http", "gopher", "nntp", "telnet", "imap", "wais", "file", "mms", "https", "shttp",
    "snews", "prospero", "rtsp", "rtspu", "rsync", "svn", "svn+ssh", "sftp", "nfs", "git",
    "git+ssh", "ws", "wss"]

/-- What the releases of `urllib.parse` do differently. The values are those of release 3.11.2. -/
structure Rules where
  /-- An authority with both brackets is well-formed. Later releases want an IP address between them. -/
  admits : List Char → Bool := fun _ => true
  /-- Two slashes are written for an empty authority. Later releases write them in front of a path that
  begins with two slashes as well. -/
  marksEmpty : (scheme path : List Char) → Bool := fun scheme path =>
    schemesWithAuthority.any (·.toList == scheme) && path.take 2 != ['/', '/']

/-- An authority may hold both brackets or neither, and no mark in disguise. -/
def isAuthority (text : List Char) (rules : Rules := {}) : Bool :=
  (text.contains '[' == text.contains ']') && (!text.contains '[' || rules.admits text) &&
    !text.any (disguisedMarks.contains ·.toNat)

def isAuthorityEnd (c : Char) : Bool := c == '/' || c == '?' || c == '#'

/-- Authority and rest, where two slashes announce one. -/
def cutAuthority : List Char → List Char × List Char
  | '/' :: '/' :: rest => before isAuthorityEnd rest
  | text => ([], text)

/-- The parts before and after the first mark. -/
def cutAt (mark : Char) (text : List Char) : List Char × List Char :=
  let (first, rest) := before (· == mark) text
  (first, rest.drop 1)

/-- The parts of a URL; none if its authority is malformed. -/
def ofChars? (text : List Char) (rules : Rules := {}) : Option Url :=
  let (scheme, rest) := cutScheme (clean text)
  let (authority, rest) := cutAuthority rest
  if isAuthority authority rules then
    let (rest, fragment) := cutAt '#' rest
    let (path, query) := cutAt '?' rest
    some { scheme, authority, path, query, fragment }
  else none

def hasAuthority (url : Url) (rules : Rules := {}) : Bool :=
  !url.authority.isEmpty || rules.marksEmpty url.scheme url.path

/-- The path as it follows an authority: it begins with a slash if it is not empty. -/
def rooted : List Char → List Char
  | [] => []
  | '/' :: rest => '/' :: rest
  | path => '/' :: path

def toChars (url : Url) (rules : Rules := {}) : List Char :=
  (if url.scheme.isEmpty then [] else url.scheme ++ [':']) ++
    (if url.hasAuthority rules then '/' :: '/' :: url.authority ++ rooted url.path else url.path) ++
    (if url.query.isEmpty then [] else '?' :: url.query) ++
    (if url.fragment.isEmpty then [] else '#' :: url.fragment)

/-- The part of a text after the last mark, or all of it. -/
def afterLast (mark : Char) (text : List Char) : List Char :=
  (text.reverse.takeWhile (· != mark)).reverse

/-- Host and port, without the user info in front of them. -/
def hostAndPort (url : Url) : List Char := afterLast '@' url.authority

/-- The host in small letters, without port and brackets. A zone behind a percent sign keeps its
letters. -/
def host (url : Url) : List Char :=
  let address := url.hostAndPort
  let name := match (before (· == '[') address).2 with
    | '[' :: inner => (before (· == ']') inner).1
    | _ => (before (· == ':') address).1
  let (name, zone) := before (· == '%') name
  lowercase name ++ zone

end Url
end MavenResolution
