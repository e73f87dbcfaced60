import MavenResolution.Text.Utf8
import MavenResolution.Xml.Token

/-! Documents as bytes. The first bytes show how wide a character is; a declaration at the start
may name the encoding. -/
namespace MavenResolution.Xml

open Text

/-- What `ET.fromstring` raises. -/
inductive Fault where
  /-- A `ParseError`. -/
  | malformed
  /-- A `LookupError`: no codec has the name that a declaration gives. -/
  | unknownEncoding (name : String)
  /-- A `ValueError`, such as the one for codecs with several bytes to a character. -/
  | unsupportedEncoding (message : String)
  deriving DecidableEq, Repr

def Fault.message : Fault → String
  | .malformed => "not well-formed"
  | .unknownEncoding name => "unknown encoding: " ++ name
  | .unsupportedEncoding message => message

/-- How bytes make characters; nothing stands where they make none. -/
inductive Encoding where
  | utf8
  | latin
  | ascii
  | wide (bigEndian : Bool)
  deriving DecidableEq, Repr

namespace Encoding

/-- Sixteen-bit units, two bytes each. -/
def units (bigEndian : Bool) : List UInt8 → List (Option Nat)
  | a :: b :: rest =>
    some (if bigEndian then 256 * a.toNat + b.toNat else 256 * b.toNat + a.toNat) ::
      units bigEndian rest
  | [_] => [none]
  | [] => []

/-- The characters of units. A unit that opens a pair takes ten bits from the next one. -/
def ofUnits : List (Option Nat) → List (Option Char)
  | some high :: some low :: rest =>
    if 0xd800 ≤ high ∧ high < 0xdc00 then
      some (Char.ofNat (0x10000 + 1024 * (high % 1024) + low % 1024)) :: ofUnits rest
    else
      (if high.isValidChar then some (Char.ofNat high) else none) :: ofUnits (some low :: rest)
  | some unit :: rest =>
    (if unit.isValidChar then some (Char.ofNat unit) else none) :: ofUnits rest
  | none :: rest => none :: ofUnits rest
  | [] => []

def decode : Encoding → List UInt8 → List (Option Char)
  | .utf8, octets => Utf8.decode octets
  | .latin, octets => octets.map fun octet => some (Char.ofNat octet.toNat)
  | .ascii, octets =>
    octets.map fun octet => if octet.toNat < 128 then some (Char.ofNat octet.toNat) else none
  | .wide bigEndian, octets => ofUnits (units bigEndian octets)

/-- The encoding that the first bytes show, and the bytes behind a byte order mark. -/
def detect : List UInt8 → Encoding × List UInt8
  | 0xfe :: 0xff :: rest => (.wide true, rest)
  | 0xff :: 0xfe :: rest => (.wide false, rest)
  | 0xef :: 0xbb :: 0xbf :: rest => (.utf8, rest)
  | 0 :: rest => (.wide true, 0 :: rest)
  | first :: 0 :: rest => (.wide false, first :: 0 :: rest)
  | octets => (.utf8, octets)

def isWide : Encoding → Bool
  | .wide _ => true
  | _ => false

/-- The encoding of a document that declares one by name, among those that the parser knows itself. It
is as wide as the first bytes showed. Codecs of other names are not modelled. -/
def declared (detected : Encoding) (name : List Char) : Except Fault Encoding :=
  let choose (encoding : Encoding) : Except Fault Encoding :=
    if encoding.isWide = detected.isWide then .ok encoding else .error .malformed
  match String.ofList (name.map Char.toLower) with
  | "utf-8" => choose .utf8
  | "iso-8859-1" => choose .latin
  | "us-ascii" => choose .ascii
  | "utf-16" => if detected.isWide then .ok detected else .error .malformed
  | "utf-16be" => if detected = .wide true then .ok detected else .error .malformed
  | "utf-16le" => if detected = .wide false then .ok detected else .error .malformed
  | _ => .error (.unknownEncoding (String.ofList name))

end Encoding

/-- The declaration at the start of a document, as far as it matters. -/
structure Declaration where
  encoding : Option (List Char) := none
  deriving DecidableEq, Repr

namespace Declaration

def isValueChar (c : Char) : Bool := c.isAlphanum || c == '.' || c == '-' || c == '_'

/-- The settings of a declaration: each a name and a value in quotes, behind white space. -/
def settings : (fuel : Nat) → List Char → Option (List (List Char × List Char))
  | 0, _ => none
  | fuel + 1, text =>
    let inner := Token.skipSpace text
    if inner.isEmpty then some []
    else do
      guard (inner.length < text.length)
      let (name, rest) := inner.span fun c => !isSpace c && c != '='
      let rest ← Token.dropMark ['='] (Token.skipSpace rest)
      match Token.skipSpace rest with
      | [] => none
      | quote :: rest =>
        guard (quote == '"' || quote == '\'')
        let (value, rest) ← Token.cutAt [quote] rest
        guard (value.all isValueChar)
        ((name, value) :: ·) <$> settings fuel rest

def isStandalone (setting : List Char × List Char) : Bool :=
  setting.1 = "standalone".toList && (setting.2 = "yes".toList || setting.2 = "no".toList)

/-- The version comes first, then the encoding, then whether the document stands alone. -/
def ofSettings? : List (List Char × List Char) → Option Declaration
  | (first, _) :: rest => do
    guard (first = "version".toList)
    match rest with
    | [] => return {}
    | (name, value) :: rest =>
      if name = "encoding".toList then
        guard ((value.head?.map Char.isAlpha).getD false)
        guard (rest.all isStandalone && rest.length ≤ 1)
        return { encoding := some value }
      else
        guard (isStandalone (name, value) && rest.isEmpty)
        return {}
  | [] => none

/-- The declaration at the start of a text, and the text behind it. -/
def take (text : List Char) : Option (Declaration × List Char) :=
  match Token.dropMark "<?xml".toList text with
  | none => some ({}, text)
  | some rest =>
    if (rest.head?.map isNameChar).getD false then some ({}, text)
    else do
      let (inner, rest) ← Token.cutAt ['?', '>'] rest
      return (← ofSettings? (← settings (inner.length + 1) inner), rest)

end Declaration
end MavenResolution.Xml
