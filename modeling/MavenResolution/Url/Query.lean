import MavenResolution.Text.Pieces
import MavenResolution.Text.Utf8

/-! Queries of URLs: pairs of names and values in percent encoding. -/
namespace MavenResolution.Url.Query

open Text

def hexValue? (c : Char) : Option Nat :=
  if '0' ≤ c ∧ c ≤ '9' then some (c.toNat - '0'.toNat)
  else if 'a' ≤ c ∧ c ≤ 'f' then some (c.toNat - 'a'.toNat + 10)
  else if 'A' ≤ c ∧ c ≤ 'F' then some (c.toNat - 'A'.toNat + 10)
  else none

/-- The bytes of an ASCII text: a percent sign with two hexadecimal digits is one byte. -/
def octets : List Char → List UInt8
  | '%' :: high :: low :: rest =>
    match hexValue? high, hexValue? low with
    | some h, some l => UInt8.ofNat (16 * h + l) :: octets rest
    | _, _ => '%'.val.toUInt8 :: octets (high :: low :: rest)
  | c :: rest => c.val.toUInt8 :: octets rest
  | [] => []

def isAscii (c : Char) : Bool := c.toNat < 128

/-- A text read out of percent encoding; `run` holds the ASCII characters read last. Bytes make
characters within a run of ASCII characters only. -/
def decodeRuns (run : List Char) : List Char → List Char
  | [] => Utf8.decodeReplacing (octets run)
  | c :: rest =>
    if isAscii c then decodeRuns (run ++ [c]) rest
    else Utf8.decodeReplacing (octets run) ++ c :: decodeRuns [] rest

/-- A name or value as written in a query. A plus sign stands for a blank. -/
def decode (text : List Char) : List Char :=
  decodeRuns [] (text.map fun c => if c == '+' then ' ' else c)

/-- Characters that stand for themselves in a query. -/
def isPlain (octet : UInt8) : Bool :=
  let c := Char.ofNat octet.toNat
  isAscii c && (c.isAlphanum || c == '_' || c == '.' || c == '-' || c == '~')

def hexDigit (n : Nat) : Char := ("0123456789ABCDEF".toList)[n % 16]?.getD '0'

def encodeOctet (octet : UInt8) : List Char :=
  if isPlain octet then [Char.ofNat octet.toNat]
  else if octet = ' '.val.toUInt8 then ['+']
  else ['%', hexDigit (octet.toNat / 16), hexDigit octet.toNat]

def encode (text : List Char) : List Char := (Utf8.encode text).flatMap encodeOctet

/-- Name and value of a pair; the value is empty if no sign announces one. -/
def pair (text : List Char) : List Char × List Char :=
  let (name, value) := text.span (· != '=')
  (decode name, decode (value.drop 1))

/-- The pairs of a query, in their order. -/
def pairs (query : List Char) : List (List Char × List Char) :=
  ((pieces '&' query).filter (!·.isEmpty)).map pair

def ofPairs (pairs : List (List Char × List Char)) : List Char :=
  ['&'].intercalate (pairs.map fun (name, value) => encode name ++ '=' :: encode value)

end MavenResolution.Url.Query
