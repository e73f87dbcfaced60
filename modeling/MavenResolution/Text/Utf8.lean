/-! Text as bytes. The first byte of a character says how many follow it and bounds the second,
so that every character has one form only. -/
namespace MavenResolution.Text.Utf8

/-- A character of which bytes are still to come: the bits read so far, how many bytes follow,
and the bounds of the next one. -/
structure Pending where
  bits : Nat
  following : Nat
  low : Nat := 0x80
  high : Nat := 0xbf
  deriving DecidableEq, Repr

/-- What a byte above ASCII opens. -/
def lead? (octet : UInt8) : Option Pending :=
  let n := octet.toNat
  if n < 0xc2 then none
  else if n < 0xe0 then some { bits := n - 0xc0, following := 1 }
  else if n < 0xf0 then
    some { bits := n - 0xe0, following := 2, low := if n = 0xe0 then 0xa0 else 0x80,
           high := if n = 0xed then 0x9f else 0xbf }
  else if n < 0xf5 then
    some { bits := n - 0xf0, following := 3, low := if n = 0xf0 then 0x90 else 0x80,
           high := if n = 0xf4 then 0x8f else 0xbf }
  else none

/-- The character that a byte completes where none is pending, and what is pending then. -/
def start (octet : UInt8) : List (Option Char) × Option Pending :=
  if octet.toNat < 0x80 then ([some (Char.ofNat octet.toNat)], none)
  else match lead? octet with
    | some pending => ([], some pending)
    | none => ([none], none)

/-- The characters that a byte completes, and what is pending then. A byte out of bounds
ends the pending character without result and starts anew. -/
def step (pending : Option Pending) (octet : UInt8) : List (Option Char) × Option Pending :=
  match pending with
  | none => start octet
  | some pending =>
    if pending.low ≤ octet.toNat && octet.toNat ≤ pending.high then
      let bits := 64 * pending.bits + (octet.toNat - 0x80)
      if pending.following ≤ 1 then ([some (Char.ofNat bits)], none)
      else ([], some { bits, following := pending.following - 1 })
    else
      let (characters, next) := start octet
      (none :: characters, next)

def decodeFrom (pending : Option Pending) : List UInt8 → List (Option Char)
  | [] => if pending.isSome then [none] else []
  | octet :: rest =>
    let (characters, next) := step pending octet
    characters ++ decodeFrom next rest

/-- The characters of bytes; nothing stands where bytes make no character. -/
def decode (octets : List UInt8) : List (Option Char) := decodeFrom none octets

/-- The characters of bytes that are text throughout. -/
def decode? (octets : List UInt8) : Option (List Char) := (decode octets).mapM id

/-- The characters of bytes, with the replacement character where there is none. -/
def decodeReplacing (octets : List UInt8) : List Char :=
  (decode octets).map (·.getD '\uFFFD')

def encode (text : List Char) : List UInt8 := text.flatMap String.utf8EncodeChar

end MavenResolution.Text.Utf8
