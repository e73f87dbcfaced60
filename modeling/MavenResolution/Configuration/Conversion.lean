import MavenResolution.Text.Blank
import MavenResolution.Yaml.Value

/-! Values turned into what a setting needs: a whole number, a number or a text. -/
namespace MavenResolution.Configuration

open Decimal Text Yaml

inductive ConversionFault where
  /-- The value does not say what the setting needs. -/
  | unsuitable
  /-- A whole number is needed, and the value has no end. -/
  | infinite
  /-- A number is needed, and the whole number is too large for one. -/
  | tooLarge
  deriving DecidableEq, Repr

def ConversionFault.message : ConversionFault → String
  | .unsuitable => "unsuitable value"
  | .infinite => "cannot convert float infinity to integer"
  | .tooLarge => "int too large to convert to float"

/-- White space around a numeral. -/
def isPadding (c : Char) : Bool :=
  if c.toNat < 128 then c == ' ' || (9 ≤ c.toNat && c.toNat ≤ 13) else isBlank c

def trimPadding (text : List Char) : List Char :=
  ((text.dropWhile isPadding).reverse.dropWhile isPadding).reverse

/-- Decimal digits of any script as Latin ones. -/
def latinDigit (c : Char) : Char :=
  match digitValue? c with
  | some value => Char.ofNat ('0'.toNat + value)
  | none => c

/-- A text without low lines, each of which stands between two digits. -/
def dropSeparators : (afterDigit : Bool) → List Char → Option (List Char)
  | _, [] => some []
  | afterDigit, c :: rest =>
    if c == '_' then
      if afterDigit && (rest.head?.map Char.isDigit).getD false then dropSeparators false rest
      else none
    else (c :: ·) <$> dropSeparators c.isDigit rest

/-- The characters of a numeral: Latin digits, nothing around them. -/
def numeral? (text : String) : Option (List Char) :=
  dropSeparators false ((trimPadding text.toList).map latinDigit)

def cutSign : List Char → Bool × List Char
  | '-' :: rest => (true, rest)
  | '+' :: rest => (false, rest)
  | text => (false, text)

def signed (negative : Bool) (size : Nat) : Int := if negative then -(size : Int) else size

/-- The whole number that a text denotes. -/
def integerOfText? (text : String) : Option Int := do
  let (negative, digits) := cutSign (← numeral? text)
  guard (digits.all Char.isDigit)
  let size ← (readNumeral digits).toOption
  return signed negative size

/-- The power of ten that a text with a mark in front of it denotes. -/
def powerOfText? : List Char → Option Int
  | [] => some 0
  | mark :: rest => do
    guard (mark == 'e' || mark == 'E')
    let (negative, digits) := cutSign rest
    guard (!digits.isEmpty && digits.all Char.isDigit)
    return signed negative (digitsValue 0 digits)

/-- The number that digits, a point and an exponent denote. -/
def decimalOfText? (negative : Bool) (text : List Char) : Option Binary64 := do
  let (whole, rest) := text.span Char.isDigit
  let (fraction, rest) := match rest with
    | '.' :: rest => rest.span Char.isDigit
    | rest => ([], rest)
  guard (!(whole ++ fraction).isEmpty)
  let power ← powerOfText? rest
  return Binary64.ofDecimal negative (digitsValue 0 (whole ++ fraction)) (power - fraction.length)

/-- The number that a text denotes. -/
def numberOfText? (text : String) : Option Binary64 := do
  let (negative, size) := cutSign (← numeral? text)
  match String.ofList (size.map Char.toLower) with
  | "inf" => return .infinite negative
  | "infinity" => return .infinite negative
  | "nan" => return .nan
  | _ => decimalOfText? negative size

variable {α : Type} [Object α]

/-- A value as a whole number; fractions are dropped. -/
def toInteger : Data α → Except ConversionFault Int
  | .boolean value => .ok (if value then 1 else 0)
  | .integer value => .ok value
  | .number (.infinite _) => .error .infinite
  | .number value => (value.truncate?.map .ok).getD (.error .unsuitable)
  | .text value => ((integerOfText? value).map .ok).getD (.error .unsuitable)
  | .object value => ((Object.integer? value).map .ok).getD (.error .unsuitable)
  | .null | .moment _ | .sequence _ | .mapping _ => .error .unsuitable

/-- A value as a number. -/
def toNumber : Data α → Except ConversionFault Binary64
  | .boolean value => .ok (Binary64.ofInt (if value then 1 else 0))
  | .integer value =>
    match Binary64.ofInt value with
    | .infinite _ => .error .tooLarge
    | number => .ok number
  | .number value => .ok value
  | .text value => ((numberOfText? value).map .ok).getD (.error .unsuitable)
  | .object value => ((Object.number? value).map .ok).getD (.error .unsuitable)
  | .null | .moment _ | .sequence _ | .mapping _ => .error .unsuitable

/-- A value as a text: texts and moments are themselves, and the others are as `repr` shows them. -/
def toText : Data α → Except ConversionFault String
  | .text value => .ok value
  | .moment value => .ok value.text
  | value => if value.isWritable then .ok value.shown else .error .unsuitable

end MavenResolution.Configuration
