import MavenResolution.Text.Digit
import MavenResolution.Text.Quoted

/-! Numerals. A numeral has at most 4300 digits, whether it is read or written. -/
namespace MavenResolution.Text

def numeralLimit : Nat := 4300

inductive NumeralError where
  /-- The text is no numeral. -/
  | notNumeral (text : String)
  /-- The text has more digits than are read. -/
  | tooLong (digits : Nat)
  /-- The number has more digits than are written. -/
  | tooLarge
  deriving DecidableEq, Repr

def NumeralError.message : NumeralError → String
  | .notNumeral text => "invalid literal for int() with base 10: " ++ quote text
  | .tooLong digits =>
    "Exceeds the limit (4300 digits) for integer string conversion: value has " ++
      toString digits ++ " digits; use sys.set_int_max_str_digits() to increase the limit"
  | .tooLarge =>
    "Exceeds the limit (4300 digits) for integer string conversion; " ++
      "use sys.set_int_max_str_digits() to increase the limit"

/-- The value of decimal digits, read after a number with the value `value`. -/
def digitsValue (value : Nat) : List Char → Nat
  | [] => value
  | c :: rest => digitsValue (10 * value + (digitValue? c).getD 0) rest

/-- The number that a run of digits denotes. A run that is too long is refused for its length
if the digits in front of the first one without a place value are already too many. -/
def readNumeral (run : List Char) : Except NumeralError Nat :=
  let leading := (run.takeWhile isDecimal).length
  if numeralLimit < leading then .error (.tooLong leading)
  else if run.isEmpty || leading < run.length then .error (.notNumeral (String.ofList run))
  else .ok (digitsValue 0 run)

/-- The decimal digits of a number, as far as they are written. -/
def writeNumeral (n : Nat) : Except NumeralError String :=
  let digits := toString n
  if digits.length ≤ numeralLimit then .ok digits else .error .tooLarge

end MavenResolution.Text
