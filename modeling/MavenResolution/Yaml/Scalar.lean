import MavenResolution.Text.Pieces
import MavenResolution.Yaml.Value

/-! Scalars without quotes: what they look like says of which kind they are. -/
namespace MavenResolution.Yaml

open Decimal Text

inductive Fault where
  | malformed
  | numeral (fault : NumeralError)
  /-- A numeral of another base without digits. -/
  | noDigits (base : Nat)
  | moment (fault : Moment.Fault)
  /-- Another fault than these. -/
  | other (message : String)
  deriving DecidableEq, Repr

/-- What is wrong with a scalar. Documents that are malformed are told of in other words. -/
def Fault.message : Fault → String
  | .malformed => "malformed document"
  | .numeral fault => fault.message
  | .noDigits base => "invalid literal for int() with base " ++ toString base ++ ": \'\'"
  | .moment fault => fault.message
  | .other message => message

namespace Scalar

def nullWords : List String := ["", "~", "null", "Null", "NULL"]

def trueWords : List String :=
  ["yes", "Yes", "YES", "true", "True", "TRUE", "on", "On", "ON"]

def falseWords : List String :=
  ["no", "No", "NO", "false", "False", "FALSE", "off", "Off", "OFF"]

def isLatinDigit (c : Char) : Bool := '0' ≤ c && c ≤ '9'

def isDigitOrGap (c : Char) : Bool := isLatinDigit c || c == '_'

/-- Whether a sign makes a number negative, and the text behind it. -/
def cutSign : List Char → Bool × List Char
  | '-' :: rest => (true, rest)
  | '+' :: rest => (false, rest)
  | text => (false, text)

def dropGaps (text : List Char) : List Char := text.filter (· != '_')

def hexValue? (c : Char) : Option Nat :=
  if isLatinDigit c then some (c.toNat - '0'.toNat)
  else if 'a' ≤ c && c ≤ 'f' then some (c.toNat - 'a'.toNat + 10)
  else if 'A' ≤ c && c ≤ 'F' then some (c.toNat - 'A'.toNat + 10)
  else none

def isDigitOf (base : Nat) (c : Char) : Bool := (hexValue? c).any (· < base)

/-- The number that digits denote. -/
def valueOf (base : Nat) (digits : List Char) : Nat :=
  digits.foldl (fun value c => base * value + (hexValue? c).getD 0) 0

def signed (negative : Bool) (size : Nat) : Int := if negative then -(size : Int) else size

/-- The number that digits of another base than ten denote, gaps left out. -/
def ofBase (negative : Bool) (base : Nat) (text : List Char) : Except Fault Int :=
  let digits := dropGaps text
  if digits.isEmpty then .error (.noDigits base) else .ok (signed negative (valueOf base digits))

/-- A group of digits behind a colon: the number of minutes or seconds. -/
def isSixty (text : List Char) : Bool :=
  match text with
  | [a] => isLatinDigit a
  | [a, b] => '0' ≤ a && a ≤ '5' && isLatinDigit b
  | _ => false

/-- A numeral whose groups count in sixties. -/
def sixties (groups : List (List Char)) : Nat :=
  groups.foldl (fun value group => 60 * value + valueOf 10 (dropGaps group)) 0

/-- Digits with gaps, a digit first. -/
def isGapped (text : List Char) : Bool :=
  (text.head?.map isLatinDigit).getD false && text.all isDigitOrGap

/-- The text is a whole number. -/
def integer? (text : List Char) : Option (Except Fault Int) :=
  let (negative, size) := cutSign text
  let decimal (digits : List Char) : Except Fault Int :=
    match readNumeral (dropGaps digits) with
    | .ok value => .ok (signed negative value)
    | .error fault => .error (.numeral fault)
  match size with
  | ['0'] => some (.ok 0)
  | '0' :: 'b' :: rest =>
    if !rest.isEmpty && rest.all (fun c => isDigitOf 2 c || c == '_') then
      some (ofBase negative 2 rest)
    else none
  | '0' :: 'x' :: rest =>
    if !rest.isEmpty && rest.all (fun c => isDigitOf 16 c || c == '_') then
      some (ofBase negative 16 rest)
    else none
  | '0' :: rest =>
    if rest.all (fun c => isDigitOf 8 c || c == '_') then
      some (.ok (signed negative (valueOf 8 (dropGaps rest))))
    else none
  | _ =>
    if isGapped size then some (decimal size)
    else match pieces ':' size with
      | first :: others =>
        if isGapped first && !others.isEmpty && others.all isSixty then
          some (.ok (signed negative (sixties (first :: others))))
        else none
      | [] => none

/-- The power of ten behind an exponent mark. A sign is not optional. -/
def power? : List Char → Option Int
  | [] => some 0
  | mark :: rest =>
    if mark == 'e' || mark == 'E' then
      match rest with
      | sign :: digits =>
        if (sign == '-' || sign == '+') && !digits.isEmpty && digits.all isLatinDigit then
          some (signed (sign == '-') (valueOf 10 digits))
        else none
      | [] => none
    else none

/-- A number with a point: the digits in front of it and behind it, and a power of ten. -/
def pointed (negative : Bool) (whole fraction : List Char) (power : Int) : Binary64 :=
  let fraction := dropGaps fraction
  Binary64.ofDecimal negative (valueOf 10 (dropGaps whole ++ fraction)) (power - fraction.length)

/-- The text is a number with a point, or one of the words for what is no number. -/
def number? (text : List Char) : Option Binary64 :=
  let (negative, size) := cutSign text
  let hasSign := size.length < text.length
  if [".inf", ".Inf", ".INF"].any (·.toList == size) then some (.infinite negative)
  else if [".nan", ".NaN", ".NAN"].any (·.toList == text) then some .nan
  else
    let (whole, rest) := size.span (· != '.')
    match rest with
    | '.' :: rest =>
      let (fraction, rest) := rest.span isDigitOrGap
      if isGapped whole then (power? rest).map (pointed negative whole fraction)
      else if whole.isEmpty then
        if !hasSign && isGapped fraction then (power? rest).map (pointed negative [] fraction)
        else none
      else match pieces ':' whole with
        | first :: others =>
          if isGapped first && !others.isEmpty && others.all isSixty && rest.isEmpty then
            let seconds := sixties (first :: others)
            let digits := dropGaps fraction
            some (Binary64.ofDecimal negative
              (seconds * Nat.pow 10 digits.length + valueOf 10 digits) (-digits.length))
          else none
        | [] => none
    | _ => none

/-- What a scalar without quotes stands for. The marks for merged and for default values stand
for nothing here. -/
def resolve (text : List Char) : Except Fault Value :=
  let word := String.ofList text
  if trueWords.contains word then .ok (.boolean true)
  else if falseWords.contains word then .ok (.boolean false)
  else if nullWords.contains word then .ok .null
  else if word = "<<" || word = "=" then .error .malformed
  else match number? text with
    | some value => .ok (.number value)
    | none => match integer? text with
      | some (.ok value) => .ok (.integer value)
      | some (.error fault) => .error fault
      | none => match Moment.ofText? text with
        | some moment => (moment.check.map .moment).mapError .moment
        | none => .ok (.text word)

end Scalar
end MavenResolution.Yaml
