/-! Binary numbers of double precision: a sign, a whole number below two to the fifty-third, and a
power of two. A quotient is rounded to the nearest of them, a tie to the even one. -/
namespace MavenResolution.Decimal

inductive Binary64 where
  | nan
  | infinite (negative : Bool)
  /-- The number `mantissa * 2 ^ exponent`; the mantissa is as large as it can be. -/
  | finite (negative : Bool) (mantissa : Nat) (exponent : Int)
  deriving DecidableEq, Repr

namespace Binary64

/-- Numbers of this size and above have too long a mantissa. -/
def mantissaLimit : Nat := Nat.pow 2 53

def leastExponent : Int := -1074

def greatestExponent : Int := 971

def zero (negative : Bool) : Binary64 := .finite negative 0 leastExponent

/-- The whole number nearest to a quotient, a tie to the even one. -/
def roundDiv (numerator denominator : Nat) : Nat :=
  let quotient := numerator / denominator
  let rest := 2 * (numerator % denominator)
  if rest < denominator then quotient
  else if denominator < rest then quotient + 1
  else if quotient % 2 = 0 then quotient else quotient + 1

/-- A quotient divided by a power of two, as numerator and denominator. -/
def scale (numerator denominator : Nat) (exponent : Int) : Nat × Nat :=
  if 0 ≤ exponent then (numerator, denominator * Nat.pow 2 exponent.toNat)
  else (numerator * Nat.pow 2 (-exponent).toNat, denominator)

/-- The exponent with which the mantissa of a quotient is as large as it can be. -/
def exponentOf (numerator denominator : Nat) : Int :=
  let exponent : Int := numerator.log2 - denominator.log2 - 53
  let (n, d) := scale numerator denominator exponent
  max leastExponent (if n / d < mantissaLimit then exponent else exponent + 1)

/-- The number nearest to a quotient of whole numbers. -/
def ofRatio (negative : Bool) (numerator denominator : Nat) : Binary64 :=
  if numerator = 0 then zero negative
  else
    let exponent := exponentOf numerator denominator
    let (n, d) := scale numerator denominator exponent
    let mantissa := roundDiv n d
    let (mantissa, exponent) :=
      if mantissa = mantissaLimit then (mantissa / 2, exponent + 1) else (mantissa, exponent)
    if greatestExponent < exponent then .infinite negative
    else .finite negative mantissa exponent

/-- Numbers with more digits in front of the point are infinite. -/
def mostDigits : Nat := 400

/-- The number nearest to `digits * 10 ^ power`. -/
def ofDecimal (negative : Bool) (digits : Nat) (power : Int) : Binary64 :=
  let places := (toString digits).length
  if digits = 0 then zero negative
  else if mostDigits < (places : Int) + power then .infinite negative
  else if (places : Int) + power < -mostDigits then zero negative
  else if 0 ≤ power then ofRatio negative (digits * Nat.pow 10 power.toNat) 1
  else ofRatio negative digits (Nat.pow 10 (-power).toNat)

def ofInt (n : Int) : Binary64 := ofRatio (n < 0) n.natAbs 1

/-- The whole number that is left of a number without its fraction. -/
def truncate? : Binary64 → Option Int
  | .finite negative mantissa exponent =>
    let size : Int :=
      if 0 ≤ exponent then mantissa * Nat.pow 2 exponent.toNat else mantissa / Nat.pow 2 (-exponent).toNat
    some (if negative then -size else size)
  | _ => none

end Binary64
end MavenResolution.Decimal
