import MavenResolution.Decimal.Binary64

/-! The shortest decimals that stand for binary numbers: the fewest digits that read back, and of
several decimals with so few digits the nearest one. -/
namespace MavenResolution.Decimal

/-- A number `digits * 10 ^ power`. -/
structure Shortest where
  digits : Nat
  power : Int
  deriving DecidableEq, Repr

namespace Shortest

/-- A positive number as a quotient. -/
def ratio (mantissa : Nat) (exponent : Int) : Nat × Nat :=
  if 0 ≤ exponent then (mantissa * Nat.pow 2 exponent.toNat, 1)
  else (mantissa, Nat.pow 2 (-exponent).toNat)

/-- The quotient of a number and a power of ten. -/
def gridRatio (number : Nat × Nat) (power : Int) : Nat × Nat :=
  if 0 ≤ power then (number.1, number.2 * Nat.pow 10 power.toNat)
  else (number.1 * Nat.pow 10 (-power).toNat, number.2)

/-- How many digits a number has in front of the point, counted on below one as negative. It is
looked for upwards from a bound. -/
def placesFrom (number : Nat × Nat) : (fuel : Nat) → Int → Int
  | 0, places => places
  | fuel + 1, places =>
    let (n, d) := gridRatio number places
    if n < d then places else placesFrom number fuel (places + 1)

def places (number : Nat × Nat) : Int :=
  let estimate : Int := ((number.1.log2 : Int) - number.2.log2 - 1) * 30103 / 100000 - 1
  placesFrom number 8 estimate

/-- A decimal that stands for a number, with as many digits as given: the nearer one of the
number's neighbours, the even one of two. -/
def withDigits? (mantissa : Nat) (exponent : Int) (count : Nat) : Option Shortest :=
  let number := ratio mantissa exponent
  let power := places number - count
  let (n, d) := gridRatio number power
  let below := n / d
  let standsFor (digits : Nat) : Bool :=
    Binary64.ofDecimal false digits power == .finite false mantissa exponent
  let nearest := Binary64.roundDiv n d
  let other := if nearest = below then below + 1 else below
  if standsFor nearest then some ⟨nearest, power⟩
  else if standsFor other then some ⟨other, power⟩
  else none

/-- Seventeen digits are always enough. -/
def ofParts (mantissa : Nat) (exponent : Int) : Shortest :=
  ((List.range 17).findSome? fun i => withDigits? mantissa exponent (i + 1)).getD ⟨0, 0⟩

/-- A decimal point stands inside the digits from the first to the second of these numbers of
places; other numbers are written with an exponent. -/
def leastPlaces : Int := -3

def mostPlaces : Int := 16

def exponentText (n : Int) : String :=
  let size := toString n.natAbs
  (if n < 0 then "-" else "+") ++ (if size.length < 2 then "0" ++ size else size)

def zeros (n : Nat) : String := String.ofList (List.replicate n '0')

/-- A decimal with a point or an exponent. -/
def text (decimal : Shortest) : String :=
  let trailing := ((toString decimal.digits).toList.reverse.takeWhile (· == '0')).length
  let digits := (toString decimal.digits).toList.take ((toString decimal.digits).length - trailing)
  let places := (digits.length : Int) + trailing + decimal.power
  if mostPlaces < places || places < leastPlaces then
    let fraction := digits.drop 1
    String.ofList (digits.take 1) ++
      (if fraction.isEmpty then "" else "." ++ String.ofList fraction) ++
      "e" ++ exponentText (places - 1)
  else if places ≤ 0 then "0." ++ zeros (-places).toNat ++ String.ofList digits
  else
    let whole := digits.take places.toNat
    let fraction := digits.drop places.toNat
    String.ofList whole ++ zeros (places.toNat - digits.length) ++ "." ++
      (if fraction.isEmpty then "0" else String.ofList fraction)

end Shortest

/-- A binary number as the shortest decimal that stands for it. -/
def Binary64.text : Binary64 → String
  | .nan => "nan"
  | .infinite negative => if negative then "-inf" else "inf"
  | .finite negative mantissa exponent =>
    (if negative then "-" else "") ++
      (if mantissa = 0 then "0.0" else (Shortest.ofParts mantissa exponent).text)

end MavenResolution.Decimal
