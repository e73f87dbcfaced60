import Mathlib.Tactic.Ring
import MavenResolution.Decimal.Binary64

/-! Whole numbers that are too large for a binary number of double precision: those from halfway between the
greatest one and the next power of two on. -/
namespace MavenResolution.Decimal.Binary64

variable {n : Nat} {negative : Bool}

/-- The exponent of half the distance between the greatest numbers. -/
def halfStepExponent : Nat := 970

def halfStep : Nat := 2 ^ halfStepExponent

/-- The least whole number that is too large: half a step below two to the power of 1024. -/
def overflowBound : Nat := 2 ^ 54 * halfStep - halfStep

theorem halfStep_pos : 0 < halfStep := Nat.two_pow_pos _

theorem two_pow_add (places : Nat) : 2 ^ (places + halfStepExponent) = 2 ^ places * halfStep := Nat.pow_add ..

theorem scale_natCast (numerator exponent : Nat) :
    scale numerator 1 exponent = (numerator, 2 ^ exponent) := by
  simp [scale]

/-- The exponent of a whole number is at most the one with which its mantissa has all its digits. -/
theorem exponentOf_le (n : Nat) : exponentOf n 1 ≤ max leastExponent ((n.log2 : Int) - 52) := by
  have one : Nat.log2 1 = 0 := by decide
  unfold exponentOf
  rw [one]
  dsimp only
  split <;> omega

theorem exponentOf_of_large (large : 53 ≤ n.log2) : exponentOf n 1 = (n.log2 : Int) - 52 := by
  have positive : n ≠ 0 := by
    rintro rfl
    exact absurd large (by decide)
  obtain ⟨shift, split⟩ := Nat.exists_eq_add_of_le large
  have wide : mantissaLimit ≤ n / 2 ^ shift := by
    rw [Nat.le_div_iff_mul_le (Nat.two_pow_pos _), mantissaLimit, Nat.pow_eq, ← Nat.pow_add, ← split]
    exact Nat.log2_self_le positive
  have one : Nat.log2 1 = 0 := by decide
  have exponent : (n.log2 : Int) - (0 : Nat) - 53 = (shift : Nat) := by omega
  unfold exponentOf
  rw [one, exponent]
  simp only [scale_natCast, if_neg (Nat.not_lt.mpr wide), leastExponent]
  omega

/-- A quotient below an even number is rounded to it from halfway on. -/
theorem roundDiv_eq_iff {half limit : Nat} (positive : 0 < half) (even : limit % 2 = 0)
    (below : n < limit * (2 * half)) : roundDiv n (2 * half) = limit ↔ limit * (2 * half) - half ≤ n := by
  have quotient_lt : n / (2 * half) < limit := (Nat.div_lt_iff_lt_mul (by omega)).mpr below
  have rest_lt : n % (2 * half) < 2 * half := Nat.mod_lt n (by omega)
  have whole := Nat.div_add_mod n (2 * half)
  unfold roundDiv
  generalize n / (2 * half) = quotient at *
  generalize n % (2 * half) = rest at *
  obtain ⟨gap, rfl⟩ := Nat.exists_eq_add_of_lt quotient_lt
  have product : (quotient + gap + 1) * (2 * half) = 2 * half * quotient + 2 * half * gap + 2 * half := by ring
  rw [product]
  cases gap with
  | zero =>
    dsimp only
    split
    · omega
    · split
      · omega
      · split <;> omega
  | succ gap =>
    have wide : 2 * half ≤ 2 * half * (gap + 1) := Nat.le_mul_of_pos_right _ (by omega)
    refine iff_of_false ?_ (by omega)
    dsimp only
    split
    · omega
    · split
      · omega
      · split <;> omega

/-- A number is infinite if its exponent is too large, be it because its mantissa was rounded up. -/
theorem ofRatio_infinite_iff_exponent (positive : n ≠ 0) :
    (∃ sign, ofRatio negative n 1 = .infinite sign) ↔ greatestExponent < exponentOf n 1 ∨
      exponentOf n 1 = greatestExponent ∧
        roundDiv (scale n 1 (exponentOf n 1)).1 (scale n 1 (exponentOf n 1)).2 = mantissaLimit := by
  rw [ofRatio, if_neg positive]
  dsimp only
  by_cases rounded : roundDiv (scale n 1 (exponentOf n 1)).1 (scale n 1 (exponentOf n 1)).2 = mantissaLimit
  · rw [if_pos rounded]
    by_cases large : greatestExponent < exponentOf n 1 + 1
    · exact iff_of_true ⟨negative, if_pos large⟩ (by omega)
    · rw [if_neg large]
      exact iff_of_false nofun (by omega)
  · rw [if_neg rounded]
    by_cases large : greatestExponent < exponentOf n 1
    · exact iff_of_true ⟨negative, if_pos large⟩ (.inl large)
    · rw [if_neg large]
      exact iff_of_false nofun (by simp [rounded, large])

theorem ofRatio_infinite_iff : (∃ sign, ofRatio negative n 1 = .infinite sign) ↔ overflowBound ≤ n := by
  have half := halfStep_pos
  have known : halfStepExponent = 970 := rfl
  unfold overflowBound
  by_cases zero : n = 0
  · subst zero
    exact iff_of_false nofun (by omega)
  rw [ofRatio_infinite_iff_exponent zero, greatestExponent]
  have least := Nat.log2_self_le zero
  have most := @Nat.lt_log2_self n
  rcases Nat.lt_trichotomy n.log2 1023 with small | same | large
  · have exponent := exponentOf_le n
    have bound : 2 ^ (n.log2 + 1) ≤ 2 ^ (53 + halfStepExponent) := Nat.pow_le_pow_right (by decide) (by omega)
    rw [two_pow_add] at bound
    rw [leastExponent] at exponent
    exact iff_of_false (by omega) (by omega)
  · have exponent : exponentOf n 1 = (1 + halfStepExponent : Nat) := by
      rw [exponentOf_of_large (by omega)]
      omega
    have places : n.log2 + 1 = 54 + halfStepExponent := by omega
    rw [places, two_pow_add] at most
    rw [exponent, scale_natCast, two_pow_add, Nat.pow_one, mantissaLimit, Nat.pow_eq,
      roundDiv_eq_iff half rfl (by omega)]
    omega
  · have exponent := @exponentOf_of_large n (by omega)
    have bound : 2 ^ (54 + halfStepExponent) ≤ 2 ^ n.log2 := Nat.pow_le_pow_right (by decide) (by omega)
    rw [two_pow_add] at bound
    exact iff_of_true (by omega) (by omega)

end MavenResolution.Decimal.Binary64
