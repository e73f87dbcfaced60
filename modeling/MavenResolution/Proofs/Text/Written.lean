import Mathlib.Algebra.Group.Nat.Defs
import MavenResolution.Proofs.Text.Ascii

/-! Numbers as they are written: decimal digits of ASCII without needless zeros. -/
namespace MavenResolution.Text

variable {n : Nat} {c : Char}

def written (n : Nat) : List Char := (toString n).toList

theorem written_eq_toDigits (n : Nat) : written n = Nat.toDigits 10 n := by
  rw [written, Nat.toString_eq_ofList_toDigits, String.toList_ofList]

theorem written_ne_nil (n : Nat) : written n ≠ [] := by
  rw [written_eq_toDigits]
  exact Nat.toDigits_ne_nil

theorem isDigit_of_mem_written (member : c ∈ written n) : c.isDigit = true := by
  rw [written_eq_toDigits] at member
  exact Nat.isDigit_of_mem_toDigits (by decide) (by decide) member

theorem isDecimal_of_isDigit (digit : c.isDigit = true) : isDecimal c = true := by
  have bounds := isDigit_iff_toNat.mp digit
  rw [isDecimal, digitValue?_of_ascii (by omega), if_pos digit]
  rfl

theorem lt_pow_length_written (n : Nat) : n < 10 ^ (written n).length := by
  rw [written_eq_toDigits]
  exact (Nat.length_toDigits_le_iff (by decide) Nat.length_toDigits_pos).mp le_rfl

theorem digitsValue_eq_ofDigitChars {run : List Char} (digits : ∀ c ∈ run, c.isDigit = true) (value : Nat) :
    digitsValue value run = Nat.ofDigitChars 10 run value := by
  induction run generalizing value with
  | nil => rfl
  | cons c rest ih =>
    obtain ⟨digit, others⟩ := List.forall_mem_cons.mp digits
    have bounds := isDigit_iff_toNat.mp digit
    rw [digitsValue, digitValue?_of_ascii (by omega), if_pos digit, ih others]
    rfl

theorem digitsValue_written (n : Nat) : digitsValue 0 (written n) = n := by
  rw [digitsValue_eq_ofDigitChars fun c => isDigit_of_mem_written, written_eq_toDigits]
  exact Nat.ofDigitChars_ten_toDigits

/-- No number but zero is written with a zero in front. -/
theorem exists_written_eq_cons (positive : 0 < n) :
    ∃ c rest, written n = c :: rest ∧ '1' ≤ c ∧ c ≤ '9' := by
  induction n using Nat.strong_induction_on with
  | _ n ih =>
    rw [written_eq_toDigits]
    by_cases small : n < 10
    · have digit : ∀ n < 10, 0 < n → '1' ≤ n.digitChar ∧ n.digitChar ≤ '9' := by decide
      exact ⟨n.digitChar, [], Nat.toDigits_of_lt_base small, digit n small positive⟩
    · obtain ⟨c, rest, front, bounds⟩ := ih (n / 10) (by omega) (by omega)
      rw [written_eq_toDigits] at front
      refine ⟨c, rest ++ [(n % 10).digitChar], ?_, bounds⟩
      rw [Nat.toDigits_of_base_le (by decide) (by omega), front]
      rfl

end MavenResolution.Text
