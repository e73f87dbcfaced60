import Mathlib.Data.List.TakeWhile
import MavenResolution.Text.Casing
import MavenResolution.Text.Numeral

/-! Digits and small letters of ASCII texts. -/
namespace MavenResolution.Text

theorem isDigit_iff_toNat {c : Char} : c.isDigit = true ↔ 48 ≤ c.toNat ∧ c.toNat ≤ 57 := by
  simp [Char.isDigit, UInt32.le_iff_toNat_le, ← Char.toNat_val]

theorem isAlpha_iff_toNat {c : Char} :
    c.isAlpha = true ↔ 65 ≤ c.toNat ∧ c.toNat ≤ 90 ∨ 97 ≤ c.toNat ∧ c.toNat ≤ 122 := by
  have upper : c.isUpper = true ↔ 'A'.val ≤ c.val ∧ c.val ≤ 'Z'.val := decide_eq_true_iff
  have lower : c.isLower = true ↔ 'a'.val ≤ c.val ∧ c.val ≤ 'z'.val := by
    change (decide ('a'.val ≤ c.val) && decide (c.val ≤ 'z'.val)) = true ↔ _
    simp only [Bool.and_eq_true, decide_eq_true_eq]
  change (c.isUpper || c.isLower) = true ↔ _
  rw [Bool.or_eq_true, upper, lower]
  exact Iff.rfl

theorem digitValue?_of_ascii {c : Char} (ascii : c.toNat < 128) :
    digitValue? c = if c.isDigit then some (c.toNat - 48) else none := by
  rw [digitValue?, if_pos ascii]
  have same : ('0' ≤ c ∧ c ≤ '9') ↔ c.isDigit = true := by
    simp [Char.isDigit, Char.le_def]
  simp only [same]
  rfl

/-- Among the characters of ASCII there are no other digits. -/
theorem isDigit_of_ascii {c : Char} (ascii : c.toNat < 128) : isDigit c = c.isDigit := by
  have narrow : ¬128 ≤ c.toNat := by omega
  simp only [isDigit, isDecimal, digitValue?_of_ascii ascii, narrow, decide_false, Bool.false_and,
    Bool.or_false]
  cases c.isDigit <;> rfl

/-- An ASCII text has the small letters of its characters. -/
theorem lowercaseAfter_of_ascii (before : List Char) {text : List Char}
    (ascii : ∀ c ∈ text, c.toNat < 128) : lowercaseAfter before text = text.map Char.toLower := by
  induction text generalizing before with
  | nil => rfl
  | cons c rest ih =>
    obtain ⟨small, others⟩ := List.forall_mem_cons.mp ascii
    have sigma : (c == 'Σ') = false := by
      rw [beq_eq_false_iff_ne]
      rintro rfl
      exact absurd small (by decide)
    have dotted : (c == 'İ') = false := by
      rw [beq_eq_false_iff_ne]
      rintro rfl
      exact absurd small (by decide)
    simp only [lowercaseAfter, sigma, dotted, lowerChar, if_pos small, ih (c :: before) others]
    rfl

theorem lowercase_of_ascii {text : List Char} (ascii : ∀ c ∈ text, c.toNat < 128) :
    lowercase text = text.map Char.toLower :=
  lowercaseAfter_of_ascii [] ascii

theorem toLower_of_isDigit {c : Char} (digit : c.isDigit = true) : c.toLower = c := by
  have bounds := isDigit_iff_toNat.mp digit
  have noUpper : ¬(c.val ≥ 'A'.val ∧ c.val ≤ 'Z'.val) := by
    rintro ⟨above, _⟩
    have above : 65 ≤ c.toNat := above
    omega
  exact dif_neg noUpper

/-- The small letter of a letter. -/
theorem toNat_toLower_of_isAlpha {c : Char} (letter : c.isAlpha = true) :
    97 ≤ c.toLower.toNat ∧ c.toLower.toNat ≤ 122 := by
  rw [isAlpha_iff_toNat] at letter
  by_cases upper : c.val ≥ 'A'.val ∧ c.val ≤ 'Z'.val
  · have bounds : 65 ≤ c.toNat ∧ c.toNat ≤ 90 := upper
    have small : c.toLower.toNat = (c.val + ('a'.val - 'A'.val)).toNat :=
      congrArg Char.toNat (dif_pos upper)
    have sum : (c.val + ('a'.val - 'A'.val)).toNat = c.toNat + 32 := by
      simp only [UInt32.toNat_add, Char.toNat_val]
      exact Nat.mod_eq_of_lt (by simp; omega)
    omega
  · have bounds : ¬(65 ≤ c.toNat ∧ c.toNat ≤ 90) := upper
    have same : c.toLower = c := dif_neg upper
    rw [same]
    omega

theorem toNat_toLower_of_ascii {c : Char} (ascii : c.toNat < 128) : c.toLower.toNat < 128 := by
  by_cases upper : c.val ≥ 'A'.val ∧ c.val ≤ 'Z'.val
  · have letter : c.isAlpha = true := isAlpha_iff_toNat.mpr (.inl upper)
    exact (toNat_toLower_of_isAlpha letter).2.trans_lt (by decide)
  · have same : c.toLower = c := dif_neg upper
    rwa [same]

theorem readNumeral_of_ascii {run : List Char} (digits : ∀ c ∈ run, c.isDigit = true)
    (nonempty : run ≠ []) (short : run.length ≤ numeralLimit) :
    readNumeral run = .ok (digitsValue 0 run) := by
  have whole : run.takeWhile isDecimal = run := by
    rw [List.takeWhile_eq_self_iff]
    intro c member
    have digit := digits c member
    have bounds := isDigit_iff_toNat.mp digit
    simp [isDecimal, digitValue?_of_ascii (c := c) (by omega), digit]
  simp [readNumeral, whole, Nat.not_lt.mpr short, nonempty]

end MavenResolution.Text
