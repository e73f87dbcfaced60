import MavenResolution.Proofs.Version.Greatest
import MavenResolution.Proofs.Version.Transitivity

/-! How two versions stand to each other. One of them is lower, or both are equal, and seen from the other side
it is the same; this holds of all versions, also of those among which the order is not transitive. -/
namespace MavenResolution.Version

variable {left right : Version}

/-! The operators say what the comparison says. -/

theorem isBelow_iff : left.isBelow right = true ↔ left.compare right = .lt := beq_iff_eq

theorem equals_iff : left.equals right = true ↔ left.compare right = .eq := beq_iff_eq

theorem isAbove_iff : left.isAbove right = true ↔ left.compare right = .gt := by
  unfold isAbove isBelow equals
  cases left.compare right <;> decide

theorem isAtMost_iff : left.isAtMost right = true ↔ left.compare right ≠ .gt := by
  unfold isAtMost isBelow equals
  cases left.compare right <;> decide

theorem isAtLeast_iff : left.isAtLeast right = true ↔ left.compare right ≠ .lt := by
  unfold isAtLeast isBelow
  cases left.compare right <;> decide

/-- One of the three holds, and no other. -/
theorem count_operators (left right : Version) :
    [left.isBelow right, left.equals right, left.isAbove right].count true = 1 := by
  unfold isAbove isBelow equals
  cases left.compare right <;> decide

theorem isAtLeast_eq (left right : Version) :
    left.isAtLeast right = (left.isAbove right || left.equals right) := by
  rw [Bool.eq_iff_iff, Bool.or_eq_true, isAtLeast_iff, isAbove_iff, equals_iff]
  cases left.compare right <;> decide

/-! The operators the other way round. -/

theorem isAbove_eq_isBelow (left right : Version) : left.isAbove right = right.isBelow left := by
  rw [Bool.eq_iff_iff, isAbove_iff, isBelow_iff, compare_swap left right, Ordering.swap_eq_lt]

theorem equals_comm (left right : Version) : left.equals right = right.equals left := by
  rw [Bool.eq_iff_iff, equals_iff, equals_iff, compare_swap left right, Ordering.swap_eq_eq]

theorem isAtLeast_eq_isAtMost (left right : Version) : left.isAtLeast right = right.isAtMost left := by
  rw [isAtLeast_eq, isAbove_eq_isBelow, equals_comm]
  rfl

/-- Any two versions compare the other way round in reverse, and every version equals itself. Exactly one of
below, equal and above holds, as the comparison says, and the operators that allow equality are put together
from these. -/
theorem compareTexts_antisymmetric {a b : String} {u v : Version} (readA : ofText a = .ok u)
    (readB : ofText b = .ok v) :
    (∃ order, compareTexts a b = .ok order ∧ compareTexts b a = .ok order.swap ∧
      (u.isBelow v = true ↔ order = .lt) ∧ (u.equals v = true ↔ order = .eq) ∧
      (u.isAbove v = true ↔ order = .gt) ∧ (u.isAtMost v = true ↔ order ≠ .gt) ∧
      (u.isAtLeast v = true ↔ order ≠ .lt)) ∧
    compareTexts a a = .ok .eq ∧
    [u.isBelow v, u.equals v, u.isAbove v].count true = 1 ∧
    u.isAtMost v = (u.isBelow v || u.equals v) ∧ u.isAtLeast v = (u.isAbove v || u.equals v) ∧
    u.isAbove v = v.isBelow u ∧ u.equals v = v.equals u ∧ u.isAtLeast v = v.isAtMost u := by
  refine ⟨⟨u.compare v, compareTexts_eq readA readB, ?_, isBelow_iff, equals_iff, isAbove_iff, isAtMost_iff,
    isAtLeast_iff⟩, ?_, count_operators u v, rfl, isAtLeast_eq u v, isAbove_eq_isBelow u v, equals_comm u v,
    isAtLeast_eq_isAtMost u v⟩
  · rw [compareTexts_eq readB readA, compare_swap u v]
  · rw [compareTexts_eq readA readA, compare_self]

/-- A qualifier behind a dot and one in a nested list. -/
theorem compareTexts_antisymmetric_qualifiers :
    let u : Version := ⟨"1.sp", [.number 1, .qualifier "sp"]⟩
    let v : Version := ⟨"1-alpha", [.number 1, .nested [.qualifier "alpha"]]⟩
    ofText "1.sp" = .ok u ∧ ofText "1-alpha" = .ok v ∧
      (∃ order, compareTexts "1.sp" "1-alpha" = .ok order ∧
        compareTexts "1-alpha" "1.sp" = .ok order.swap) ∧
      [u.isBelow v, u.equals v, u.isAbove v].count true = 1 ∧ u.isAbove v = v.isBelow u := by
  intro u v
  have readU : ofText "1.sp" = .ok u := rfl
  have readV : ofText "1-alpha" = .ok v := rfl
  obtain ⟨⟨order, forth, back, -⟩, -, one, -, -, mirrored, -⟩ := compareTexts_antisymmetric readU readV
  exact ⟨readU, readV, ⟨order, forth, back⟩, one, mirrored⟩

end MavenResolution.Version
