import Mathlib.Data.List.DropRight
import Mathlib.Data.List.TakeWhile
import MavenResolution.Text.Blank
import MavenResolution.Text.Digit

/-! White space is no part of a numeral, and none of it is left at the ends of a trimmed text. -/
namespace MavenResolution.Text

variable {text blanks : List Char}

theorem isDecimal_of_isBlank {c : Char} (blank : isBlank c = true) : isDecimal c = false := by
  unfold isBlank at blank
  unfold isDecimal digitValue?
  split at blank
  · rename_i narrow
    rw [if_pos narrow, if_neg]
    · rfl
    · rintro ⟨above, below⟩
      have above : 48 ≤ c.toNat := above
      have below : c.toNat ≤ 57 := below
      have other : (c == ' ') = false := by
        rw [beq_eq_false_iff_ne]
        rintro rfl
        exact absurd above (by decide)
      simp only [other, Bool.false_or, Bool.or_eq_true, Bool.and_eq_true, decide_eq_true_eq] at blank
      omega
  · rename_i wide
    have apart : ∀ range ∈ wideBlanks, ∀ start ∈ zeros, range.2 < start ∨ start + 10 ≤ range.1 := by
      decide
    rw [inRanges, List.any_eq_true] at blank
    obtain ⟨range, member, inside⟩ := blank
    rw [Bool.and_eq_true, decide_eq_true_eq, decide_eq_true_eq] at inside
    rw [if_neg wide, Option.isSome_map, Bool.eq_false_iff, ne_eq, List.find?_isSome]
    rintro ⟨start, zero, counted⟩
    rw [Bool.and_eq_true, decide_eq_true_eq, decide_eq_true_eq] at counted
    rcases apart range member start zero with below | above <;> omega

theorem not_isBlank_getLast?_trim (text : List Char) : ∀ c ∈ (trim text).getLast?, isBlank c = false := by
  intro c member
  obtain ⟨nonempty, rfl⟩ := List.mem_getLast?_eq_getLast member
  exact Bool.eq_false_iff.mpr (List.rdropWhile_last_not isBlank (dropBlanks text) nonempty)

/-- What is passed over ends where a character does not pass. -/
theorem not_of_mem_head?_dropWhile (holds : Char → Bool) (text : List Char) :
    ∀ c ∈ (text.dropWhile holds).head?, holds c = false := by
  have ended := List.head?_dropWhile_not holds text
  intro c head
  rwa [Option.mem_def.mp head] at ended

theorem dropBlanks_append (blank : ∀ c ∈ blanks, isBlank c = true) (text : List Char) :
    dropBlanks (blanks ++ text) = dropBlanks text :=
  List.dropWhile_append_of_pos blank

theorem trim_blanks_append (blank : ∀ c ∈ blanks, isBlank c = true) (text : List Char) :
    trim (blanks ++ text) = trim text := by
  rw [trim, dropBlanks_append blank, trim]

theorem trim_append_blanks (blank : ∀ c ∈ blanks, isBlank c = true) (text : List Char) :
    trim (text ++ blanks) = trim text := by
  have cleared : dropBlanks blanks = [] := List.dropWhile_eq_nil_iff.mpr blank
  by_cases hollow : ∀ c ∈ text, isBlank c = true
  · rw [trim_blanks_append hollow, trim, cleared, trim, dropBlanks, List.dropWhile_eq_nil_iff.mpr hollow]
  · have kept : dropBlanks (text ++ blanks) = dropBlanks text ++ blanks := by
      have solid : (text.dropWhile isBlank).isEmpty = false := by
        rw [List.isEmpty_eq_false_iff]
        exact fun empty => hollow (List.dropWhile_eq_nil_iff.mp empty)
      rw [dropBlanks, List.dropWhile_append, solid, if_neg Bool.false_ne_true, dropBlanks]
    have ended : ∀ c ∈ blanks.reverse, isBlank c = true := fun c member => blank c (List.mem_reverse.mp member)
    rw [trim, kept, dropBlanksEnd, List.reverse_append, List.dropWhile_append_of_pos ended, trim, dropBlanksEnd]

end MavenResolution.Text
