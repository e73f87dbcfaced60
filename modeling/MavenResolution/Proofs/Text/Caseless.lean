import MavenResolution.Proofs.Text.Ascii

/-! Characters that are read for one another without regard to case are among the forms of one of them. -/
namespace MavenResolution.Text

variable {c d : Char}

theorem toNat_ofNat_of_isValidChar {code : Nat} (valid : code.isValidChar) : (Char.ofNat code).toNat = code := by
  rw [Char.ofNat, dif_pos valid]
  rfl

/-- The small letter of a capital outside ASCII is a character at the capital's distance. -/
theorem toNat_shift {range : CapitalRange} (listed : range ∈ capitals) {code : Nat}
    (holds : range.holds code = true) :
    ((Char.ofNat (range.shift code)).toNat : Int) = code + range.distance := by
  have bounds : ∀ range ∈ capitals, 0 ≤ range.first + range.distance ∧
      (range.last + range.distance < 0xd800 ∨
        0xdfff < range.first + range.distance ∧ range.last + range.distance < 0x110000) := by
    decide +kernel
  have bound := bounds range listed
  simp only [CapitalRange.holds, Bool.and_eq_true, decide_eq_true_eq] at holds
  have sum : (range.shift code : Int) = code + range.distance := by
    rw [CapitalRange.shift]
    omega
  have valid : (range.shift code).isValidChar := by
    unfold Nat.isValidChar
    omega
  rw [toNat_ofNat_of_isValidChar valid, sum]

/-- A character is among those with its small letter. -/
theorem mem_withLower (c : Char) : c ∈ withLower (lowerChar c) := by
  by_cases ascii : c.toNat < 128
  · have each : ∀ code < 128, Char.ofNat code ∈ withLower (lowerChar (Char.ofNat code)) := by decide +kernel
    simpa using each c.toNat ascii
  · cases found : capitals.find? (·.holds c.toNat) with
    | none =>
      have own : lowerChar c = c := by rw [lowerChar, if_neg ascii, found]
      simp [withLower, own]
    | some range =>
      have listed := List.mem_of_find?_eq_some found
      have holds : range.holds c.toNat = true := by simpa using List.find?_some found
      have small : lowerChar c = Char.ofNat (range.shift c.toNat) := by rw [lowerChar, if_neg ascii, found]
      have back : (((lowerChar c).toNat : Int) - range.distance).toNat = c.toNat := by
        rw [small, toNat_shift listed holds]
        omega
      refine List.mem_append_right _ (List.mem_filterMap.mpr ⟨range, listed, ?_⟩)
      dsimp only
      rw [back, if_pos holds, Char.ofNat_toNat]

theorem mem_caselessForms (same : sameCaseless c d = true) : d ∈ caselessForms c :=
  List.mem_flatMap.mpr ⟨lowerChar d, List.contains_iff_mem.mp same, mem_withLower d⟩

end MavenResolution.Text
