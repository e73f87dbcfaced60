import Mathlib.Data.List.Forall2
import MavenResolution.Proofs.Text.Ascii
import MavenResolution.Proofs.Text.Blank

/-! Small letters of texts without a sigma: every character has its own, whatever stands beside it. Digits and white
space have no others, and a word that is read without regard to case has few spellings in small letters. -/
namespace MavenResolution.Text

variable {c d : Char} {text word name : List Char}

/-- The small letters of a character that has the same ones everywhere. -/
def smallForm (c : Char) : List Char := if c == 'İ' then ['i', Char.ofNat 0x307] else [lowerChar c]

theorem lowercaseAfter_eq_flatMap (before : List Char) (noSigma : 'Σ' ∉ text) :
    lowercaseAfter before text = text.flatMap smallForm := by
  induction text generalizing before with
  | nil => rfl
  | cons c rest ih =>
    rw [List.mem_cons, not_or] at noSigma
    have other : (c == 'Σ') = false := by
      rw [beq_eq_false_iff_ne]
      exact Ne.symm noSigma.1
    simp only [lowercaseAfter, other, Bool.false_eq_true, if_false, ih _ noSigma.2, List.flatMap_cons, smallForm]

theorem lowercase_eq_flatMap (noSigma : 'Σ' ∉ text) : lowercase text = text.flatMap smallForm :=
  lowercaseAfter_eq_flatMap [] noSigma

/-! Characters that are no capitals. -/

theorem lowerChar_of_uncapital (wide : 128 ≤ c.toNat)
    (apart : ∀ range ∈ capitals, c.toNat < range.first ∨ range.last < c.toNat) : lowerChar c = c := by
  have missing : capitals.find? (·.holds c.toNat) = none := by
    rw [List.find?_eq_none]
    intro range member holds
    simp only [CapitalRange.holds, Bool.and_eq_true, decide_eq_true_eq] at holds
    have := apart range member
    omega
  rw [lowerChar, if_neg (by omega), missing]

theorem lowerChar_of_isDecimal (digit : isDecimal c = true) : lowerChar c = c := by
  by_cases narrow : c.toNat < 128
  · have plain : c.isDigit = true := by
      by_contra other
      rw [isDecimal, digitValue?_of_ascii narrow, if_neg other] at digit
      cases digit
    rw [lowerChar, if_pos narrow, toLower_of_isDigit plain]
  · have apart : ∀ range ∈ capitals, ∀ start ∈ zeros, range.last < start ∨ start + 10 ≤ range.first := by
      decide +kernel
    rw [isDecimal, digitValue?, if_neg narrow, Option.isSome_map, List.find?_isSome] at digit
    obtain ⟨start, zero, counted⟩ := digit
    rw [Bool.and_eq_true, decide_eq_true_eq, decide_eq_true_eq] at counted
    refine lowerChar_of_uncapital (by omega) fun range member => ?_
    have := apart range member start zero
    omega

theorem lowerChar_of_isBlank (blank : isBlank c = true) : lowerChar c = c := by
  unfold isBlank at blank
  split at blank
  · rename_i narrow
    have low : c.toNat ≤ 32 := by
      simp only [Bool.or_eq_true, Bool.and_eq_true, beq_iff_eq, decide_eq_true_eq] at blank
      rcases blank with (rfl | bounds) | bounds
      · decide
      · omega
      · omega
    have noUpper : ¬(c.val ≥ 'A'.val ∧ c.val ≤ 'Z'.val) := by
      rintro ⟨above, -⟩
      have above : 65 ≤ c.toNat := above
      omega
    rw [lowerChar, if_pos narrow]
    exact dif_neg noUpper
  · rename_i wide
    have apart : ∀ range ∈ capitals, ∀ blanks ∈ wideBlanks, range.last < blanks.1 ∨ blanks.2 < range.first := by
      decide +kernel
    rw [inRanges, List.any_eq_true] at blank
    obtain ⟨blanks, listed, inside⟩ := blank
    rw [Bool.and_eq_true, decide_eq_true_eq, decide_eq_true_eq] at inside
    refine lowerChar_of_uncapital (by omega) fun range member => ?_
    have := apart range member blanks listed
    omega

/-- The character is its own small letter, and no sigma. -/
structure IsSmall (c : Char) : Prop where
  own : smallForm c = [c]
  other : c ≠ 'Σ'

/-- So are the characters of a kind that the two exceptions do not belong to, if they are no capitals. -/
theorem IsSmall.of_kind {kind : Char → Bool} (exceptions : kind 'Σ' = false ∧ kind 'İ' = false)
    (holds : kind c = true) (kept : lowerChar c = c) : IsSmall c := by
  have apart {d : Char} (other : kind d = false) : c ≠ d := by
    rintro rfl
    rw [holds] at other
    cases other
  have dotted : (c == 'İ') = false := beq_eq_false_iff_ne.mpr (apart exceptions.2)
  refine ⟨?_, apart exceptions.1⟩
  rw [smallForm, dotted, kept]
  rfl

theorem isSmall_of_isDecimal (digit : isDecimal c = true) : IsSmall c :=
  .of_kind (by decide) digit (lowerChar_of_isDecimal digit)

theorem isSmall_of_isBlank (blank : isBlank c = true) : IsSmall c :=
  .of_kind (by decide) blank (lowerChar_of_isBlank blank)

theorem flatMap_smallForm (small : ∀ c ∈ text, IsSmall c) : text.flatMap smallForm = text := by
  induction text with
  | nil => rfl
  | cons c rest ih =>
    obtain ⟨here, there⟩ := List.forall_mem_cons.mp small
    rw [List.flatMap_cons, here.own, ih there]
    rfl

theorem sigma_not_mem (small : ∀ c ∈ text, IsSmall c) : 'Σ' ∉ text :=
  fun member => (small 'Σ' member).other rfl

/-! Words without regard to case. -/

/-- The small letters of the characters that are read for `c` without regard to case. -/
def smallForms (c : Char) : List (List Char) :=
  let peers := caselessPeers (lowerChar c)
  peers.map ([·]) ++ if peers.contains 'i' then [['i', Char.ofNat 0x307]] else []

/-- The small letters of the texts that are read for a word without regard to case. -/
def spellings : List Char → List (List Char)
  | [] => [[]]
  | c :: rest => (smallForms c).flatMap fun form => (spellings rest).map (form ++ ·)

theorem smallForm_mem (same : sameCaseless c d = true) : smallForm d ∈ smallForms c := by
  unfold sameCaseless at same
  unfold smallForm smallForms
  split
  · rename_i dotted
    obtain rfl := eq_of_beq dotted
    have small : lowerChar 'İ' = 'i' := by decide
    rw [small] at same
    simp only [same, if_true]
    exact List.mem_append_right _ (List.mem_singleton_self _)
  · refine List.mem_append_left _ (List.mem_map.mpr ⟨lowerChar d, ?_, rfl⟩)
    exact List.contains_iff_mem.mp same

theorem flatMap_smallForm_mem (alike : List.Forall₂ (sameCaseless · ·) name word) :
    word.flatMap smallForm ∈ spellings name := by
  induction alike with
  | nil => exact List.mem_singleton_self _
  | cons here _ ih =>
    rw [List.flatMap_cons, spellings, List.mem_flatMap]
    exact ⟨_, smallForm_mem here, List.mem_map.mpr ⟨_, ih, rfl⟩⟩

/-- A character that is read for none of the word's. -/
theorem not_mem_of_alike (alike : List.Forall₂ (sameCaseless · ·) name word)
    (foreign : ∀ d ∈ name, sameCaseless d c = false) : c ∉ word := by
  induction alike with
  | nil => exact List.not_mem_nil
  | cons here _ ih =>
    obtain ⟨apart, others⟩ := List.forall_mem_cons.mp foreign
    rw [List.mem_cons, not_or]
    refine ⟨?_, ih others⟩
    rintro rfl
    rw [apart] at here
    cases here

theorem lowercase_mem_spellings (alike : List.Forall₂ (sameCaseless · ·) name word) (noSigma : 'Σ' ∉ word) :
    lowercase word ∈ spellings name := by
  rw [lowercase_eq_flatMap noSigma]
  exact flatMap_smallForm_mem alike

end MavenResolution.Text
