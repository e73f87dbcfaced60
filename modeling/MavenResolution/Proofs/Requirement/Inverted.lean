import MavenResolution.Proofs.Outcome
import MavenResolution.Proofs.Version.Greatest
import MavenResolution.Proofs.Version.Transitivity
import MavenResolution.Requirement.Basic

/-! Ranges of which the lower bound ranks above the upper one. A version lies within such a range exactly if
it clashes with the bounds, since it leads from the one up to the other then; where the order of versions is
transitive nothing does. -/
namespace MavenResolution

open Text
open Version (Circle Clashing TotalPreorderOn compareItems compareTexts compareTexts_eq ofText)

variable {lower upper text : String} {low high version : Version} {range : Range}

/-! Bounds and what they leave. -/

/-- The version lies above a lower bound that can be read, or on it if the range takes it in. -/
theorem Range.aboveLower_of_ofText (bound : range.lower = some lower) (read : ofText lower = .ok low)
    (version : Version) :
    ∃ above, range.aboveLower version = .ok above ∧ (above = true ↔ (low.compare version).isLE ∧
      (low.compare version = .eq → range.lowerClosed = true)) := by
  unfold Range.aboveLower
  rw [bound]
  dsimp only
  rw [read]
  cases order : low.compare version with
  | lt => exact ⟨true, by simp [bind, Except.bind, order, pure, Except.pure], by simp⟩
  | eq => exact ⟨range.lowerClosed, by simp [bind, Except.bind, order, pure, Except.pure], by simp⟩
  | gt => exact ⟨false, by simp [bind, Except.bind, order, pure, Except.pure], by simp⟩

/-- The version lies below an upper bound that can be read, or on it if the range takes it in. -/
theorem Range.belowUpper_of_ofText (bound : range.upper = some upper) (read : ofText upper = .ok high)
    (version : Version) :
    ∃ below, range.belowUpper version = .ok below ∧ (below = true ↔ (version.compare high).isLE ∧
      (version.compare high = .eq → range.upperClosed = true)) := by
  unfold Range.belowUpper
  rw [bound]
  dsimp only
  rw [read, Version.compare_swap high version]
  cases order : high.compare version with
  | lt => exact ⟨false, by simp [bind, Except.bind, order, pure, Except.pure], by simp⟩
  | eq => exact ⟨range.upperClosed, by simp [bind, Except.bind, order, pure, Except.pure], by simp⟩
  | gt => exact ⟨true, by simp [bind, Except.bind, order, pure, Except.pure], by simp⟩

theorem RangeSet.contains_singleton (range : Range) (version : Version) :
    (RangeSet.mk [range]).contains version = range.contains version := by
  simp only [RangeSet.contains, RangeSet.anyContains]
  cases range.contains version with
  | error fault => rfl
  | ok within => cases within <;> rfl

/-- A range with two bounds that can be read holds what leads from the lower one up to the upper one, and of
the bounds those that it takes in. -/
theorem RangeSet.contains_between (lowerClosed upperClosed : Bool) (readLower : ofText lower = .ok low)
    (readUpper : ofText upper = .ok high) (version : Version) :
    ∃ within, (RangeSet.mk [⟨some lower, lowerClosed, some upper, upperClosed⟩]).contains version =
        .ok within ∧
      (within = true ↔ ((low.compare version).isLE ∧ (version.compare high).isLE) ∧
        (low.compare version = .eq → lowerClosed = true) ∧
          (version.compare high = .eq → upperClosed = true)) := by
  let range : Range := ⟨some lower, lowerClosed, some upper, upperClosed⟩
  obtain ⟨above, isAbove, aboveIff⟩ := range.aboveLower_of_ofText rfl readLower version
  obtain ⟨below, isBelow, belowIff⟩ := range.belowUpper_of_ofText rfl readUpper version
  refine ⟨above && below, ?_, ?_⟩
  · rw [RangeSet.contains_singleton, Range.contains, isAbove, isBelow]
    rfl
  · rw [Bool.and_eq_true, aboveIff, belowIff]
    exact and_and_and_comm

/-! What leads up between bounds that are inverted. -/

/-- Of lists in a circle and lists that clash, the ones are the others if one step is known to lead down. -/
theorem Version.clashing_iff_circle {a b c : List Version.Item} (normalA : Version.NormalList a)
    (normalB : Version.NormalList b) (normalC : Version.NormalList c)
    (inverted : compareItems c a = .lt) : Clashing a b c ↔ Circle a b c := by
  constructor
  · rintro (clash | clash | clash)
    · exact ⟨clash.order.2.1, Ordering.isLE_of_eq_lt clash.order.2.2, inverted⟩
    · exact ⟨clash.order.1, clash.order.2.1, inverted⟩
    · exact ⟨Ordering.isLE_of_eq_lt clash.order.2.2, clash.order.1, inverted⟩
  · exact Circle.clashing normalA normalB normalC

/-- A version lies within an inverted range exactly if it clashes with the bounds, and is none of those that
the range leaves out. None does among texts that the order ranks without contradiction. -/
theorem RangeSet.contains_inverted_iff_clashing (lowerClosed upperClosed : Bool)
    (inverted : compareTexts lower upper = .ok .gt) (read : ofText text = .ok version) :
    ∃ low high within, ofText lower = .ok low ∧ ofText upper = .ok high ∧
      (RangeSet.mk [⟨some lower, lowerClosed, some upper, upperClosed⟩]).contains version = .ok within ∧
      (within = true ↔ Clashing low.items version.items high.items ∧
        (low.compare version = .eq → lowerClosed = true) ∧
          (version.compare high = .eq → upperClosed = true)) ∧
      ∀ texts : String → Prop, TotalPreorderOn texts → texts lower → texts text → texts upper →
        within = false := by
  obtain ⟨low, readLower, rest⟩ := bind_eq_ok_iff.mp inverted
  obtain ⟨high, readUpper, same⟩ := bind_eq_ok_iff.mp rest
  have downward : low.compare high = .gt := Except.ok.inj same
  have upward : compareItems high.items low.items = .lt := by
    rw [show compareItems high.items low.items = high.compare low from rfl, Version.compare_swap low high,
      downward]
    rfl
  obtain ⟨within, contained, withinIff⟩ :=
    RangeSet.contains_between lowerClosed upperClosed readLower readUpper version
  refine ⟨low, high, within, readLower, readUpper, contained, ?_, ?_⟩
  · rw [withinIff, Version.clashing_iff_circle (Version.ofText_normal readLower)
      (Version.ofText_normal read) (Version.ofText_normal readUpper) upward]
    exact and_congr_left' ⟨fun steps => ⟨steps.1, steps.2, upward⟩, fun circle => ⟨circle.1, circle.2⟩⟩
  · intro texts preorder ofLower ofText ofUpper
    by_contra inside
    obtain ⟨⟨first, second⟩, -⟩ := withinIff.mp (Bool.not_eq_false _ ▸ inside)
    have last := preorder.trans lower text upper ofLower ofText ofUpper
      ((Version.atMost_iff readLower read).mpr first) ((Version.atMost_iff read readUpper).mpr second)
    rw [Version.atMost_iff readLower readUpper, downward] at last
    cases last

/-- Releases are ranked without contradiction, so that none lies between bounds that are inverted. -/
theorem RangeSet.contains_inverted_releases :
    compareTexts "3.0" "1.0" = .ok .gt ∧ ∃ version, ofText "2.0" = .ok version ∧
      (RangeSet.mk [⟨some "3.0", true, some "1.0", true⟩]).contains version = .ok false := by
  let texts text := text ∈ ["1.0", "2.0", "3.0"]
  have one : ofText "1.0" = .ok ⟨"1.0", [.number 1]⟩ := rfl
  have two : ofText "2.0" = .ok ⟨"2.0", [.number 2]⟩ := rfl
  have three : ofText "3.0" = .ok ⟨"3.0", [.number 3]⟩ := rfl
  have inverted : compareTexts "3.0" "1.0" = .ok .gt := by
    rw [compareTexts_eq three one]
    decide
  have read : ∀ text, texts text → ∃ version, ofText text = .ok version ∧ version.Orderly := by
    simp only [texts, List.forall_mem_cons, List.not_mem_nil, false_implies, implies_true, and_true]
    exact ⟨⟨_, one, rfl⟩, ⟨_, two, rfl⟩, _, three, rfl⟩
  have preorder : TotalPreorderOn texts := by
    refine Version.totalPreorderOn_of_apartOn (fun text ofTexts => (read text ofTexts).imp fun _ => And.left)
      (Version.apartOn_of_orderly fun text version ofTexts readText => ?_)
    obtain ⟨other, readOther, orderly⟩ := read text ofTexts
    cases readText.symm.trans readOther
    exact orderly
  obtain ⟨_, _, within, _, _, contained, _, none⟩ :=
    RangeSet.contains_inverted_iff_clashing true true inverted two
  refine ⟨inverted, _, two, ?_⟩
  rw [contained, none texts preorder (by simp [texts]) (by simp [texts]) (by simp [texts])]

/-- A qualifier behind a dot lies between a release and a nested list with a low qualifier, and these are
inverted: whether it takes them in or not, the range from the one to the other holds it. -/
theorem RangeSet.exists_inverted_contains :
    compareTexts "1" "1-alpha" = .ok .gt ∧ ∃ version, ofText "1.sp" = .ok version ∧
      ∀ lowerClosed upperClosed : Bool,
        (RangeSet.mk [⟨some "1", lowerClosed, some "1-alpha", upperClosed⟩]).contains version = .ok true := by
  have one : ofText "1" = .ok ⟨"1", [.number 1]⟩ := rfl
  have sp : ofText "1.sp" = .ok ⟨"1.sp", [.number 1, .qualifier "sp"]⟩ := rfl
  have alpha : ofText "1-alpha" = .ok ⟨"1-alpha", [.number 1, .nested [.qualifier "alpha"]]⟩ := rfl
  refine ⟨?_, _, sp, fun lowerClosed upperClosed => ?_⟩
  · rw [compareTexts_eq one alpha]
    decide
  · obtain ⟨within, contained, withinIff⟩ := RangeSet.contains_between lowerClosed upperClosed one alpha
      ⟨"1.sp", [.number 1, .qualifier "sp"]⟩
    -- Neither bound is the version, so that it does not matter whether they are taken in.
    rw [contained, withinIff.mpr ⟨by decide, (absurd · (by decide)), (absurd · (by decide))⟩]

end MavenResolution
