import MavenResolution.Proofs.Version.Documented
import MavenResolution.Proofs.Version.Transitivity

/-! The item lists of numerals and of a qualifier behind them, and how they compare. -/
namespace MavenResolution.Version

/-- The list that a numeral behind a qualifier opens. -/
def numberItems (number : Nat) : List Item := enclose (prepend (.number number) [])

/-- The list that a qualifier with a number opens behind the numerals of a version. -/
def suffixItems (name : String) (number : Nat) : List Item :=
  enclose (prepend (.qualifier (canonicalName name)) (numberItems number))

/-- Numbers in front of a list. -/
def prependNumbers (numbers : List Nat) (items : List Item) : List Item :=
  numbers.foldr (fun number items => prepend (.number number) items) items

theorem numberItems_of_pos {number : Nat} (positive : 0 < number) :
    numberItems number = [.nested [.number number]] := by
  have significant : number ≠ 0 := by omega
  simp [numberItems, prepend, enclose, Item.isNull, significant]

theorem compare_numberItems (left right : Nat) :
    compareItems (numberItems left) (numberItems right) = Ord.compare left right := by
  obtain rfl | left_pos := Nat.eq_zero_or_pos left <;>
    obtain rfl | right_pos := Nat.eq_zero_or_pos right
  · rfl
  · have above : Ord.compare right 0 = .gt := Nat.compare_eq_gt.mpr right_pos
    rw [numberItems_of_pos right_pos, Nat.compare_eq_lt.mpr right_pos]
    simp [numberItems, prepend, enclose, Item.isNull, startsNested, compareItems, compareMissings,
      Item.compareMissing, above]
  · have above : Ord.compare left 0 = .gt := Nat.compare_eq_gt.mpr left_pos
    rw [numberItems_of_pos left_pos, above]
    simp [numberItems, prepend, enclose, Item.isNull, startsNested, compareItems, compareMissings,
      Item.compareMissing, above]
  · simp [numberItems_of_pos left_pos, numberItems_of_pos right_pos, compareItems, compareMissings,
      Item.compare]

theorem rank_eq_releaseRank_iff {name : String} : rank name = releaseRank ↔ name = "" := by
  constructor
  · intro same
    exact eq_of_rank_eq same (by rw [same]; decide)
  · rintro rfl
    rfl

theorem suffixItems_of_release {name : String} (release : canonicalName name = "") :
    suffixItems name 0 = [] := by
  rw [suffixItems, release]
  rfl

theorem suffixItems_of_significant {name : String} (number : Nat)
    (significant : canonicalName name ≠ "") :
    suffixItems name number = [.nested (.qualifier (canonicalName name) :: numberItems number)] := by
  simp [suffixItems, significant, prepend, enclose, Item.isNull, rank_eq_releaseRank_iff]

theorem startsNested_suffixItems {name : String} {number : Nat} :
    startsNested (suffixItems name number) = true := by
  unfold suffixItems enclose
  split <;> rfl

theorem compareMissing_nested (item : Item) (rest : List Item) :
    (Item.nested (item :: rest)).compareMissing = item.compareMissing := rfl

/-- Suffixes are ordered by name, then by number. A release has no number. -/
theorem compare_suffixItems {left right : String} {m n : Nat}
    (releaseLeft : canonicalName left = "" → m = 0) (releaseRight : canonicalName right = "" → n = 0) :
    compareItems (suffixItems left m) (suffixItems right n) =
      (compareNames left right).then (Ord.compare m n) := by
  rw [compareNames_eq]
  by_cases plainLeft : canonicalName left = "" <;> by_cases plainRight : canonicalName right = ""
  · obtain rfl := releaseLeft plainLeft
    obtain rfl := releaseRight plainRight
    rw [suffixItems_of_release plainLeft, suffixItems_of_release plainRight, plainLeft, plainRight]
    rfl
  · obtain rfl := releaseLeft plainLeft
    have differs : compareQualifiers (canonicalName left) (canonicalName right) ≠ .eq := by
      rw [ne_eq, compareQualifiers_eq, plainLeft]
      exact Ne.symm plainRight
    rw [suffixItems_of_release plainLeft, suffixItems_of_significant n plainRight,
      then_eq_left differs, plainLeft, compareQualifiers_swap]
    simp [compareItems, compareMissings, compareMissing_nested, compareMissing_qualifier]
  · obtain rfl := releaseRight plainRight
    have differs : compareQualifiers (canonicalName left) (canonicalName right) ≠ .eq := by
      rw [ne_eq, compareQualifiers_eq, plainRight]
      exact plainLeft
    rw [suffixItems_of_release plainRight, suffixItems_of_significant m plainLeft,
      then_eq_left differs, plainRight]
    simp [compareItems, compareMissings, compareMissing_nested, compareMissing_qualifier]
  · rw [suffixItems_of_significant m plainLeft, suffixItems_of_significant n plainRight]
    rw [compareItems_nested]
    simp only [compareItems, Item.compare, compare_numberItems]

/-- The list does not begin with a qualifier. -/
def startsBare : List Item → Bool
  | .qualifier _ :: _ => false
  | _ => true

theorem startsNested_iff {items : List Item} :
    startsNested items = true ↔ items = [] ∨ ∃ inner rest, items = .nested inner :: rest := by
  cases items with
  | nil => simp [startsNested]
  | cons item rest => cases item <;> simp [startsNested, Item.isNested]

theorem startsBare_of_startsNested {items : List Item} (nested : startsNested items = true) :
    startsBare items = true := by
  obtain rfl | ⟨inner, rest, rfl⟩ := startsNested_iff.mp nested
  · rfl
  · rfl

theorem exists_number_of_startsBare {items : List Item} (bare : startsBare items = true)
    (kept : startsNested items = false) : ∃ value rest, items = .number value :: rest := by
  cases items with
  | nil => cases kept
  | cons item rest =>
    cases item with
    | number value => exact ⟨value, rest, rfl⟩
    | qualifier => cases bare
    | nested => cases kept

theorem startsBare_prepend {number : Nat} {items : List Item} (bare : startsBare items = true) :
    startsBare (prepend (.number number) items) = true := by
  unfold prepend
  split
  · exact bare
  · rfl

/-- A zero left out in front of a nested list or the end counts as if it stood there. -/
theorem compare_number_right {n : Nat} {left right : List Item} (nested : startsNested left = true)
    (bare : startsBare right = true) (kept : n = 0 → startsNested right = false) :
    compareItems left (.number n :: right) = (Ord.compare 0 n).then (compareItems left right) := by
  obtain rfl | ⟨inner, rest, rfl⟩ := startsNested_iff.mp nested
  · simp only [compareItems, compareMissings, Item.compareMissing, Ordering.swap_then]
    rw [← Std.OrientedOrd.eq_swap (a := 0)]
  · obtain rfl | positive := Nat.eq_zero_or_pos n
    · obtain ⟨value, others, rfl⟩ := exists_number_of_startsBare bare (kept rfl)
      rfl
    · simp [compareItems, Item.compare, Nat.compare_eq_lt.mpr positive]

/-- Numbers in front of lists that begin with no qualifier count first, also where one of them is
left out. -/
theorem compare_prepend_number {m n : Nat} {left right : List Item} (bareLeft : startsBare left = true)
    (bareRight : startsBare right = true) :
    compareItems (prepend (.number m) left) (prepend (.number n) right) =
      (Ord.compare m n).then (compareItems left right) := by
  simp only [prepend, Item.isNull, Bool.and_eq_true, beq_iff_eq]
  split <;> split
  · rename_i dropLeft dropRight
    rw [dropLeft.1, dropRight.1]
    rfl
  · rename_i dropped kept
    rw [dropped.1]
    exact compare_number_right dropped.2 bareRight (by simpa using kept)
  · rename_i kept dropped
    rw [compareItems_swap right, compare_number_right dropped.2 bareLeft (by simpa using kept),
      Ordering.swap_then, ← compareItems_swap, ← Std.OrientedOrd.eq_swap (a := m), dropped.1]
  · rfl

theorem startsBare_prependNumbers {items : List Item} (nested : startsNested items = true)
    (numbers : List Nat) : startsBare (prependNumbers numbers items) = true := by
  induction numbers with
  | nil => exact startsBare_of_startsNested nested
  | cons number rest ih => exact startsBare_prepend ih

/-- In front of a nested list or the end, zero says nothing. -/
theorem prepend_zero {items : List Item} (nested : startsNested items = true) :
    prepend (.number 0) items = items := by
  simp [prepend, Item.isNull, nested]

theorem compare_prependNumbers {left right : List Item} (nestedLeft : startsNested left = true)
    (nestedRight : startsNested right = true) : ∀ lefts rights : List Nat,
    compareItems (prependNumbers lefts left) (prependNumbers rights right) =
      (comparePadded lefts rights).then (compareItems left right)
  | [], [] => by simp [comparePadded, prependNumbers]
  | [], n :: rights => by
    have ih := compare_prependNumbers nestedLeft nestedRight [] rights
    have step := compare_prepend_number (m := 0) (n := n)
      (startsBare_of_startsNested nestedLeft) (startsBare_prependNumbers nestedRight rights)
    rw [prepend_zero nestedLeft] at step
    simp only [comparePadded, Ordering.then_assoc, ← ih]
    exact step
  | m :: lefts, [] => by
    have ih := compare_prependNumbers nestedLeft nestedRight lefts []
    have step := compare_prepend_number (m := m) (n := 0)
      (startsBare_prependNumbers nestedLeft lefts) (startsBare_of_startsNested nestedRight)
    rw [prepend_zero nestedRight] at step
    simp only [comparePadded, Ordering.then_assoc, ← ih]
    exact step
  | m :: lefts, n :: rights => by
    have ih := compare_prependNumbers nestedLeft nestedRight lefts rights
    have step := compare_prepend_number (m := m) (n := n)
      (startsBare_prependNumbers nestedLeft lefts) (startsBare_prependNumbers nestedRight rights)
    simp only [comparePadded, Ordering.then_assoc, ← ih]
    exact step

/-! Numbers and a suffix make orderly lists. -/

theorem orderlyItems_numberItems (number : Nat) : orderlyItems (numberItems number) = true := by
  obtain rfl | positive := Nat.eq_zero_or_pos number
  · rfl
  · simpa [numberItems_of_pos positive, orderlyItems, Item.orderly] using Nat.ne_of_gt positive

theorem orderlyItems_suffixItems {name : String} {number : Nat}
    (release : canonicalName name = "" → number = 0) :
    orderlyItems (suffixItems name number) = true := by
  by_cases plain : canonicalName name = ""
  · obtain rfl := release plain
    rw [suffixItems_of_release plain]
    rfl
  · rw [suffixItems_of_significant number plain]
    simp [orderlyItems, Item.orderly, rank_eq_releaseRank_iff, plain, orderlyItems_numberItems]

/-- An orderly list that, unless it is nested or at its end, stands above nothing. -/
structure Rising (items : List Item) : Prop where
  orderly : orderlyItems items = true
  above : startsNested items = false → compareMissings items = .gt

theorem Rising.prepend_number {rest : List Item} (rising : Rising rest) (number : Nat) :
    Rising (prepend (.number number) rest) := by
  unfold prepend
  split
  · exact rising
  · rename_i significant
    have above : compareMissings (.number number :: rest) = .gt := by
      obtain rfl | positive := Nat.eq_zero_or_pos number
      · have others := rising.above (by simpa [Item.isNull] using significant)
        simp [compareMissings, Item.compareMissing, others]
      · simp [compareMissings, Item.compareMissing, Nat.compare_eq_gt.mpr positive]
    exact ⟨by simp [orderlyItems, above, rising.orderly], fun _ => above⟩

theorem rising_prependNumbers {items : List Item} (nested : startsNested items = true)
    (orderly : orderlyItems items = true) (numbers : List Nat) :
    Rising (prependNumbers numbers items) := by
  induction numbers with
  | nil => exact ⟨orderly, fun bare => absurd (nested.symm.trans bare) (by decide)⟩
  | cons number rest ih => exact ih.prepend_number number

end MavenResolution.Version
