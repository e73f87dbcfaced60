import Mathlib.Data.List.Basic
import MavenResolution.Version.Order

/-! Laws of the order of items that hold for all item trees: comparing the other way round turns
the answer round, every tree equals itself, and names of qualifiers are linearly ordered. -/
namespace MavenResolution.Version

/-! Qualifiers. -/

theorem rank_le (qualifier : String) : rank qualifier ≤ knownQualifiers.length :=
  List.idxOf_le_length

/-- A rank below the last one belongs to one name. -/
theorem eq_of_rank_eq {left right : String} (same : rank left = rank right)
    (known : rank left ≠ knownQualifiers.length) : left = right := by
  have bound : rank left < knownQualifiers.length := by
    have := rank_le left
    omega
  have member : left ∈ knownQualifiers := List.idxOf_lt_length_iff.mp bound
  exact (List.idxOf_inj member).mp same

/-- What comes second does not matter where the first comparison decides. -/
theorem then_eq_left {first second : Ordering} (decided : first ≠ .eq) :
    first.then second = first := by
  cases first <;> simp_all

theorem compareQualifiers_swap (left right : String) :
    compareQualifiers right left = (compareQualifiers left right).swap := by
  simp only [compareQualifiers, Ordering.swap_then]
  rw [← Std.OrientedOrd.eq_swap (a := rank right)]
  by_cases same : rank left = rank right
  · simp only [same]
    split
    · rw [← Std.OrientedOrd.eq_swap (a := right)]
    · rfl
  · have differs : Ord.compare (rank right) (rank left) ≠ .eq := by
      simpa only [ne_eq, Std.LawfulEqOrd.compare_eq_iff_eq] using Ne.symm same
    rw [then_eq_left differs, then_eq_left differs]

theorem compareQualifiers_eq {left right : String} :
    compareQualifiers left right = .eq ↔ left = right := by
  constructor
  · intro equal
    simp only [compareQualifiers, Ordering.then_eq_eq, Std.LawfulEqOrd.compare_eq_iff_eq] at equal
    obtain ⟨same, names⟩ := equal
    by_cases unknown : rank left = knownQualifiers.length
    · simpa only [unknown, if_true, Std.LawfulEqOrd.compare_eq_iff_eq] using names
    · exact eq_of_rank_eq same unknown
  · rintro rfl
    simp [compareQualifiers]

theorem compareQualifiers_isLE {left right : String} :
    (compareQualifiers left right).isLE ↔ rank left < rank right ∨
      rank left = rank right ∧
        (rank left = knownQualifiers.length → (Ord.compare left right).isLE) := by
  simp only [compareQualifiers, Ordering.isLE_then_iff_or, Std.LawfulEqOrd.compare_eq_iff_eq,
    Nat.compare_eq_lt]
  split <;> simp_all

theorem compareQualifiers_trans {a b c : String} (first : (compareQualifiers a b).isLE)
    (second : (compareQualifiers b c).isLE) : (compareQualifiers a c).isLE := by
  rw [compareQualifiers_isLE] at *
  obtain lower | ⟨same, names⟩ := first <;> obtain lower' | ⟨same', names'⟩ := second
  · exact .inl (by omega)
  · exact .inl (by omega)
  · exact .inl (by omega)
  · refine .inr ⟨same.trans same', fun unknown => ?_⟩
    exact Std.TransOrd.isLE_trans (names unknown) (names' (same ▸ unknown))

instance : Std.TransCmp compareQualifiers where
  eq_swap := compareQualifiers_swap _ _
  isLE_trans := compareQualifiers_trans

/-! Items and lists. -/

theorem compareItems_nil_right (items : List Item) :
    compareItems items [] = compareMissings items := by
  cases items <;> rfl

mutual
theorem Item.compare_swap : ∀ left right : Item, right.compare left = (left.compare right).swap
  | .number left, .number right => by
    simp only [Item.compare]
    exact Std.OrientedCmp.eq_swap
  | .number _, .qualifier _ | .number _, .nested _ => rfl
  | .qualifier left, .qualifier right => compareQualifiers_swap left right
  | .qualifier _, .number _ | .qualifier _, .nested _ => rfl
  | .nested _, .number _ | .nested _, .qualifier _ => rfl
  | .nested left, .nested right => compareItems_swap left right

theorem compareItems_swap : ∀ left right : List Item,
    compareItems right left = (compareItems left right).swap
  | [], right => by simp [compareItems, compareItems_nil_right]
  | left :: rest, [] => by
    change (compareMissings (left :: rest)).swap = _
    rw [compareItems_nil_right]
  | left :: lefts, right :: rights => by
    simp only [compareItems, Ordering.swap_then, Item.compare_swap left right,
      compareItems_swap lefts rights]
end

mutual
theorem Item.compare_self : ∀ item : Item, item.compare item = .eq
  | .number _ => by simp [Item.compare]
  | .qualifier _ => compareQualifiers_eq.mpr rfl
  | .nested items => compareItems_self items

theorem compareItems_self : ∀ items : List Item, compareItems items items = .eq
  | [] => rfl
  | item :: rest => by simp [compareItems, Item.compare_self item, compareItems_self rest]
end

theorem compareItems_cons_self (item : Item) (left right : List Item) :
    compareItems (item :: left) (item :: right) = compareItems left right := by
  simp [compareItems, Item.compare_self]

theorem compareItems_nested (left right : List Item) :
    compareItems [.nested left] [.nested right] = compareItems left right := by
  simp [compareItems, Item.compare, compareMissings]

/-! Items against missing ones. -/

/-- To a qualifier a missing item is a release. -/
theorem compareMissing_qualifier (name : String) :
    (Item.qualifier name).compareMissing = compareQualifiers name "" := by
  simp only [Item.compareMissing, compareQualifiers, releaseRank]
  split
  · rename_i unknown
    rw [unknown]
    rfl
  · rw [Ordering.then_eq]

/-- Items that are equal stand alike to a missing one. -/
theorem Item.compareMissing_of_compare_eq : ∀ left right : Item, left.compare right = .eq →
    left.compareMissing = right.compareMissing
  | .number left, .number right, equal => by
    simp only [Item.compare, Std.LawfulEqOrd.compare_eq_iff_eq] at equal
    rw [equal]
  | .qualifier left, .qualifier right, equal => by
    rw [compareQualifiers_eq.mp equal]
  | .nested [], .nested [], _ => rfl
  | .nested [], .nested (right :: rights), equal => by
    simp only [Item.compare, compareItems, Ordering.swap_eq_eq, compareMissings,
      Ordering.then_eq_eq] at equal
    exact equal.1.symm
  | .nested (left :: lefts), .nested [], equal => by
    simp only [Item.compare, compareItems, Ordering.then_eq_eq] at equal
    exact equal.1
  | .nested (left :: lefts), .nested (right :: rights), equal => by
    simp only [Item.compare, compareItems, Ordering.then_eq_eq] at equal
    exact Item.compareMissing_of_compare_eq left right equal.1

/-- Lists that are equal stand alike to an empty one. -/
theorem compareMissings_of_compare_eq : ∀ {left right : List Item},
    compareItems left right = .eq → compareMissings left = compareMissings right
  | [], [], _ => rfl
  | [], right :: rights, equal => by
    simp only [compareItems, Ordering.swap_eq_eq] at equal
    exact equal.symm
  | left :: lefts, [], equal => equal
  | left :: lefts, right :: rights, equal => by
    simp only [compareItems, Ordering.then_eq_eq] at equal
    simp only [compareMissings, Item.compareMissing_of_compare_eq left right equal.1,
      compareMissings_of_compare_eq equal.2]

end MavenResolution.Version
