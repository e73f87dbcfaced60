import MavenResolution.Proofs.Version.Transitivity

/-! Which versions are equal. Those with the same items are; but a nested list counts as its first item when it is
held against nothing, so that a list behind a zero is overlooked where the other version ends. The text of the
items shows what the comparison overlooks. -/
namespace MavenResolution.Version

/-- The first list ends at a place up to which both agree. There the second goes on with a nested list that counts
as missing, and is not empty. -/
inductive Overlooked : List Item → List Item → Prop where
  | ends {inner} : inner ≠ [] → (Item.nested inner).compareMissing = .eq → Overlooked [] [.nested inner]
  | behind {left right} (item : Item) : Overlooked left right → Overlooked (item :: left) (item :: right)
  | within {left right} : Overlooked left right → Overlooked [.nested left] [.nested right]

variable {item other : Item} {items left right : List Item}

/-! What the comparison overlooks makes no difference to it. -/

theorem Overlooked.compareItems_eq (overlooked : Overlooked left right) : compareItems left right = .eq := by
  induction overlooked with
  | ends _ silent => simp [compareItems, compareMissings, silent]
  | behind item _ ih => rwa [compareItems_cons_self]
  | within _ ih => rwa [compareItems_nested]

/-! Nothing else does not. -/

theorem isNull_of_compareMissing_eq (flat : item.isNested = false) (silent : item.compareMissing = .eq) :
    item.isNull = true := by
  cases item with
  | number value => simpa [Item.compareMissing, Item.isNull] using silent
  | qualifier name => simpa [Item.compareMissing, Item.isNull] using silent
  | nested => cases flat

theorem eq_of_compare_eq (flat : item.isNested = false) (equal : item.compare other = .eq) : item = other := by
  cases item with
  | number value =>
    cases other with
    | number => simpa [Item.compare] using equal
    | qualifier | nested => cases equal
  | qualifier name =>
    cases other with
    | qualifier => rw [compareQualifiers_eq.mp equal]
    | number | nested => cases equal
  | nested => cases flat

/-- Held against nothing, a normal list says nothing if it is empty or a nested list that is overlooked: its last
number or qualifier would say something. -/
theorem eq_nil_or_overlooked (normal : NormalList items) (silent : compareMissings items = .eq) :
    items = [] ∨ Overlooked [] items := by
  induction normal with
  | nil => exact .inl rfl
  | nested nonempty =>
    rw [compareMissings, compareMissings, Ordering.then_eq] at silent
    exact .inr (.ends nonempty silent)
  | cons flat kept _ ih =>
    rw [compareMissings, Ordering.then_eq_eq] at silent
    -- A zero or the qualifier of a release is only kept in front of a number or a qualifier.
    have follows := kept (isNull_of_compareMissing_eq flat silent.1)
    rcases ih silent.2 with rfl | overlooked
    · cases follows
    · cases overlooked
      cases follows

theorem eq_or_overlooked (normalLeft : NormalList left) (normalRight : NormalList right)
    (equal : compareItems left right = .eq) : left = right ∨ Overlooked left right ∨ Overlooked right left := by
  induction normalLeft generalizing right with
  | nil =>
    rw [compareItems, Ordering.swap_eq_eq] at equal
    exact (eq_nil_or_overlooked normalRight equal).imp Eq.symm .inl
  | @nested inner nonempty normal ih =>
    match right with
    | [] =>
      rw [compareItems_nil_right] at equal
      exact (eq_nil_or_overlooked (.nested nonempty normal) equal).imp id .inr
    | .nested other :: rest =>
      -- Nothing stands behind a nested list, so that all that is left to compare is inside.
      obtain rfl := normalRight.tail_of_isNested rfl
      rw [compareItems_nested] at equal
      rcases ih normalRight.of_nested equal with rfl | overlooked | overlooked
      · exact .inl rfl
      · exact .inr (.inl overlooked.within)
      · exact .inr (.inr overlooked.within)
    | .number _ :: _ | .qualifier _ :: _ => cases equal
  | @cons item rest flat kept normal ih =>
    match right with
    | [] =>
      rw [compareItems_nil_right] at equal
      exact (eq_nil_or_overlooked (.cons flat kept normal) equal).imp id .inr
    | other :: others =>
      rw [compareItems, Ordering.then_eq_eq] at equal
      obtain rfl := eq_of_compare_eq flat equal.1
      rcases ih normalRight.tail equal.2 with rfl | overlooked | overlooked
      · exact .inl rfl
      · exact .inr (.inl (overlooked.behind item))
      · exact .inr (.inr (overlooked.behind item))

theorem compareItems_eq_iff (normalLeft : NormalList left) (normalRight : NormalList right) :
    compareItems left right = .eq ↔ left = right ∨ Overlooked left right ∨ Overlooked right left := by
  refine ⟨eq_or_overlooked normalLeft normalRight, ?_⟩
  rintro (rfl | overlooked | overlooked)
  · exact compareItems_self left
  · exact overlooked.compareItems_eq
  · rw [compareItems_swap right left, overlooked.compareItems_eq]
    rfl

/-! The text of the items. -/

/-- What is overlooked is written out. -/
theorem Overlooked.length_texts_lt (overlooked : Overlooked left right) :
    (Item.texts left).length < (Item.texts right).length := by
  induction overlooked with
  | ends =>
    have bracket : "[".length = 1 := rfl
    simp only [Item.texts, Item.text, String.length_append, String.length_empty]
    omega
  | @behind left right item _ ih =>
    match left, right with
    | _, [] => cases ih
    | [], next :: rest =>
      have separator : ", ".length = 2 := rfl
      simp only [Item.texts, String.length_append]
      omega
    | first :: others, next :: rest =>
      simp only [Item.texts, String.length_append]
      omega
  | within _ ih =>
    simp only [Item.texts, Item.text, String.length_append]
    omega

theorem canonical_eq_of_items_eq {u v : Version} (same : u.items = v.items) : u.canonical = v.canonical := by
  rw [canonical, same, canonical]

theorem canonical_ne_of_overlooked {u v : Version} (overlooked : Overlooked u.items v.items) :
    u.canonical ≠ v.canonical := by
  have shorter := overlooked.length_texts_lt
  intro same
  have lengths := congrArg String.length same
  simp only [canonical, Item.text, String.length_append] at lengths
  omega

/-! Versions of which nothing is overlooked. -/

theorem compareMissing_ne_eq_of_orderly {inner : List Item} (opens : (Item.nested inner).orderly = true) :
    (Item.nested inner).compareMissing ≠ .eq := by
  match inner with
  | [] | .nested _ :: _ => cases opens
  | .number value :: rest =>
    simp only [Item.orderly, Bool.and_eq_true, bne_iff_ne] at opens
    simpa [Item.compareMissing] using opens.1
  | .qualifier name :: rest =>
    simp only [Item.orderly, Bool.and_eq_true, bne_iff_ne] at opens
    simpa [Item.compareMissing] using opens.1

theorem Overlooked.not_orderly (overlooked : Overlooked left right) :
    orderlyItems right = false ∧ (Item.nested right).orderly = false := by
  induction overlooked with
  | ends _ silent =>
    refine ⟨?_, rfl⟩
    rw [Bool.eq_false_iff]
    intro orderly
    simp only [orderlyItems, List.isEmpty_nil, Bool.true_and] at orderly
    exact compareMissing_ne_eq_of_orderly orderly silent
  | behind item _ ih =>
    exact ⟨Bool.eq_false_iff.mpr fun orderly => Bool.eq_false_iff.mp ih.1 (orderlyItems_tail orderly),
      Bool.eq_false_iff.mpr fun orderly => Bool.eq_false_iff.mp ih.1 (orderlyItems_tail_of_nested orderly)⟩
  | within _ ih => exact ⟨by simp [orderlyItems, ih.2], rfl⟩

/-- Two versions are equal if they have the same items or the comparison overlooks what one of them has more.
Equal versions have one text of items exactly where nothing is overlooked, as between all orderly versions. -/
theorem canonical_eq_iff_not_overlooked {a b : String} {u v : Version} (readA : ofText a = .ok u)
    (readB : ofText b = .ok v) :
    (compareTexts a b = .ok .eq ↔
      u.items = v.items ∨ Overlooked u.items v.items ∨ Overlooked v.items u.items) ∧
    ((compareTexts a b = .ok .eq → u.canonical = v.canonical) ↔
      ¬(Overlooked u.items v.items ∨ Overlooked v.items u.items)) ∧
    (u.Orderly → v.Orderly → compareTexts a b = .ok .eq → u.canonical = v.canonical) := by
  have equal : compareTexts a b = .ok .eq ↔
      u.items = v.items ∨ Overlooked u.items v.items ∨ Overlooked v.items u.items := by
    rw [compareTexts_eq readA readB, Except.ok.injEq]
    exact compareItems_eq_iff (ofText_normal readA) (ofText_normal readB)
  have alike : (compareTexts a b = .ok .eq → u.canonical = v.canonical) ↔
      ¬(Overlooked u.items v.items ∨ Overlooked v.items u.items) := by
    rw [equal]
    constructor
    · intro same overlooked
      have texts := same (.inr overlooked)
      rcases overlooked with more | less
      · exact canonical_ne_of_overlooked more texts
      · exact canonical_ne_of_overlooked less texts.symm
    · rintro apart (same | overlooked)
      · exact canonical_eq_of_items_eq same
      · exact absurd overlooked apart
  refine ⟨equal, alike, fun orderlyU orderlyV => alike.mpr ?_⟩
  rintro (more | less)
  · exact Bool.eq_false_iff.mp more.not_orderly.1 orderlyV
  · exact Bool.eq_false_iff.mp less.not_orderly.1 orderlyU

/-- A qualifier of a release is left out, but not in front of another item. -/
theorem canonical_eq_iff_not_overlooked_release :
    let u : Version := ⟨"1.0", [.number 1]⟩
    let v : Version := ⟨"1-final", [.number 1]⟩
    let w : Version := ⟨"1-final.1", [.number 1, .nested [.qualifier "", .number 1]]⟩
    ofText "1.0" = .ok u ∧ ofText "1-final" = .ok v ∧ ofText "1-final.1" = .ok w ∧
      compareTexts "1.0" "1-final" = .ok .eq ∧ compareTexts "1.0" "1-final.1" = .ok .eq ∧
      u.canonical = v.canonical ∧ ¬(compareTexts "1.0" "1-final.1" = .ok .eq → u.canonical = w.canonical) := by
  intro u v w
  have readU : ofText "1.0" = .ok u := rfl
  have readV : ofText "1-final" = .ok v := rfl
  have readW : ofText "1-final.1" = .ok w := rfl
  obtain ⟨equal, -, alike⟩ := canonical_eq_iff_not_overlooked readU readV
  obtain ⟨equal', apart, -⟩ := canonical_eq_iff_not_overlooked readU readW
  have overlooked : Overlooked u.items w.items := .behind (.number 1) (.ends (List.cons_ne_nil _ _) rfl)
  exact ⟨readU, readV, readW, equal.mpr (.inl rfl), equal'.mpr (.inr (.inl overlooked)),
    alike rfl rfl (equal.mpr (.inl rfl)), fun same => apart.mp same (.inl overlooked)⟩

/-- Two equal versions of which the one has a nested list with a zero in front. -/
theorem exists_equal_canonical_ne :
    ofText "1" = .ok ⟨"1", [.number 1]⟩ ∧
      ofText "1-0.1" = .ok ⟨"1-0.1", [.number 1, .nested [.number 0, .number 1]]⟩ ∧
      compareTexts "1" "1-0.1" = .ok .eq ∧
      canonical ⟨"1", [.number 1]⟩ = "[1]" ∧
      canonical ⟨"1-0.1", [.number 1, .nested [.number 0, .number 1]]⟩ = "[1, [0, 1]]" ∧
      ¬∀ a b u v, ofText a = .ok u → ofText b = .ok v → compareTexts a b = .ok .eq →
        u.canonical = v.canonical := by
  have one : ofText "1" = .ok ⟨"1", [.number 1]⟩ := rfl
  have nested : ofText "1-0.1" = .ok ⟨"1-0.1", [.number 1, .nested [.number 0, .number 1]]⟩ := rfl
  have equal : compareTexts "1" "1-0.1" = .ok .eq := rfl
  have short : canonical ⟨"1", [.number 1]⟩ = "[1]" := by decide
  have long : canonical ⟨"1-0.1", [.number 1, .nested [.number 0, .number 1]]⟩ = "[1, [0, 1]]" := by decide
  refine ⟨one, nested, equal, short, long, fun same => ?_⟩
  have texts := same "1" "1-0.1" _ _ one nested equal
  rw [short, long] at texts
  exact absurd texts (by decide)

end MavenResolution.Version
