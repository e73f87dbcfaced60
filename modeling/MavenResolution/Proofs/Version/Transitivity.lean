import MavenResolution.Proofs.Version.NormalForm
import MavenResolution.Proofs.Version.Order

/-! Where the order of versions is transitive. A version that ends is filled up with missing items,
and the rule for missing items disagrees with the rules for items of different kinds: a qualifier
ranks below a nested list whatever either holds, while the one may stand above a missing item and
the other below. Nothing else breaks the order. -/
namespace MavenResolution.Version

/-- The first list ends at a place up to which all three agree. What the other two go on with is in
ascending order, but stands to nothing at all the other way. -/
inductive Clash : List Item → List Item → List Item → Prop where
  | ends {left right} : compareItems left right = .lt → (compareMissings left).isGE →
      (compareMissings right).isLE → Clash [] left right
  | behind {a b c} (item : Item) : Clash a b c → Clash (item :: a) (item :: b) (item :: c)
  | within {a b c} : Clash a b c → Clash [.nested a] [.nested b] [.nested c]

/-- A clash breaks transitivity: the list that ends lies between the other two the wrong way. -/
theorem Clash.order {a b c : List Item} (clash : Clash a b c) :
    (compareItems c a).isLE ∧ (compareItems a b).isLE ∧ compareItems b c = .lt := by
  induction clash with
  | @ends left right ascending below above =>
    refine ⟨?_, ?_, ascending⟩
    · rwa [compareItems_nil_right]
    · rwa [compareItems, Ordering.isLE_swap]
  | behind item _ ih => simpa only [compareItems_cons_self] using ih
  | within _ ih => simpa only [compareItems_nested] using ih

/-- Three items that are not all nested lists stand in a circle only if they are the same. -/
theorem eq_of_circle {x y z : Item} (flat : (x.isNested && y.isNested && z.isNested) = false)
    (first : (x.compare y).isLE) (second : (y.compare z).isLE) (third : (z.compare x).isLE) :
    x = y ∧ y = z := by
  cases x <;> cases y <;> cases z <;> simp_all [Item.compare, Item.isNested]
  case number x y z =>
    simp only [Nat.isLE_compare] at *
    omega
  case qualifier x y z =>
    have same {a b c : String} (ab : (compareQualifiers a b).isLE)
        (bc : (compareQualifiers b c).isLE) (ca : (compareQualifiers c a).isLE) : a = b := by
      apply compareQualifiers_eq.mp
      apply Ordering.eq_eq_of_isLE_of_isLE_swap ab
      rw [← compareQualifiers_swap]
      exact compareQualifiers_trans bc ca
    exact ⟨same first second third, same second third first⟩

/-- Lists in a circle of which one step is strict. -/
structure Circle (a b c : List Item) : Prop where
  first : (compareItems a b).isLE
  second : (compareItems b c).isLE
  back : compareItems c a = .lt

/-- One of three lists clashes with the other two in their cyclic order. -/
def Clashing (a b c : List Item) : Prop := Clash a b c ∨ Clash b c a ∨ Clash c a b

theorem Clashing.behind {a b c : List Item} (item : Item) (clashing : Clashing a b c) :
    Clashing (item :: a) (item :: b) (item :: c) :=
  clashing.imp (.behind item) (.imp (.behind item) (.behind item))

theorem Clashing.within {a b c : List Item} (clashing : Clashing a b c) :
    Clashing [.nested a] [.nested b] [.nested c] :=
  clashing.imp .within (.imp .within .within)

theorem lt_of_isLE_of_missings_ne {left right : List Item} (below : (compareItems left right).isLE)
    (differ : compareMissings left ≠ compareMissings right) : compareItems left right = .lt := by
  obtain strict | equal := Ordering.isLE_iff_eq_lt_or_eq_eq.mp below
  · exact strict
  · exact absurd (compareMissings_of_compare_eq equal) differ

namespace Circle

variable {a b c : List Item} {x y z : Item}

theorem clashing_of_nil_first (circle : Circle [] b c) : Clashing [] b c := by
  have above : (compareMissings b).isGE := by
    simpa only [compareItems, Ordering.isLE_swap] using circle.first
  have below : compareMissings c = .lt := by
    simpa only [compareItems_nil_right] using circle.back
  have differ : compareMissings b ≠ compareMissings c := by
    intro same
    simp [same, below] at above
  exact .inl (.ends (lt_of_isLE_of_missings_ne circle.second differ) above (by simp [below]))

theorem clashing_of_nil_second (circle : Circle a [] c) : Clashing a [] c := by
  have below : (compareMissings a).isLE := by
    simpa only [compareItems_nil_right] using circle.first
  have above : (compareMissings c).isGE := by
    simpa only [compareItems, Ordering.isLE_swap] using circle.second
  exact .inr (.inl (.ends circle.back above below))

theorem clashing_of_nil_third (circle : Circle a b []) : Clashing a b [] := by
  have below : (compareMissings b).isLE := by
    simpa only [compareItems_nil_right] using circle.second
  have above : compareMissings a = .gt := by
    simpa only [compareItems, Ordering.swap_eq_lt] using circle.back
  have differ : compareMissings a ≠ compareMissings b := by
    intro same
    simp [← same, above] at below
  exact .inr (.inr (.ends (lt_of_isLE_of_missings_ne circle.first differ) (by simp [above]) below))

/-- Only nested lists let a circle begin at the first items. -/
theorem tails (circle : Circle (x :: a) (y :: b) (z :: c))
    (flat : (x.isNested && y.isNested && z.isNested) = false) :
    x = y ∧ y = z ∧ Circle a b c := by
  have ⟨first, second, back⟩ := circle
  simp only [compareItems] at first second back
  obtain ⟨rfl, rfl⟩ := eq_of_circle flat (Ordering.isLE_left_of_isLE_then first)
    (Ordering.isLE_left_of_isLE_then second)
    (Ordering.isLE_left_of_isLE_then (Ordering.isLE_of_eq_lt back))
  simp only [Item.compare_self, Ordering.eq_then] at first second back
  exact ⟨rfl, rfl, first, second, back⟩

theorem of_nested (circle : Circle [.nested a] [.nested b] [.nested c]) : Circle a b c := by
  have ⟨first, second, back⟩ := circle
  simp only [compareItems_nested] at first second back
  exact ⟨first, second, back⟩

/-- A circle among normal lists comes from a clash. -/
theorem clashing (normalA : NormalList a) (normalB : NormalList b) (normalC : NormalList c)
    (circle : Circle a b c) : Clashing a b c := by
  induction normalA generalizing b c with
  | nil => exact circle.clashing_of_nil_first
  | nested _ _ ih =>
    match b, c with
    | [], _ => exact circle.clashing_of_nil_second
    | _, [] => exact circle.clashing_of_nil_third
    | .nested b :: restB, .nested c :: restC =>
      -- Nothing follows nested lists, so that the circle lies within them.
      obtain rfl := normalB.tail_of_isNested rfl
      obtain rfl := normalC.tail_of_isNested rfl
      exact (ih normalB.of_nested normalC.of_nested circle.of_nested).within
    | .nested _ :: _, .number _ :: _ | .nested _ :: _, .qualifier _ :: _ =>
      exact absurd (circle.tails rfl).2.1 (by simp)
    | .number _ :: _, _ :: _ | .qualifier _ :: _, _ :: _ =>
      exact absurd (circle.tails rfl).1 (by simp)
  | @cons x _ flat _ _ ih =>
    match b, c with
    | [], _ => exact circle.clashing_of_nil_second
    | _, [] => exact circle.clashing_of_nil_third
    | y :: b, z :: c =>
      obtain ⟨rfl, rfl, rest⟩ := circle.tails (by simp [flat])
      exact (ih normalB.tail normalC.tail rest).behind x

end Circle

/-! Versions that never clash. -/

mutual
/-- A nested list begins with an item that says something, and goes on like any other list. -/
def Item.orderly : Item → Bool
  | .number _ | .qualifier _ => true
  | .nested [] | .nested (.nested _ :: _) => false
  | .nested (.number value :: rest) => value != 0 && orderlyItems rest
  | .nested (.qualifier name :: rest) => rank name != releaseRank && orderlyItems rest
termination_by structural item => item

/-- Wherever a list goes on with a number it stands above one that ends there, and below it wherever
it goes on with a qualifier. -/
def orderlyItems : List Item → Bool
  | [] => true
  | .number value :: rest =>
    compareMissings (.number value :: rest) == .gt && orderlyItems rest
  | .qualifier name :: rest =>
    compareMissings (.qualifier name :: rest) == .lt && orderlyItems rest
  | .nested inner :: rest => rest.isEmpty && (Item.nested inner).orderly
termination_by structural items => items
end

def Orderly (version : Version) : Prop := orderlyItems version.items = true

/-- Nested lists stand to each other as they stand to nothing. -/
theorem not_lt_of_nested_orderly {left right : List Item}
    (opens : (Item.nested left).orderly = true) (opens' : (Item.nested right).orderly = true)
    (above : (Item.nested left).compareMissing.isGE)
    (below : (Item.nested right).compareMissing.isLE) : compareItems left right ≠ .lt := by
  cases left with
  | nil => simp [Item.orderly] at opens
  | cons first lefts =>
    cases right with
    | nil => simp [Item.orderly] at opens'
    | cons second rights =>
      cases second with
      | nested => simp [Item.orderly] at opens'
      | number right =>
        simp only [Item.orderly, Bool.and_eq_true, bne_iff_ne, ne_eq] at opens'
        simp only [Item.compareMissing, Nat.isLE_compare] at below
        omega
      | qualifier right =>
        cases first with
        | nested => simp [Item.orderly] at opens
        | number => simp [compareItems, Item.compare]
        | qualifier left =>
          simp only [Item.orderly, Bool.and_eq_true, bne_iff_ne, ne_eq] at opens'
          simp only [Item.compareMissing, Nat.isLE_compare, Nat.isGE_compare] at above below
          have higher : Ord.compare (rank left) (rank right) = .gt := by
            rw [Nat.compare_eq_gt]
            omega
          simp [compareItems, Item.compare, compareQualifiers, higher]

theorem not_lt_of_orderlyItems : ∀ {left right : List Item}, orderlyItems left = true →
    orderlyItems right = true → (compareMissings left).isGE → (compareMissings right).isLE →
    compareItems left right ≠ .lt
  | [], right, _, _, _, below => by
    simpa [compareItems, ← Ordering.isLE_eq_false] using below
  | left, [], _, _, above, _ => by
    rw [compareItems_nil_right]
    exact Ordering.ne_lt_iff_isGE.mpr above
  | .qualifier _ :: _, _, orderly, _, above, _ => by
    simp only [orderlyItems, Bool.and_eq_true, beq_iff_eq] at orderly
    simp [orderly.1] at above
  | _, .number _ :: _, _, orderly, _, below => by
    simp only [orderlyItems, Bool.and_eq_true, beq_iff_eq] at orderly
    simp [orderly.1] at below
  | .number _ :: _, .qualifier _ :: _, _, _, _, _
  | .number _ :: _, .nested _ :: _, _, _, _, _
  | .nested _ :: _, .qualifier _ :: _, _, _, _, _ => by
    simp [compareItems, Item.compare]
  | .nested left :: lefts, .nested right :: rights, orderly, orderly', above, below => by
    simp only [orderlyItems, Bool.and_eq_true, List.isEmpty_iff] at orderly orderly'
    obtain ⟨rfl, opens⟩ := orderly
    obtain ⟨rfl, opens'⟩ := orderly'
    simp only [compareMissings, Ordering.then_eq] at above below
    rw [compareItems_nested]
    exact not_lt_of_nested_orderly opens opens' above below

theorem orderlyItems_tail {item : Item} {rest : List Item}
    (orderly : orderlyItems (item :: rest) = true) : orderlyItems rest = true := by
  cases item with
  | number value => simp_all [orderlyItems]
  | qualifier name => simp_all [orderlyItems]
  | nested inner =>
    simp only [orderlyItems, Bool.and_eq_true, List.isEmpty_iff] at orderly
    rw [orderly.1]
    rfl

theorem orderlyItems_tail_of_nested {item : Item} {rest : List Item}
    (orderly : (Item.nested (item :: rest)).orderly = true) : orderlyItems rest = true := by
  cases item with
  | number value => simp_all [Item.orderly]
  | qualifier name => simp_all [Item.orderly]
  | nested inner => simp [Item.orderly] at orderly

/-- Orderly lists do not clash, whether they stand by themselves or are nested in others. -/
theorem Clash.not_orderly {a b c : List Item} (clash : Clash a b c) :
    ¬(orderlyItems a = true ∧ orderlyItems b = true ∧ orderlyItems c = true) ∧
      ¬((Item.nested a).orderly = true ∧ (Item.nested b).orderly = true ∧
        (Item.nested c).orderly = true) := by
  induction clash with
  | ends ascending above below =>
    refine ⟨fun ⟨_, left, right⟩ => not_lt_of_orderlyItems left right above below ascending, ?_⟩
    rintro ⟨opens, _⟩
    exact absurd opens (by decide)
  | behind item _ ih =>
    constructor
    · rintro ⟨a, b, c⟩
      exact ih.1 ⟨orderlyItems_tail a, orderlyItems_tail b, orderlyItems_tail c⟩
    · rintro ⟨a, b, c⟩
      exact ih.1 ⟨orderlyItems_tail_of_nested a, orderlyItems_tail_of_nested b,
        orderlyItems_tail_of_nested c⟩
  | within _ ih =>
    refine ⟨fun orderly => ih.2 ?_, ?_⟩
    · simpa [orderlyItems] using orderly
    · simp [Item.orderly]

/-! Texts. -/

/-- The left text ranks no higher than the right one. -/
def AtMost (left right : String) : Prop :=
  ∃ order, compareTexts left right = .ok order ∧ order.isLE

structure TotalPreorderOn (texts : String → Prop) : Prop where
  total : ∀ a b, texts a → texts b → AtMost a b ∨ AtMost b a
  trans : ∀ a b c, texts a → texts b → texts c → AtMost a b → AtMost b c → AtMost a c

/-- No three texts of the class clash. -/
def ApartOn (texts : String → Prop) : Prop :=
  ∀ a b c u v w, texts a → texts b → texts c →
    ofText a = .ok u → ofText b = .ok v → ofText c = .ok w → ¬Clash u.items v.items w.items

theorem compareTexts_eq {a b : String} {u v : Version} (readA : ofText a = .ok u)
    (readB : ofText b = .ok v) : compareTexts a b = .ok (u.compare v) := by
  simp only [compareTexts, readA, readB]
  rfl

theorem atMost_iff {a b : String} {u v : Version} (readA : ofText a = .ok u)
    (readB : ofText b = .ok v) : AtMost a b ↔ (u.compare v).isLE := by
  simp [AtMost, compareTexts_eq readA readB]

theorem apartOn_of_totalPreorderOn {texts : String → Prop} (preorder : TotalPreorderOn texts) :
    ApartOn texts := by
  intro a b c u v w ofA ofB ofC readA readB readC clash
  obtain ⟨first, second, strict⟩ := clash.order
  have last := preorder.trans c a b ofC ofA ofB ((atMost_iff readC readA).mpr first)
    ((atMost_iff readA readB).mpr second)
  rw [atMost_iff readC readB, Version.compare, compareItems_swap v.items w.items, strict] at last
  simp at last

/-- Of two texts that can be read one ranks no higher than the other. -/
theorem atMost_total {a b : String} {u v : Version} (readA : ofText a = .ok u) (readB : ofText b = .ok v) :
    AtMost a b ∨ AtMost b a := by
  rw [atMost_iff readA readB, atMost_iff readB readA, Version.compare, Version.compare,
    compareItems_swap u.items v.items]
  cases compareItems u.items v.items <;> simp

theorem totalPreorderOn_of_apartOn {texts : String → Prop}
    (readable : ∀ text, texts text → ∃ version, ofText text = .ok version)
    (apart : ApartOn texts) : TotalPreorderOn texts where
  total a b ofA ofB := by
    obtain ⟨u, readA⟩ := readable a ofA
    obtain ⟨v, readB⟩ := readable b ofB
    exact atMost_total readA readB
  trans a b c ofA ofB ofC first second := by
    obtain ⟨u, readA⟩ := readable a ofA
    obtain ⟨v, readB⟩ := readable b ofB
    obtain ⟨w, readC⟩ := readable c ofC
    rw [atMost_iff readA readB] at first
    rw [atMost_iff readB readC] at second
    rw [atMost_iff readA readC]
    by_contra above
    have back : compareItems w.items u.items = .lt := by
      rw [compareItems_swap u.items w.items, Ordering.swap_eq_lt]
      simpa [Version.compare] using above
    obtain clash | clash | clash := (Circle.mk first second back).clashing
      (ofText_normal readA) (ofText_normal readB) (ofText_normal readC)
    · exact apart a b c u v w ofA ofB ofC readA readB readC clash
    · exact apart b c a v w u ofB ofC ofA readB readC readA clash
    · exact apart c a b w u v ofC ofA ofB readC readA readB clash

theorem apartOn_of_orderly {texts : String → Prop}
    (orderly : ∀ text version, texts text → ofText text = .ok version → version.Orderly) :
    ApartOn texts := by
  intro a b c u v w ofA ofB ofC readA readB readC clash
  exact clash.not_orderly.1 ⟨orderly a u ofA readA, orderly b v ofB readB, orderly c w ofC readC⟩

/-- The order is total on all texts that can be read. It is a total preorder on exactly those classes of
such texts in which no three clash; among them are all classes of orderly texts. -/
theorem totalPreorderOn_iff_apartOn {texts : String → Prop}
    (readable : ∀ text, texts text → ∃ version, ofText text = .ok version) :
    (∀ a b u v, ofText a = .ok u → ofText b = .ok v → AtMost a b ∨ AtMost b a) ∧
      (TotalPreorderOn texts ↔ ApartOn texts) ∧
      ((∀ text version, texts text → ofText text = .ok version → version.Orderly) →
        TotalPreorderOn texts) :=
  ⟨fun _ _ _ _ => atMost_total, ⟨apartOn_of_totalPreorderOn, totalPreorderOn_of_apartOn readable⟩,
    fun orderly => totalPreorderOn_of_apartOn readable (apartOn_of_orderly orderly)⟩

theorem totalPreorderOn_releases :
    let texts text := text ∈ ["1.0-rc-2", "1.0", "1.0-sp", "1.0.1"]
    (∀ text, texts text → ∃ version, ofText text = .ok version) ∧ TotalPreorderOn texts := by
  intro texts
  have read : ∀ text, texts text → ∃ version, ofText text = .ok version ∧ version.Orderly := by
    simp only [texts, List.forall_mem_cons, List.not_mem_nil, false_implies, implies_true, and_true]
    exact ⟨⟨⟨_, [.number 1, .nested [.qualifier "rc", .nested [.number 2]]]⟩, rfl, rfl⟩,
      ⟨⟨_, [.number 1]⟩, rfl, rfl⟩, ⟨⟨_, [.number 1, .nested [.qualifier "sp"]]⟩, rfl, rfl⟩,
      ⟨⟨_, [.number 1, .number 0, .number 1]⟩, rfl, rfl⟩⟩
  have readable : ∀ text, texts text → ∃ version, ofText text = .ok version :=
    fun text ofTexts => (read text ofTexts).imp fun _ => And.left
  refine ⟨readable, (totalPreorderOn_iff_apartOn readable).2.2 ?_⟩
  intro text version ofTexts readText
  obtain ⟨other, readOther, orderly⟩ := read text ofTexts
  cases readText.symm.trans readOther
  exact orderly

/-- Three texts in a circle: a qualifier behind a dot ranks above a release, a nested list with a
low qualifier below it, and the first of these below the second. -/
theorem not_totalPreorderOn_readable :
    compareTexts "1" "1.sp" = .ok .lt ∧ compareTexts "1.sp" "1-alpha" = .ok .lt ∧
      compareTexts "1-alpha" "1" = .ok .lt ∧
      ¬TotalPreorderOn fun text => ∃ version, ofText text = .ok version := by
  have one : ofText "1" = .ok ⟨"1", [.number 1]⟩ := rfl
  have sp : ofText "1.sp" = .ok ⟨"1.sp", [.number 1, .qualifier "sp"]⟩ := rfl
  have alpha : ofText "1-alpha" = .ok ⟨"1-alpha", [.number 1, .nested [.qualifier "alpha"]]⟩ := rfl
  rw [compareTexts_eq one sp, compareTexts_eq sp alpha, compareTexts_eq alpha one]
  refine ⟨by decide, by decide, by decide, fun preorder => ?_⟩
  have last := preorder.trans "1" "1.sp" "1-alpha" ⟨_, one⟩ ⟨_, sp⟩ ⟨_, alpha⟩
    ((atMost_iff one sp).mpr (by decide)) ((atMost_iff sp alpha).mpr (by decide))
  exact absurd ((atMost_iff one alpha).mp last) (by decide)

end MavenResolution.Version
