import MavenResolution.Proofs.Requirement.Declared
import MavenResolution.Proofs.Requirement.Inverted
import MavenResolution.Proofs.Requirement.Nearest

/-! Ranges along a chain. A version is allowed if it lies within a range of every set, so that it does not matter
in which order the sets are declared, nor how often. Only a bound that cannot be read makes a difference: it is
noticed where the walk comes to it, and not if another set has ruled out the version before. -/
namespace MavenResolution

open Text
open Declarations (stated)
open Version (ofText)

variable {range : Range} {ranges : List Range} {set : RangeSet} {version : Version}

/-! One range. -/

/-- The bounds of the range are versions. -/
structure Range.Readable (range : Range) : Prop where
  lower : ∀ bound ∈ range.lower, ∃ low, ofText bound = .ok low
  upper : ∀ bound ∈ range.upper, ∃ high, ofText bound = .ok high

/-- The version lies above the lower bound, if there is one, and on it only if the range takes it in. -/
def Range.Above (range : Range) (version : Version) : Prop :=
  ∀ bound ∈ range.lower, ∃ low, ofText bound = .ok low ∧ (low.compare version).isLE = true ∧
    (low.compare version = .eq → range.lowerClosed = true)

/-- The version lies below the upper bound, if there is one, and on it only if the range takes it in. -/
def Range.Below (range : Range) (version : Version) : Prop :=
  ∀ bound ∈ range.upper, ∃ high, ofText bound = .ok high ∧ (version.compare high).isLE = true ∧
    (version.compare high = .eq → range.upperClosed = true)

structure Range.Holds (range : Range) (version : Version) : Prop where
  above : range.Above version
  below : range.Below version

namespace Range

theorem Readable.aboveLower (readable : range.Readable) (version : Version) :
    ∃ above, range.aboveLower version = .ok above ∧ (above = true ↔ range.Above version) := by
  unfold Above
  cases bound : range.lower with
  | none => exact ⟨true, by rw [Range.aboveLower, bound], by simp⟩
  | some lower =>
    obtain ⟨low, read⟩ := readable.lower lower bound
    obtain ⟨above, isAbove, aboveIff⟩ := range.aboveLower_of_ofText bound read version
    exact ⟨above, isAbove, by simp [aboveIff, read]⟩

theorem Readable.belowUpper (readable : range.Readable) (version : Version) :
    ∃ below, range.belowUpper version = .ok below ∧ (below = true ↔ range.Below version) := by
  unfold Below
  cases bound : range.upper with
  | none => exact ⟨true, by rw [Range.belowUpper, bound], by simp⟩
  | some upper =>
    obtain ⟨high, read⟩ := readable.upper upper bound
    obtain ⟨below, isBelow, belowIff⟩ := range.belowUpper_of_ofText bound read version
    exact ⟨below, isBelow, by simp [belowIff, read]⟩

theorem Readable.contains (readable : range.Readable) (version : Version) :
    ∃ within, range.contains version = .ok within ∧ (within = true ↔ range.Holds version) := by
  obtain ⟨above, isAbove, aboveIff⟩ := readable.aboveLower version
  obtain ⟨below, isBelow, belowIff⟩ := readable.belowUpper version
  refine ⟨above && below, ?_, ?_⟩
  · rw [Range.contains, isAbove, isBelow]
    rfl
  · rw [Bool.and_eq_true, aboveIff, belowIff]
    exact ⟨fun both => ⟨both.1, both.2⟩, fun holds => ⟨holds.above, holds.below⟩⟩

/-- A range that can tell whether a version lies in it has read its bounds. -/
theorem readable_of_contains {within : Bool} (contained : range.contains version = .ok within) :
    range.Readable := by
  obtain ⟨above, isAbove, rest⟩ := bind_eq_ok_iff.mp contained
  obtain ⟨below, isBelow, -⟩ := bind_eq_ok_iff.mp rest
  refine ⟨fun bound given => ?_, fun bound given => ?_⟩
  · rw [Range.aboveLower, Option.mem_def.mp given] at isAbove
    obtain ⟨low, read, -⟩ := bind_eq_ok_iff.mp isAbove
    exact ⟨low, read⟩
  · rw [Range.belowUpper, Option.mem_def.mp given] at isBelow
    obtain ⟨high, read, -⟩ := bind_eq_ok_iff.mp isBelow
    exact ⟨high, read⟩

theorem holds_of_contains (contained : range.contains version = .ok true) : range.Holds version := by
  obtain ⟨within, isWithin, holds⟩ := (readable_of_contains contained).contains version
  cases contained.symm.trans isWithin
  exact holds.mp rfl

end Range

/-! Sets of ranges. -/

theorem RangeSet.exists_holds (contained : RangeSet.anyContains version ranges = .ok true) :
    ∃ range ∈ ranges, range.Holds version := by
  induction ranges with
  | nil => cases contained
  | cons range rest ih =>
    obtain ⟨first, isFirst, others⟩ := bind_eq_ok_iff.mp contained
    cases first with
    | true => exact ⟨range, List.mem_cons_self, Range.holds_of_contains isFirst⟩
    | false => exact (ih others).imp fun _ => And.imp_left (List.mem_cons_of_mem _)

theorem RangeSet.anyContains_of_readable (readable : ∀ range ∈ ranges, range.Readable) (version : Version) :
    ∃ within, RangeSet.anyContains version ranges = .ok within ∧
      (within = true ↔ ∃ range ∈ ranges, range.Holds version) := by
  induction ranges with
  | nil => exact ⟨false, rfl, by simp⟩
  | cons range rest ih =>
    rw [List.forall_mem_cons] at readable
    obtain ⟨first, contains, firstIff⟩ := readable.1.contains version
    obtain ⟨others, anyContains, othersIff⟩ := ih readable.2
    rw [RangeSet.anyContains, contains]
    cases first with
    | true => exact ⟨true, rfl, by simp [firstIff.mp rfl]⟩
    | false =>
      have outside : ¬range.Holds version := fun holds => Bool.false_ne_true (firstIff.mpr holds)
      exact ⟨others, anyContains, by simp [othersIff, outside]⟩

namespace Chain

variable {chain other : Chain} {text : String} {available : List String}

/-- All bounds of the ranges along the chain are versions. -/
def Readable (chain : Chain) : Prop := ∀ set, .ranges set ∈ chain → ∀ range ∈ set.ranges, range.Readable

/-- The version lies within a range of every set. -/
def Holds (chain : Chain) (version : Version) : Prop :=
  ∀ set, .ranges set ∈ chain → ∃ range ∈ set.ranges, range.Holds version

theorem withinRanges_of_readable (readable : chain.Readable) (version : Version) :
    ∃ within, chain.withinRanges version = .ok within ∧ (within = true ↔ chain.Holds version) := by
  unfold Holds
  induction chain with
  | nil => exact ⟨true, rfl, by simp⟩
  | cons requirement rest ih =>
    obtain ⟨others, withinOthers, othersIff⟩ :=
      ih fun set member => readable set (List.mem_cons_of_mem _ member)
    cases requirement with
    | exact | dynamic => exact ⟨others, withinOthers, by simp [othersIff]⟩
    | ranges set =>
      obtain ⟨first, contains, firstIff⟩ :=
        RangeSet.anyContains_of_readable (readable set List.mem_cons_self) version
      rw [withinRanges, RangeSet.contains, contains]
      cases first with
      | true => exact ⟨others, withinOthers, by simp [othersIff, firstIff.mp rfl]⟩
      | false =>
        refine ⟨false, rfl, iff_of_false Bool.false_ne_true fun all => ?_⟩
        exact Bool.false_ne_true (firstIff.mpr (all set List.mem_cons_self))

/-- What is allowed lies within a range of every set, whether all bounds can be read or not. -/
theorem holds_of_withinRanges (within : chain.withinRanges version = .ok true) : chain.Holds version :=
  fun set member => RangeSet.exists_holds (withinRanges_iff.mp within set member)

/-! Chains of the same requirements. -/

section

variable (same : ∀ requirement, requirement ∈ chain ↔ requirement ∈ other) (isRange : chain.isRange = true)

include same isRange

theorem isRange_of_same : other.isRange = true := by
  rw [isRange_iff] at isRange ⊢
  exact fun requirement member => isRange requirement ((same requirement).mpr member)

theorem permit_of_same {permitted permitted' : Option Version} (first : chain.permit text = .ok permitted)
    (second : other.permit text = .ok permitted') : permitted = permitted' := by
  obtain ⟨version, read, within, isWithin, rfl⟩ := (permit_of_isRange isRange).mp first
  obtain ⟨version', read', within', isWithin', rfl⟩ :=
    (permit_of_isRange (isRange_of_same same isRange)).mp second
  cases read.symm.trans read'
  have iff : within = true ↔ within' = true := by
    have whole : chain.withinRanges version = .ok true ↔ other.withinRanges version = .ok true := by
      simp only [withinRanges_iff, same]
    simpa only [isWithin, isWithin', Except.ok.injEq] using whole
  rw [Bool.eq_iff_iff.mpr iff]

theorem candidates_of_same {versions versions' : List Version} (first : chain.candidates available = .ok versions)
    (second : other.candidates available = .ok versions') : versions = versions' := by
  induction available generalizing versions versions' with
  | nil =>
    cases first
    cases second
    rfl
  | cons text rest ih =>
    simp only [candidates, bind_eq_ok_iff] at first second
    obtain ⟨permitted, permit, others, readOthers, rest⟩ := first
    obtain ⟨permitted', permit', others', readOthers', rest'⟩ := second
    cases rest
    cases rest'
    rw [permit_of_same same isRange permit permit', ih readOthers readOthers']

/-- What both chains select is the same version. -/
theorem select_of_same {selected selected' : Option String} (first : chain.select available = .ok selected)
    (second : other.select available = .ok selected') : selected = selected' := by
  obtain ⟨versions, read, rfl⟩ := (select_eq_ok_iff (needsAvailable_of_isRange isRange)).mp first
  obtain ⟨versions', read', rfl⟩ :=
    (select_eq_ok_iff (needsAvailable_of_isRange (isRange_of_same same isRange))).mp second
  rw [candidates_of_same same isRange read read']

end

/-- Where all bounds can be read, the available versions are all that a selection may fail on. -/
theorem select_of_readable (readable : chain.Readable) (isRange : chain.isRange = true)
    (parses : ∀ text ∈ available, ∃ version, ofText text = .ok version) :
    ∃ selected, chain.select available = .ok selected := by
  rw [select_succeeds_iff (needsAvailable_of_isRange isRange)]
  intro text member
  obtain ⟨version, read⟩ := parses text member
  obtain ⟨within, isWithin, -⟩ := withinRanges_of_readable readable version
  rw [Reads, if_pos isRange]
  exact ⟨version, within, read, isWithin⟩

end Chain

/-! Chains that are declared. -/

namespace Declarations

variable {constraints others available : List String}

/-- Range sets intersect along a chain. However often and in whatever order they are declared, what two chains
select is the same version, and a version that is allowed lies within a range of every set. If all bounds can be
read, both chains do select a version or none, and all that lies within a range of every set is allowed. What is
declared farther away never allows more. -/
theorem select_of_intersecting_ranges (nonempty : constraints ≠ [])
    (ranges : ∀ constraint ∈ constraints, (stated constraint).isRanges = true)
    (same : ∀ constraint, constraint ∈ others ↔ constraint ∈ constraints)
    (parses : ∀ text ∈ available, ∃ version, ofText text = .ok version)
    (declarations declarations' : Declarations) (owner owner' : ModuleId) :
    ∃ first second, declarations.chain owner constraints = .ok first ∧
      declarations'.chain owner' others = .ok second ∧
      let chain := first.declarations.chainOf first.handle
      let other := second.declarations.chainOf second.handle
      (∀ selected selected', chain.select available = .ok selected →
        other.select available = .ok selected' → selected = selected') ∧
      (∀ version, chain.withinRanges version = .ok true → Chain.Holds (constraints.map stated) version) ∧
      (Chain.Readable (constraints.map stated) →
        (∃ selected, chain.select available = .ok selected ∧ other.select available = .ok selected) ∧
        ∀ version, ∃ within, chain.withinRanges version = .ok within ∧
          (within = true ↔ Chain.Holds (constraints.map stated) version)) ∧
      ∀ farther, (stated farther).isRanges = true →
        ∃ next, first.declarations.add owner farther (some first.handle) = .ok next ∧
          (next.declarations.chainOf next.handle).isRange = true ∧
          ∀ version, (next.declarations.chainOf next.handle).withinRanges version = .ok true →
            chain.withinRanges version = .ok true := by
  have nonempty' : others ≠ [] := by
    rintro rfl
    refine nonempty (List.eq_nil_iff_forall_not_mem.mpr fun constraint member => ?_)
    cases (same constraint).mpr member
  obtain ⟨first, declared, ends⟩ := chain_ends declarations owner nonempty
  obtain ⟨second, declared', ends'⟩ := chain_ends declarations' owner' nonempty'
  refine ⟨first, second, declared, declared', ?_⟩
  dsimp only
  rw [ends.chain, ends'.chain]
  have isRange : Chain.isRange (constraints.map stated).reverse = true := by
    simpa [Chain.isRange_iff] using ranges
  have members : ∀ requirement, requirement ∈ (constraints.map stated).reverse ↔
      requirement ∈ (others.map stated).reverse := by
    simp [same]
  refine ⟨fun _ _ => Chain.select_of_same members isRange, fun version within => ?_, fun readable => ?_,
    fun farther farRanges => ?_⟩
  · simpa only [Chain.Holds, List.mem_reverse] using Chain.holds_of_withinRanges within
  · have readable : Chain.Readable (constraints.map stated).reverse := by
      simpa [Chain.Readable] using readable
    have readable' : Chain.Readable (others.map stated).reverse := by
      simpa only [Chain.Readable, members] using readable
    obtain ⟨selected, select⟩ := Chain.select_of_readable readable isRange parses
    obtain ⟨selected', select'⟩ :=
      Chain.select_of_readable readable' (Chain.isRange_of_same members isRange) parses
    obtain rfl := Chain.select_of_same members isRange select select'
    refine ⟨⟨selected, select, select'⟩, fun version => ?_⟩
    simpa only [Chain.Holds, List.mem_reverse] using Chain.withinRanges_of_readable readable version
  · obtain ⟨next, added, endsNext⟩ := ends.add farther
    refine ⟨next, added, ?_, fun version within => ?_⟩
    · rw [endsNext.chain, Chain.isRange_iff, List.forall_mem_cons]
      exact ⟨farRanges, Chain.isRange_iff.mp isRange⟩
    · rw [endsNext.chain] at within
      rw [Chain.withinRanges_iff] at within ⊢
      exact fun set member => within set (List.mem_cons_of_mem _ member)

/-- Two sets that overlap, and one of them once more. -/
theorem select_of_intersecting_ranges_repeated :
    let constraints := ["[1,3)", "[2,4)"]
    let others := ["[2,4)", "[1,3)", "[2,4)"]
    let available := ["1.5", "2.5", "3.5"]
    let declarations : Declarations := {}
    let owner : ModuleId := ⟨"org.example", "lib"⟩
    ∃ first second, declarations.chain owner constraints = .ok first ∧
      declarations.chain owner others = .ok second ∧
      (first.declarations.chainOf first.handle).select available = .ok (some "2.5") ∧
      (second.declarations.chainOf second.handle).select available = .ok (some "2.5") := by
  intro constraints others available declarations owner
  have low : stated "[1,3)" = .ranges ⟨[⟨some "1", true, some "3", false⟩]⟩ := rfl
  have high : stated "[2,4)" = .ranges ⟨[⟨some "2", true, some "4", false⟩]⟩ := rfl
  have requirements : constraints.map stated = [stated "[1,3)", stated "[2,4)"] := rfl
  have ranges : ∀ constraint ∈ constraints, (stated constraint).isRanges = true := by
    simp [constraints, low, high, Requirement.isRanges]
  have same : ∀ constraint, constraint ∈ others ↔ constraint ∈ constraints := by
    simp [constraints, others, or_comm]
  have parses : ∀ text ∈ available, ∃ version, ofText text = .ok version := by
    simp only [available, List.forall_mem_cons]
    exact ⟨⟨_, rfl⟩, ⟨_, rfl⟩, ⟨_, rfl⟩, nofun⟩
  have readable : Chain.Readable (constraints.map stated) := by
    rw [requirements, low, high]
    rintro set member range inside
    simp only [List.mem_cons, Requirement.ranges.injEq, List.not_mem_nil, or_false] at member
    obtain rfl | rfl := member <;> obtain rfl := List.mem_singleton.mp inside
    all_goals exact ⟨by rintro _ ⟨⟩; exact ⟨_, rfl⟩, by rintro _ ⟨⟩; exact ⟨_, rfl⟩⟩
  obtain ⟨first, second, declared, declared', -, -, both, -⟩ :=
    select_of_intersecting_ranges (by decide) ranges same parses declarations declarations owner owner
  obtain ⟨⟨selected, select, select'⟩, -⟩ := both readable
  obtain ⟨added, declaredToo, ends⟩ := chain_ends declarations owner (show constraints ≠ [] by decide)
  cases declared.symm.trans declaredToo
  have newest : (first.declarations.chainOf first.handle).select available = .ok (some "2.5") := by
    rw [ends.chain, requirements, low, high]
    rfl
  cases newest.symm.trans select
  exact ⟨first, second, declared, declared', newest, select'⟩

/-- A bound that cannot be read, in the nearer set and in the farther one: the other set rules out the version
before the walk comes to it, or after. -/
theorem not_select_of_intersecting_ranges_unreadable :
    let constraints := ["[²,3]", "[1,2]"]
    let others := ["[1,2]", "[²,3]"]
    let declarations : Declarations := {}
    let owner : ModuleId := ⟨"org.example", "lib"⟩
    (∀ constraint ∈ constraints, (stated constraint).isRanges = true) ∧ others.Perm constraints ∧
      (∃ version, ofText "5" = .ok version) ∧
      ∃ first second, declarations.chain owner constraints = .ok first ∧
        declarations.chain owner others = .ok second ∧
        (first.declarations.chainOf first.handle).select ["5"] = .ok none ∧
        (second.declarations.chainOf second.handle).select ["5"] = .error (.notNumeral "²") := by
  intro constraints others declarations owner
  have readable : stated "[1,2]" = .ranges ⟨[⟨some "1", true, some "2", true⟩]⟩ := rfl
  have unreadable : stated "[²,3]" = .ranges ⟨[⟨some "²", true, some "3", true⟩]⟩ := rfl
  obtain ⟨first, declared, ends⟩ := chain_ends declarations owner (show constraints ≠ [] by decide)
  obtain ⟨second, declared', ends'⟩ := chain_ends declarations owner (show others ≠ [] by decide)
  have chain : (constraints.map stated).reverse = [stated "[1,2]", stated "[²,3]"] := rfl
  have chain' : (others.map stated).reverse = [stated "[²,3]", stated "[1,2]"] := rfl
  refine ⟨?_, List.Perm.swap _ _ _, ⟨_, rfl⟩, first, second, declared, declared', ?_, ?_⟩
  · simp [constraints, readable, unreadable, Requirement.isRanges]
  · rw [ends.chain, chain, readable, unreadable]
    rfl
  · rw [ends'.chain, chain', readable, unreadable]
    rfl

end Declarations

end MavenResolution
