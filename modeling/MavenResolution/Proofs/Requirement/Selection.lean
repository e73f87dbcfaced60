import MavenResolution.Proofs.Outcome
import MavenResolution.Proofs.Version.Greatest
import MavenResolution.Proofs.Version.Transitivity
import MavenResolution.Requirement.Selection

/-! The version that a chain selects among those available: there is one if the chain allows any,
and the chain allows it. No other that it allows exceeds it, in whatever order they are listed,
exactly if the allowed ones make no loop. -/
namespace MavenResolution.Chain

open Text
open Version (AtMost TotalPreorderOn compareTexts compareTexts_eq max? ofText)

variable {chain : Chain} {text : String} {texts available : List String} {version : Version}
  {versions : List Version}

/-- An available text lies in every range set of a chain of ranges; a dynamic chain allows any,
or any that is no snapshot. -/
def Allows (chain : Chain) (text : String) : Prop :=
  ∃ version, ofText text = .ok version ∧
    if chain.isRange = true then ∀ set, .ranges set ∈ chain → set.contains version = .ok true
    else chain.root? = some (.dynamic .release) → Snapshot.isSnapshot text = false

/-- A text of which the chain can tell whether it allows it. -/
def Reads (chain : Chain) (text : String) : Prop :=
  if chain.isRange = true then
    ∃ version within, ofText text = .ok version ∧ chain.withinRanges version = .ok within
  else (chain.root? = some (.dynamic .release) ∧ Snapshot.isSnapshot text = true) ∨
    ∃ version, ofText text = .ok version

/-- The allowed versions make no loop: where two steps lead up, the last version ranks above the
first one. -/
def Straight (chain : Chain) (available : List String) : Prop :=
  ∀ a ∈ available, ∀ b ∈ available, ∀ c ∈ available,
    chain.Allows a → chain.Allows b → chain.Allows c →
    compareTexts b a = .ok .gt → compareTexts c b = .ok .gt → ¬AtMost c a

/-- None, or versions that are equal though their texts may differ. -/
def Same : Option String → Option String → Prop
  | none, none => True
  | some left, some right => compareTexts left right = .ok .eq
  | _, _ => False

/-! One text. -/

/-- The version of a text if the chain allows it. -/
def permit (chain : Chain) (text : String) : Except NumeralError (Option Version) :=
  if chain.isRange then do
    let version ← ofText text
    return if ← chain.withinRanges version then some version else none
  else if chain.root? = some (.dynamic .release) ∧ Snapshot.isSnapshot text then .ok none
  else do return some (← ofText text)

theorem withinRanges_iff : chain.withinRanges version = .ok true ↔
    ∀ set, .ranges set ∈ chain → set.contains version = .ok true := by
  induction chain with
  | nil => simp [withinRanges]
  | cons requirement rest ih =>
    cases requirement with
    | exact | dynamic => simpa [withinRanges] using ih
    | ranges set =>
      simp only [withinRanges, bind_eq_ok_iff, List.mem_cons]
      constructor
      · rintro ⟨within, contained, others⟩ other (same | member)
        · cases same
          cases within <;> simp_all [pure, Except.pure]
        · cases within <;> simp_all [pure, Except.pure]
      · intro contained
        exact ⟨true, contained set (.inl rfl), by
          simpa using ih.mpr fun other member => contained other (.inr member)⟩

theorem permit_of_isRange (isRange : chain.isRange = true) {permitted : Option Version} :
    chain.permit text = .ok permitted ↔ ∃ version, ofText text = .ok version ∧
      ∃ within, chain.withinRanges version = .ok within ∧
        (if within then some version else none) = permitted := by
  simp [permit, isRange, bind_eq_ok_iff, pure, Except.pure]

theorem permit_of_not_isRange (isRange : chain.isRange = false) {permitted : Option Version} :
    chain.permit text = .ok permitted ↔
      if chain.root? = some (.dynamic .release) ∧ Snapshot.isSnapshot text then none = permitted
      else ∃ version, ofText text = .ok version ∧ some version = permitted := by
  simp only [permit, isRange, Bool.false_eq_true, if_false]
  split <;> simp [bind_eq_ok_iff, pure, Except.pure]

theorem allows_iff : chain.Allows text ↔ ∃ version, chain.permit text = .ok (some version) := by
  unfold Allows
  cases isRange : chain.isRange with
  | true =>
    simp only [permit_of_isRange isRange, if_true, ← withinRanges_iff]
    constructor
    · rintro ⟨version, read, within⟩
      exact ⟨version, version, read, true, within, rfl⟩
    · rintro ⟨_, version, read, within, readWithin, permitted⟩
      cases within
      · cases permitted
      · exact ⟨version, read, readWithin⟩
  | false =>
    simp only [permit_of_not_isRange isRange, Bool.false_eq_true, if_false]
    constructor
    · rintro ⟨version, read, release⟩
      refine ⟨version, ?_⟩
      rw [if_neg fun ⟨root, snapshot⟩ => by simp [release root] at snapshot]
      exact ⟨version, read, rfl⟩
    · rintro ⟨_, permitted⟩
      split at permitted
      · cases permitted
      · rename_i kept
        obtain ⟨version, read, _⟩ := permitted
        exact ⟨version, read, fun root => by simpa [root] using kept⟩

theorem reads_iff : chain.Reads text ↔ ∃ permitted, chain.permit text = .ok permitted := by
  unfold Reads
  cases isRange : chain.isRange with
  | true =>
    simp only [permit_of_isRange isRange, if_true]
    constructor
    · rintro ⟨version, within, read, readWithin⟩
      exact ⟨_, version, read, within, readWithin, rfl⟩
    · rintro ⟨_, version, read, within, readWithin, _⟩
      exact ⟨version, within, read, readWithin⟩
  | false =>
    simp only [permit_of_not_isRange isRange, Bool.false_eq_true, if_false]
    by_cases dropped : chain.root? = some (.dynamic .release) ∧ Snapshot.isSnapshot text = true
    · simp [dropped]
    · simp [dropped]

theorem ofText_of_permit (permitted : chain.permit text = .ok (some version)) :
    ofText text = .ok version := by
  cases isRange : chain.isRange with
  | true =>
    obtain ⟨other, read, within, _, same⟩ := (permit_of_isRange isRange).mp permitted
    cases within <;> cases same
    exact read
  | false =>
    have cases := (permit_of_not_isRange isRange).mp permitted
    split at cases
    · cases cases
    · obtain ⟨other, read, same⟩ := cases
      cases same
      exact read

theorem text_of_ofText (read : ofText text = .ok version) : version.text = text := by
  obtain ⟨items, _, same⟩ := bind_eq_ok_iff.mp read
  cases same
  rfl

/-! All texts. -/

/-- The versions that the chain leaves to choose from. -/
def candidates (chain : Chain) : List String → Except NumeralError (List Version)
  | [] => .ok []
  | text :: rest => do
    let permitted ← chain.permit text
    let others ← candidates chain rest
    return permitted.toList ++ others

theorem inRange_eq_candidates (isRange : chain.isRange = true) (available : List String) :
    chain.inRange available = chain.candidates available := by
  induction available with
  | nil => rfl
  | cons text rest ih =>
    simp only [inRange, candidates, permit, isRange, if_true, ih, bind_assoc, pure_bind]
    congr 1
    funext version
    congr 1
    funext within
    cases within <;> rfl

theorem readAll_eq_candidates {kind : Dynamic} (isRange : chain.isRange = false)
    (root : chain.root? = some (.dynamic kind)) (available : List String) :
    Version.readAll (dynamicCandidates kind available) = chain.candidates available := by
  induction available with
  | nil => cases kind <;> rfl
  | cons text rest ih =>
    by_cases dropped : kind = .release ∧ Snapshot.isSnapshot text = true
    · obtain ⟨rfl, snapshot⟩ := dropped
      have shorter : dynamicCandidates .release (text :: rest) = dynamicCandidates .release rest := by
        simp [dynamicCandidates, snapshot]
      simp only [shorter, ih, candidates, permit, isRange, root, snapshot]
      cases chain.candidates rest <;> rfl
    · have longer : dynamicCandidates kind (text :: rest) = text :: dynamicCandidates kind rest := by
        cases kind <;> simp_all [dynamicCandidates]
      have kept : ¬(chain.root? = some (.dynamic .release) ∧ Snapshot.isSnapshot text = true) := by
        simpa [root] using dropped
      simp only [longer, Version.readAll, List.mapM_cons, candidates, permit, isRange,
        Bool.false_eq_true, if_false, if_neg kept, ← ih, bind_assoc, pure_bind]
      rfl

theorem select_eq (choosing : chain.needsAvailable = true) (available : List String) :
    chain.select available =
      (do return (max? (← chain.candidates available)).map (·.text)) := by
  unfold select
  cases isRange : chain.isRange with
  | true => simp only [if_true, inRange_eq_candidates isRange]
  | false =>
    simp only [needsAvailable, mode, isRange, Bool.false_eq_true, if_false] at choosing ⊢
    split at choosing
    · rename_i kind root
      simp only [readAll_eq_candidates isRange root]
    · contradiction

theorem candidates_succeeds_iff : (∃ versions, chain.candidates available = .ok versions) ↔
    ∀ text ∈ available, chain.Reads text := by
  simp only [reads_iff]
  induction available with
  | nil => simp [candidates]
  | cons text rest ih =>
    simp only [List.forall_mem_cons, ← ih, candidates, bind_eq_ok_iff]
    constructor
    · rintro ⟨_, permitted, readText, others, readOthers, _⟩
      exact ⟨⟨permitted, readText⟩, others, readOthers⟩
    · rintro ⟨⟨permitted, readText⟩, others, readOthers⟩
      exact ⟨_, permitted, readText, others, readOthers, rfl⟩

theorem mem_candidates_iff (read : chain.candidates available = .ok versions) :
    version ∈ versions ↔ ∃ text ∈ available, chain.permit text = .ok (some version) := by
  induction available generalizing versions with
  | nil =>
    cases read
    simp
  | cons text rest ih =>
    simp only [candidates, bind_eq_ok_iff] at read
    obtain ⟨permitted, readText, others, readOthers, same⟩ := read
    cases same
    simp [ih readOthers, readText]

/-! The selection. -/

theorem select_eq_ok_iff (choosing : chain.needsAvailable = true) {selected : Option String} :
    chain.select available = .ok selected ↔
      ∃ versions, chain.candidates available = .ok versions ∧
        (max? versions).map (·.text) = selected := by
  simp [select_eq choosing, bind_eq_ok_iff, pure, Except.pure]

theorem select_succeeds_iff (choosing : chain.needsAvailable = true) :
    (∃ selected, chain.select available = .ok selected) ↔ ∀ text ∈ available, chain.Reads text := by
  rw [← candidates_succeeds_iff]
  simp only [select_eq_ok_iff choosing]
  exact ⟨fun ⟨_, versions, read, _⟩ => ⟨versions, read⟩,
    fun ⟨versions, read⟩ => ⟨_, versions, read, rfl⟩⟩

theorem select_none_iff (choosing : chain.needsAvailable = true) {selected : Option String}
    (select : chain.select available = .ok selected) :
    selected = none ↔ ∀ text ∈ available, ¬chain.Allows text := by
  obtain ⟨versions, read, rfl⟩ := (select_eq_ok_iff choosing).mp select
  rw [Option.map_eq_none_iff, Version.max?_eq_none, List.eq_nil_iff_forall_not_mem]
  simp only [mem_candidates_iff read, allows_iff, not_exists, not_and]
  exact forall_comm.trans (forall_congr' fun _ => forall_comm)

/-- What is selected is a version that the chain allows. -/
theorem select_some (choosing : chain.needsAvailable = true) {best : String}
    (select : chain.select available = .ok (some best)) :
    ∃ versions version, chain.candidates available = .ok versions ∧ max? versions = some version ∧
      version.text = best ∧ best ∈ available ∧ chain.permit best = .ok (some version) := by
  obtain ⟨versions, read, selected⟩ := (select_eq_ok_iff choosing).mp select
  obtain ⟨version, found, rfl⟩ := Option.map_eq_some_iff.mp selected
  obtain ⟨text, member, permitted⟩ := (mem_candidates_iff read).mp (Version.max?_mem found)
  obtain rfl := text_of_ofText (ofText_of_permit permitted)
  exact ⟨versions, version, read, found, rfl, member, permitted⟩

theorem atMost_iff_ne_gt {a b : String} {u v : Version} (readA : ofText a = .ok u)
    (readB : ofText b = .ok v) : AtMost a b ↔ u.compare v ≠ .gt := by
  rw [Version.atMost_iff readA readB, ne_eq, ← Ordering.ne_gt_iff_isLE]

theorem Straight.candidates (straight : chain.Straight available)
    (read : chain.candidates available = .ok versions) : Version.Straight versions := by
  intro u ofU v ofV w ofW loop
  obtain ⟨a, memberA, permitA⟩ := (mem_candidates_iff read).mp ofU
  obtain ⟨b, memberB, permitB⟩ := (mem_candidates_iff read).mp ofV
  obtain ⟨c, memberC, permitC⟩ := (mem_candidates_iff read).mp ofW
  have readA := ofText_of_permit permitA
  have readB := ofText_of_permit permitB
  have readC := ofText_of_permit permitC
  refine straight a memberA b memberB c memberC (allows_iff.mpr ⟨u, permitA⟩)
    (allows_iff.mpr ⟨v, permitB⟩) (allows_iff.mpr ⟨w, permitC⟩) ?_ ?_ ?_
  · rw [compareTexts_eq readB readA, loop.first]
  · rw [compareTexts_eq readC readB, loop.second]
  · rw [atMost_iff_ne_gt readC readA]
    exact loop.back

theorem select_unexceeded (choosing : chain.needsAvailable = true)
    (straight : chain.Straight available) {best : String}
    (select : chain.select available = .ok (some best)) {text : String} (member : text ∈ available)
    (allowed : chain.Allows text) : AtMost text best := by
  obtain ⟨versions, version, read, found, _, _, permitted⟩ := select_some choosing select
  obtain ⟨other, permittedOther⟩ := allows_iff.mp allowed
  rw [atMost_iff_ne_gt (ofText_of_permit permittedOther) (ofText_of_permit permitted)]
  exact Version.max?_unexceeded (straight.candidates read) found other
    ((mem_candidates_iff read).mpr ⟨text, member, permittedOther⟩)

/-- Where the allowed versions make a loop, there is a list of them from which one is selected that
another one exceeds. -/
theorem straight_of_unexceeded (choosing : chain.needsAvailable = true)
    (unexceeded : ∀ drawn ⊆ available, ∀ best, chain.select drawn = .ok (some best) →
      ∀ text ∈ drawn, chain.Allows text → AtMost text best) : chain.Straight available := by
  intro a memberA b memberB c memberC allowA allowB allowC first second back
  obtain ⟨u, permitA⟩ := allows_iff.mp allowA
  obtain ⟨v, permitB⟩ := allows_iff.mp allowB
  obtain ⟨w, permitC⟩ := allows_iff.mp allowC
  have readA := ofText_of_permit permitA
  have readB := ofText_of_permit permitB
  have readC := ofText_of_permit permitC
  rw [compareTexts_eq readB readA, Except.ok.injEq] at first
  rw [compareTexts_eq readC readB, Except.ok.injEq] at second
  rw [atMost_iff_ne_gt readC readA] at back
  have loop : Version.Loop u v w := ⟨first, second, back⟩
  have within : [a, c, b] ⊆ available := by simp [memberA, memberB, memberC]
  have select : chain.select [a, c, b] = .ok (some b) := by
    rw [select_eq_ok_iff choosing]
    refine ⟨[u, w, v], ?_, ?_⟩
    · simp only [Chain.candidates, permitA, permitB, permitC]
      rfl
    · rw [loop.max?, Option.map_some, text_of_ofText readB]
  have last := unexceeded [a, c, b] within b select c (by simp) allowC
  rw [atMost_iff_ne_gt readC readB] at last
  exact last second

theorem straight_of_totalPreorderOn
    (preorder : TotalPreorderOn fun text => text ∈ available ∧ chain.Allows text) :
    chain.Straight available := by
  intro a memberA b memberB c memberC allowA allowB allowC first second back
  have not_atMost {left right : String} (greater : compareTexts left right = .ok .gt) :
      ¬AtMost left right := by
    rintro ⟨order, compared, least⟩
    cases greater.symm.trans compared
    cases least
  obtain up | down := preorder.total a b ⟨memberA, allowA⟩ ⟨memberB, allowB⟩
  · exact not_atMost second
      (preorder.trans c a b ⟨memberC, allowC⟩ ⟨memberA, allowA⟩ ⟨memberB, allowB⟩ back up)
  · exact not_atMost first down

theorem select_perm (choosing : chain.needsAvailable = true) (straight : chain.Straight available)
    {permuted : List String} (same : permuted.Perm available) {selected : Option String}
    (select : chain.select available = .ok selected) :
    ∃ other, chain.select permuted = .ok other ∧ Same selected other := by
  have straight' : chain.Straight permuted := by
    simpa only [Straight, same.mem_iff] using straight
  have reads := (select_succeeds_iff choosing).mp ⟨selected, select⟩
  have reads' : ∀ text ∈ permuted, chain.Reads text :=
    fun text member => reads text (same.mem_iff.mp member)
  obtain ⟨other, select'⟩ := (select_succeeds_iff choosing).mpr reads'
  refine ⟨other, select', ?_⟩
  have agree : selected = none ↔ other = none := by
    simp only [select_none_iff choosing select, select_none_iff choosing select', same.mem_iff]
  match selected, other, agree with
  | none, none, _ => trivial
  | none, some _, agree => exact absurd (agree.mp rfl) (Option.some_ne_none _)
  | some _, none, agree => exact absurd (agree.mpr rfl) (Option.some_ne_none _)
  | some best, some other, _ =>
    obtain ⟨_, u, _, _, _, member, permitted⟩ := select_some choosing select
    obtain ⟨_, v, _, _, _, member', permitted'⟩ := select_some choosing select'
    have below := select_unexceeded choosing straight' select' (same.mem_iff.mpr member)
      (allows_iff.mpr ⟨u, permitted⟩)
    have above := select_unexceeded choosing straight select (same.mem_iff.mp member')
      (allows_iff.mpr ⟨v, permitted'⟩)
    have read := ofText_of_permit permitted
    have read' := ofText_of_permit permitted'
    rw [atMost_iff_ne_gt read read'] at below
    rw [atMost_iff_ne_gt read' read, Version.compare_swap] at above
    rw [Same, compareTexts_eq read read']
    cases order : u.compare v <;> simp_all

/-- A selection succeeds if all that it reads can be read. It finds a version that the chain allows
unless there is none. No allowed version exceeds the selected one, whichever of them are listed,
exactly if they make no loop; then their order does not matter either. -/
theorem select_unexceeded_iff_straight (choosing : chain.needsAvailable = true)
    (available : List String) :
    ((∃ selected, chain.select available = .ok selected) ↔
      ∀ text ∈ available, chain.Reads text) ∧
    (∀ selected, chain.select available = .ok selected →
      (selected = none ↔ ∀ text ∈ available, ¬chain.Allows text) ∧
      ∀ best, selected = some best → best ∈ available ∧ chain.Allows best) ∧
    ((∀ drawn ⊆ available, ∀ best, chain.select drawn = .ok (some best) →
      ∀ text ∈ drawn, chain.Allows text → AtMost text best) ↔ chain.Straight available) ∧
    (chain.Straight available → ∀ permuted : List String, permuted.Perm available →
      ∀ selected, chain.select available = .ok selected →
        ∃ other, chain.select permuted = .ok other ∧ Same selected other) ∧
    ((TotalPreorderOn fun text => text ∈ available ∧ chain.Allows text) →
      chain.Straight available) := by
  refine ⟨select_succeeds_iff choosing, fun selected select => ⟨select_none_iff choosing select, ?_⟩,
    ⟨straight_of_unexceeded choosing, ?_⟩,
    fun straight permuted same selected select => select_perm choosing straight same select,
    straight_of_totalPreorderOn⟩
  · rintro best rfl
    obtain ⟨_, version, _, _, _, member, permitted⟩ := select_some choosing select
    exact ⟨member, allows_iff.mpr ⟨version, permitted⟩⟩
  · intro straight drawn within best select text member
    have drawnStraight : chain.Straight drawn := fun a ofA b ofB c ofC =>
      straight a (within ofA) b (within ofB) c (within ofC)
    exact select_unexceeded choosing drawnStraight select member

theorem select_release_unexceeded :
    let chain : Chain := [.dynamic .release]
    chain.needsAvailable = true ∧
      chain.select ["1.0", "2.0", "2.1-SNAPSHOT"] = .ok (some "2.0") ∧ chain.Allows "2.0" := by
  intro chain
  have choosing : chain.needsAvailable = true := rfl
  have select : chain.select ["1.0", "2.0", "2.1-SNAPSHOT"] = .ok (some "2.0") := rfl
  exact ⟨choosing, select,
    (((select_unexceeded_iff_straight choosing _).2.1 _ select).2 _ rfl).2⟩

/-- The newest of three versions that make a loop: one of the others exceeds it, and in another
order that one is selected. Of three in a circle none at all is left unexceeded. -/
theorem select_latest_exceeded :
    let chain : Chain := [.dynamic .latest]
    let circle := ["1", "1.sp", "1-alpha"]
    chain.select ["1", "1-0.1", "1-sp"] = .ok (some "1-sp") ∧
      chain.Allows "1-0.1" ∧ compareTexts "1-0.1" "1-sp" = .ok .gt ∧
      ["1-0.1", "1", "1-sp"].Perm ["1", "1-0.1", "1-sp"] ∧
      chain.select ["1-0.1", "1", "1-sp"] = .ok (some "1-0.1") ∧
      ∀ best ∈ circle, ∃ text ∈ circle, chain.Allows text ∧ compareTexts text best = .ok .gt := by
  intro chain circle
  have one : ofText "1" = .ok ⟨"1", [.number 1]⟩ := rfl
  have mixed : ofText "1-0.1" = .ok ⟨"1-0.1", [.number 1, .nested [.number 0, .number 1]]⟩ := rfl
  have nested : ofText "1-sp" = .ok ⟨"1-sp", [.number 1, .nested [.qualifier "sp"]]⟩ := rfl
  have sp : ofText "1.sp" = .ok ⟨"1.sp", [.number 1, .qualifier "sp"]⟩ := rfl
  have alpha : ofText "1-alpha" = .ok ⟨"1-alpha", [.number 1, .nested [.qualifier "alpha"]]⟩ := rfl
  have allows {text : String} {version : Version} (read : ofText text = .ok version) :
      chain.Allows text := by
    refine ⟨version, read, ?_⟩
    rw [if_neg (by decide)]
    intro root
    cases root
  refine ⟨rfl, allows mixed, ?_, List.Perm.swap _ _ _, rfl, ?_⟩
  · rw [compareTexts_eq mixed nested]
    decide
  · simp only [circle, List.forall_mem_cons]
    refine ⟨⟨"1.sp", by simp, allows sp, ?_⟩, ⟨"1-alpha", by simp, allows alpha, ?_⟩,
      ⟨"1", by simp, allows one, ?_⟩, by simp⟩
    · rw [compareTexts_eq sp one]
      decide
    · rw [compareTexts_eq alpha sp]
      decide
    · rw [compareTexts_eq one alpha]
      decide

end MavenResolution.Chain
