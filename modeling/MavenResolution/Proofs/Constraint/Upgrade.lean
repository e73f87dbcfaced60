import Mathlib.Data.List.Find
import MavenResolution.Constraint.Validation
import MavenResolution.Proofs.Constraint.Candidate
import MavenResolution.Proofs.Constraint.Release

/-! The search for an upgrade. Among releases written in ASCII a comparator orders by the core alone, for texts that
have the same core are equal as versions. So the search finds the first of the candidates whose core is greatest. -/
namespace MavenResolution

open Text Constraint Version

/-! Cores in the order of their segments. -/

def Core.lex (core : Core) : ℕ ×ₗ ℕ ×ₗ ℕ ×ₗ ℕ :=
  toLex (core.major, toLex (core.minor, toLex (core.patch, core.extra)))

namespace Core

variable {left right : Core}

theorem compare_eq_gt_iff : left.compare right = .gt ↔ right.lex < left.lex := by
  simp only [compare, lex, Ordering.then_eq_gt, Ordering.then_eq_eq, Prod.Lex.toLex_lt_toLex, Nat.compare_eq_gt,
    Nat.compare_eq_eq]
  omega

theorem compare_eq_lt_iff : left.compare right = .lt ↔ left.lex < right.lex := by
  simp only [compare, lex, Ordering.then_eq_lt, Ordering.then_eq_eq, Prod.Lex.toLex_lt_toLex, Nat.compare_eq_lt,
    Nat.compare_eq_eq]
  omega

theorem compare_self (core : Core) : core.compare core = .eq := by
  simp [compare]

theorem lex_injective : Function.Injective lex := by
  rintro ⟨_, _, _, _⟩ ⟨_, _, _, _⟩ same
  cases same
  rfl

end Core

/-- The core of a version that has one. -/
def Parts.core? (version : String) : Option Core :=
  match ofVersion version with
  | .ok (some parts) => some parts.core
  | _ => none

/-- A version has a core and leaves no remainder. -/
def Parts.IsRelease (version : String) : Prop := ∃ core, ofVersion version = .ok (some ⟨core, ""⟩)

/-- A text in ASCII without white space at its ends, of which the runs of digits can be read. -/
structure Parts.IsPlain (version : String) : Prop where
  ascii : ∀ c ∈ version.toList, c.toNat < 128
  trimmed : trim version.toList = version.toList
  short : ShortRuns version.toList

namespace Comparator

/-- The candidate is allowed, and the answer is given. -/
def accepts (comparator : Comparator) (current : Option String) (candidate : String) : Bool :=
  match comparator.allows current candidate with
  | .ok valid => valid
  | .error _ => false

variable {comparator : Comparator} {dialect : Dialect} {constraint left right candidate best : String}
  {current : Option String} {candidates rest : List String} {first second core : Core}

/-- A comparator that allows more than one version, and of these the releases. -/
structure Ranged (comparator : Comparator) : Prop where
  rule : comparator.rule ≠ .same
  pattern : comparator.pattern = none

theorem allow_eq_ok_none {tools : Tools} {range : List Block} {rule : Rule} {pattern : Option Pattern}
    (allow : tools.allow none range = .ok (.ok rule, pattern)) : rule ≠ .same ∧ pattern = none := by
  obtain ⟨_, ⟨⟩, rest⟩ := bind_eq_ok_iff.mp allow
  obtain ⟨_, -, ⟨⟩⟩ := bind_eq_ok_iff.mp rest
  exact ⟨by simp, rfl⟩

/-- Where no pattern is given none is compiled, and what is read as a range allows more than one version. -/
theorem readRange_eq_ok_none {tools : Tools} {text : List Char} {rule : Rule} {pattern : Option Pattern}
    (read : readRange tools dialect text none = .ok (.ok rule, pattern)) : rule ≠ .same ∧ pattern = none := by
  cases dialect with
  | tilde | caret =>
    simp only [readRange] at read
    split at read
    · cases read
    · exact allow_eq_ok_none read
  | xRange =>
    simp only [readRange] at read
    split at read
    · cases read
    · split at read
      · cases read
      · split at read
        · cases read
        · obtain ⟨_, -, rest⟩ := bind_eq_ok_iff.mp read
          obtain ⟨_, -, allow⟩ := bind_eq_ok_iff.mp rest
          exact allow_eq_ok_none allow
  | hyphen =>
    simp only [readRange] at read
    split at read
    · cases read
    · obtain ⟨_, -, rest⟩ := bind_eq_ok_iff.mp read
      obtain ⟨_, -, rest⟩ := bind_eq_ok_iff.mp rest
      obtain ⟨_, -, allow⟩ := bind_eq_ok_iff.mp rest
      exact allow_eq_ok_none allow
  | exact | latestPatch | latestRelease => cases read

theorem ranged_of_build {tools : Tools} (built : dialect.build constraint none tools = .ok (.valid comparator))
    (different : dialect ≠ .exact) : comparator.Ranged := by
  obtain ⟨⟨reading, pattern⟩, read, same⟩ := bind_eq_ok_iff.mp built
  cases reading with
  | error reason => cases same
  | ok rule =>
    cases same
    cases dialect with
    | exact => exact absurd rfl different
    | tilde | caret | xRange | hyphen =>
      simp only [Constraint.read] at read
      obtain ⟨rule, pattern⟩ := readRange_eq_ok_none read
      exact ⟨rule, pattern⟩
    | latestPatch | latestRelease =>
      simp only [Constraint.read] at read
      split at read
      · cases read
        exact ⟨by simp, rfl⟩
      · cases read

/-! What is allowed. -/

/-- What is allowed beside an exact version has parts that qualify, and a core in the range if there is one. -/
theorem exists_parts_of_allows (several : comparator.rule ≠ .same)
    (allowed : comparator.allows current candidate = .ok true) :
    ∃ parts, Parts.ofVersion candidate = .ok (some parts) ∧ comparator.qualifies parts = true ∧
      ∀ holds, comparator.rule = .within holds → holds (Triple.ofCore parts.core) = true := by
  unfold allows at allowed
  cases rule : comparator.rule with
  | same => exact absurd rule several
  | within holds =>
    rw [rule] at allowed
    obtain ⟨parts?, read, answer⟩ := bind_eq_ok_iff.mp allowed
    cases parts? with
    | none => cases answer
    | some parts =>
      obtain ⟨qualifies, inside⟩ := (Bool.and_eq_true _ _).mp (Except.ok.inj answer)
      refine ⟨parts, read, qualifies, ?_⟩
      rintro _ ⟨⟩
      exact inside
  | samePatchLine =>
    rw [rule] at allowed
    obtain ⟨parts?, read, answer⟩ := bind_eq_ok_iff.mp allowed
    cases parts? with
    | none => cases answer
    | some parts =>
      dsimp only at answer
      split at answer
      · rename_i qualifies
        exact ⟨parts, read, qualifies, nofun⟩
      · cases answer
  | any =>
    rw [rule] at allowed
    obtain ⟨parts?, read, answer⟩ := bind_eq_ok_iff.mp allowed
    cases parts? with
    | none => cases answer
    | some parts => exact ⟨parts, read, Except.ok.inj answer, nofun⟩

/-- Only releases are allowed. -/
theorem Ranged.exists_core_of_allows (ranged : comparator.Ranged)
    (allowed : comparator.allows current candidate = .ok true) :
    ∃ core, Parts.ofVersion candidate = .ok (some ⟨core, ""⟩) ∧
      ∀ holds, comparator.rule = .within holds → holds (Triple.ofCore core) = true := by
  obtain ⟨⟨core, remainder⟩, read, qualifies, inside⟩ := exists_parts_of_allows ranged.rule allowed
  rw [Comparator.qualifies, ranged.pattern] at qualifies
  obtain rfl : remainder = "" := String.isEmpty_iff.mp qualifies
  exact ⟨core, read, inside⟩

theorem exists_allows (comparator : Comparator) {parts? now? : Option Parts}
    (read : Parts.ofVersion candidate = .ok parts?) (readNow : Parts.ofVersion? current = .ok now?) :
    ∃ answer, comparator.allows current candidate = .ok answer := by
  unfold allows
  cases comparator.rule with
  | same => exact ⟨_, rfl⟩
  | within holds => cases parts? <;> exact ⟨_, by rw [read]; rfl⟩
  | any => cases parts? <;> exact ⟨_, by rw [read]; rfl⟩
  | samePatchLine =>
    cases parts? with
    | none => exact ⟨false, by rw [read]; rfl⟩
    | some parts =>
      simp only [read, readNow]
      by_cases qualifies : comparator.qualifies parts = true
      · cases now? <;> exact ⟨_, if_pos qualifies⟩
      · exact ⟨false, if_neg qualifies⟩

/-- Candidates that can be read are allowed or not. -/
theorem allows_eq_accepts (released : ∀ now ∈ current, Parts.IsRelease now)
    (short : Parts.ShortRuns candidate.toList) :
    comparator.allows current candidate = .ok (comparator.accepts current candidate) := by
  have now : ∃ now?, Parts.ofVersion? current = .ok now? := by
    cases current with
    | none => exact ⟨none, rfl⟩
    | some now =>
      obtain ⟨core, read⟩ := released now rfl
      exact ⟨_, read⟩
  obtain ⟨now?, readNow⟩ := now
  obtain ⟨parts?, read⟩ := Parts.exists_ofVersion short
  obtain ⟨answer, same⟩ := exists_allows comparator read readNow
  rw [accepts, same]

theorem allowed_eq_filter
    (answered : ∀ candidate ∈ candidates,
      comparator.allows current candidate = .ok (comparator.accepts current candidate)) :
    comparator.allowed current candidates = .ok (candidates.filter (comparator.accepts current)) := by
  induction candidates with
  | nil => rfl
  | cons candidate rest ih =>
    obtain ⟨here, there⟩ := List.forall_mem_cons.mp answered
    rw [allowed, here, ih there, List.filter_cons]
    rfl

/-! How releases compare. -/

/-- Where the cores differ they decide. -/
theorem Ranged.compare_eq (ranged : comparator.Ranged) {first second : Parts}
    (readLeft : Parts.ofVersion left = .ok (some first)) (readRight : Parts.ofVersion right = .ok (some second)) :
    comparator.compare left right =
      if first.core = second.core then compareTexts left right else .ok (first.core.compare second.core) := by
  unfold compare
  split
  · rename_i rule
    exact absurd rule ranged.rule
  · rw [readLeft, readRight]
    rfl

/-- A release that is written plainly is no more than its numbers. -/
theorem exists_bare_of_isPlain (plain : Parts.IsPlain candidate)
    (read : Parts.ofVersion candidate = .ok (some ⟨core, ""⟩)) :
    ∃ release : Release, release.text = candidate.toList ∧ release.core = core ∧ release.front = [] ∧
      release.Bare := by
  obtain ⟨release, same, cores, middle⟩ := Release.exists_of_ofVersion read
  rw [plain.trimmed, ← same, Release.text] at middle
  have noBlanks : release.front = [] ∧ release.back = [] := by
    have lengths := congrArg List.length middle
    simp only [List.length_append] at lengths
    constructor <;> exact List.eq_nil_of_length_eq_zero (by omega)
  refine ⟨release, same, cores, noBlanks.1, noBlanks.2, ?_⟩
  refine release.marked.imp_right fun marks => ?_
  obtain ⟨separator, word, marker, -, -, spelled⟩ := Release.exists_word marks
  have ascii : ∀ c ∈ word, c.toNat < 128 := by
    intro c member
    refine plain.ascii c ?_
    rw [← same, Release.text, marker]
    simp [member]
  rw [marker, List.tail_cons]
  refine mem_releaseWords_of_ascii _ spelled ?_
  rw [lowercase_of_ascii ascii, List.all_map, List.all_eq_true]
  exact fun c member => decide_eq_true (toNat_toLower_of_ascii (ascii c member))

theorem compareTexts_of_bare {release bound : Release} (same : release.text = left.toList)
    (sameBound : bound.text = right.toList) (noFront : release.front = [] ∧ bound.front = [])
    (bare : release.Bare ∧ bound.Bare) (cores : release.core = bound.core) : compareTexts left right = .ok .eq := by
  rw [(Release.compareTexts_standing same sameBound noFront.2 bare.2 cores).1, Release.standing, if_pos noFront.1,
    if_pos bare.1]

/-- Texts with the same core are equal as versions, so that releases written plainly compare by their cores. -/
theorem Ranged.compare_of_isPlain (ranged : comparator.Ranged) (plain : Parts.IsPlain left ∧ Parts.IsPlain right)
    (readLeft : Parts.ofVersion left = .ok (some ⟨first, ""⟩))
    (readRight : Parts.ofVersion right = .ok (some ⟨second, ""⟩)) :
    comparator.compare left right = .ok (first.compare second) := by
  rw [ranged.compare_eq readLeft readRight]
  dsimp only
  split
  · rename_i tie
    obtain ⟨release, same, cores, noFront, bare⟩ := exists_bare_of_isPlain plain.1 readLeft
    obtain ⟨bound, sameBound, coresBound, noFrontBound, bareBound⟩ := exists_bare_of_isPlain plain.2 readRight
    rw [compareTexts_of_bare same sameBound ⟨noFront, noFrontBound⟩ ⟨bare, bareBound⟩
      (by rw [cores, coresBound, tie]), tie, Core.compare_self]
  · rfl

/-- The core of a version, and zeros if it has none. -/
def coreOf (version : String) : Core := (Parts.core? version).getD ⟨0, 0, 0, 0⟩

theorem core?_of_isRelease (release : Parts.IsRelease candidate) :
    Parts.core? candidate = some (coreOf candidate) ∧
      Parts.ofVersion candidate = .ok (some ⟨coreOf candidate, ""⟩) := by
  obtain ⟨core, read⟩ := release
  have found : Parts.core? candidate = some core := by rw [Parts.core?, read]
  rw [coreOf, found]
  exact ⟨rfl, read⟩

theorem Ranged.compare_coreOf (ranged : comparator.Ranged) (first : Parts.IsPlain left ∧ Parts.IsRelease left)
    (second : Parts.IsPlain right ∧ Parts.IsRelease right) :
    comparator.compare left right = .ok ((coreOf left).compare (coreOf right)) :=
  ranged.compare_of_isPlain ⟨first.1, second.1⟩ (core?_of_isRelease first.2).2 (core?_of_isRelease second.2).2

/-! The search. -/

/-- Where texts compare by their cores the search ends with the first of the texts whose core is greatest. -/
theorem exists_greatest
    (compares : ∀ left ∈ best :: rest, ∀ right ∈ best :: rest,
      comparator.compare left right = .ok ((coreOf left).compare (coreOf right))) :
    ∃ found, comparator.greatest best rest = .ok found ∧
      (best :: rest).find? (coreOf · = coreOf found) = some found ∧
      ∀ candidate ∈ best :: rest, (coreOf candidate).lex ≤ (coreOf found).lex := by
  induction rest generalizing best with
  | nil => exact ⟨best, rfl, by simp, by simp⟩
  | cons next rest ih =>
    have step : comparator.greatest best (next :: rest) =
        comparator.greatest (if (coreOf next).compare (coreOf best) = .gt then next else best) rest := by
      rw [greatest, compares next (by simp) best (by simp)]
      rfl
    rw [step]
    simp only [Core.compare_eq_gt_iff]
    split
    · rename_i greater
      obtain ⟨found, search, first, bound⟩ := ih fun left member right member' =>
        compares left (List.mem_cons_of_mem _ member) right (List.mem_cons_of_mem _ member')
      have below : (coreOf best).lex < (coreOf found).lex := greater.trans_le (bound next List.mem_cons_self)
      refine ⟨found, search, ?_, List.forall_mem_cons.mpr ⟨below.le, bound⟩⟩
      rw [List.find?_cons_of_neg, first]
      simpa using fun same : coreOf best = coreOf found => below.ne (congrArg Core.lex same)
    · rename_i least
      have kept : best :: rest ⊆ best :: next :: rest :=
        List.cons_subset_cons _ (List.subset_cons_self _ _)
      obtain ⟨found, search, first, bound⟩ := ih fun left member right member' =>
        compares left (kept member) right (kept member')
      obtain ⟨here, there⟩ := List.forall_mem_cons.mp bound
      have below : (coreOf next).lex ≤ (coreOf best).lex := not_lt.mp least
      have boundNext : ∀ candidate ∈ next :: rest, (coreOf candidate).lex ≤ (coreOf found).lex :=
        List.forall_mem_cons.mpr ⟨below.trans here, there⟩
      refine ⟨found, search, ?_, List.forall_mem_cons.mpr ⟨here, boundNext⟩⟩
      by_cases same : coreOf best = coreOf found
      · rw [List.find?_cons_of_pos (by simpa using same)] at first ⊢
        exact first
      · have apart : coreOf next ≠ coreOf found := by
          intro equal
          rw [← equal] at here same
          exact same (Core.lex_injective (here.antisymm below))
        rw [List.find?_cons_of_neg (by simpa using same)] at first ⊢
        rw [List.find?_cons_of_neg (by simpa using apart), first]

theorem upgrade_congr {others : List String}
    (same : comparator.allowed current candidates = comparator.allowed current others) :
    comparator.upgrade current candidates = comparator.upgrade current others := by
  rw [upgrade, upgrade, same]

theorem upgrade_of_greatest {first : String} (allowed : comparator.allowed current candidates = .ok (first :: rest))
    (search : comparator.greatest first rest = .ok best) :
    (current = none → comparator.upgrade current candidates = .ok (some best)) ∧
      ∀ now order, current = some now → comparator.compare best now = .ok order →
        comparator.upgrade current candidates = .ok (if order = .lt then none else some best) := by
  constructor
  · rintro rfl
    exact bind_eq_ok_iff.mpr ⟨_, allowed, bind_eq_ok_iff.mpr ⟨best, search, rfl⟩⟩
  · rintro now order rfl compared
    refine bind_eq_ok_iff.mpr ⟨_, allowed, bind_eq_ok_iff.mpr ⟨best, search, ?_⟩⟩
    exact bind_eq_ok_iff.mpr ⟨order, compared, rfl⟩

/-- The upgrade is the first of the allowed candidates whose core is greatest, and there is none if no candidate is
allowed or the current version has a greater core. Candidates that are not allowed make no difference. -/
theorem upgrade_first_greatest {tools : Tools}
    (built : dialect.build constraint none tools = .ok (.valid comparator)) (different : dialect ≠ .exact)
    (plain : ∀ candidate ∈ candidates, Parts.IsPlain candidate)
    (released : ∀ now ∈ current, Parts.IsPlain now ∧ Parts.IsRelease now) :
    let valid := candidates.filter (comparator.accepts current)
    (∀ candidate ∈ candidates,
        comparator.allows current candidate = .ok (comparator.accepts current candidate)) ∧
      comparator.upgrade current candidates = comparator.upgrade current valid ∧
      (valid = [] ∧ comparator.upgrade current candidates = .ok none ∨
        ∃ k, (∃ candidate ∈ valid, Parts.core? candidate = some k) ∧
          (∀ candidate ∈ valid, ∃ core, Parts.core? candidate = some core ∧ core.lex ≤ k.lex) ∧
          ((∃ now ∈ current, ∃ core, Parts.core? now = some core ∧ k.lex < core.lex) ∧
              comparator.upgrade current candidates = .ok none ∨
            (∀ now ∈ current, ∀ core, Parts.core? now = some core → core.lex ≤ k.lex) ∧
              ∃ best, valid.find? (Parts.core? · = some k) = some best ∧
                comparator.upgrade current candidates = .ok (some best))) := by
  intro valid
  have ranged := ranged_of_build built different
  have answered : ∀ candidate ∈ candidates,
      comparator.allows current candidate = .ok (comparator.accepts current candidate) :=
    fun candidate member => allows_eq_accepts (fun now same => (released now same).2) (plain candidate member).short
  have allowed := allowed_eq_filter answered
  have allowedAgain : comparator.allowed current valid = .ok valid := by
    rw [allowed_eq_filter fun candidate member => answered candidate (List.mem_of_mem_filter member),
      List.filter_filter]
    simp only [Bool.and_self, valid]
  refine ⟨answered, upgrade_congr (by rw [allowed, allowedAgain]), ?_⟩
  -- Each of the texts that are compared is a release, written plainly.
  have comparable : ∀ candidate ∈ valid, Parts.IsPlain candidate ∧ Parts.IsRelease candidate := by
    intro candidate member
    obtain ⟨listed, accepted⟩ := List.mem_filter.mp member
    obtain ⟨core, read, -⟩ := ranged.exists_core_of_allows (by rw [answered candidate listed, accepted])
    exact ⟨plain candidate listed, core, read⟩
  cases found : valid with
  | nil => exact .inl ⟨rfl, by rw [upgrade, allowed, show candidates.filter _ = [] from found]; rfl⟩
  | cons first rest =>
    rw [found] at comparable
    obtain ⟨best, search, isFirst, bound⟩ := exists_greatest fun left member right member' =>
      ranged.compare_coreOf (comparable left member) (comparable right member')
    obtain ⟨unbounded, bounded⟩ := upgrade_of_greatest (allowed.trans (congrArg Except.ok found)) search
    have cores : ∀ candidate ∈ first :: rest, Parts.core? candidate = some (coreOf candidate) :=
      fun candidate member => (core?_of_isRelease (comparable candidate member).2).1
    have member := List.mem_of_find?_eq_some isFirst
    have firstOfCore : (first :: rest).find? (Parts.core? · = some (coreOf best)) = some best := by
      rw [← isFirst]
      exact List.find?_congr fun candidate listed => by simp [cores candidate listed]
    refine .inr ⟨coreOf best, ⟨best, member, cores best member⟩,
      fun candidate listed => ⟨_, cores candidate listed, bound candidate listed⟩, ?_⟩
    cases current with
    | none => exact .inr ⟨nofun, best, firstOfCore, unbounded rfl⟩
    | some now =>
      obtain ⟨nowPlain, nowRelease⟩ := released now rfl
      have coreNow := (core?_of_isRelease nowRelease).1
      have result := bounded now _ rfl (ranged.compare_coreOf (comparable best member) ⟨nowPlain, nowRelease⟩)
      simp only [Core.compare_eq_lt_iff] at result
      by_cases above : (coreOf best).lex < (coreOf now).lex
      · rw [if_pos above] at result
        exact .inl ⟨⟨now, rfl, _, coreNow, above⟩, result⟩
      · rw [if_neg above] at result
        refine .inr ⟨?_, best, firstOfCore, result⟩
        rintro _ ⟨⟩ core same
        cases coreNow.symm.trans same
        exact not_lt.mp above

/-- Of two candidates with the greatest core the first one is taken, whatever marks it as a release. -/
theorem upgrade_first_greatest_marked :
    let comparator : Comparator :=
      ⟨.caret, "^1.2", .within fun triple => [NpmSpec.holds .caret [1, 2]].all (· triple), none⟩
    let candidates := ["2.0", "1.9.0.GA", "1.9", "1.9.5-RC1"]
    Dialect.caret.build "^1.2" none = .ok (.valid comparator) ∧
      (∀ candidate ∈ candidates, Parts.IsPlain candidate) ∧ Parts.IsPlain "1.3" ∧ Parts.IsRelease "1.3" ∧
      comparator.upgrade (some "1.3") candidates = comparator.upgrade (some "1.3") ["1.9.0.GA", "1.9"] ∧
      comparator.upgrade (some "1.3") candidates = .ok (some "1.9.0.GA") := by
  intro comparator candidates
  have built : Dialect.caret.build "^1.2" none = .ok (.valid comparator) := rfl
  have isPlain (version : String) (ascii : version.toList.all (·.toNat < 128) = true)
      (trimmed : trim version.toList = version.toList) (short : version.toList.length ≤ numeralLimit) :
      Parts.IsPlain version :=
    ⟨by simpa using ascii, trimmed, fun run inside _ => inside.length_le.trans short⟩
  have plain : ∀ candidate ∈ candidates, Parts.IsPlain candidate := by
    simp only [candidates, List.forall_mem_cons]
    exact ⟨isPlain _ (by decide) (by decide) (by decide), isPlain _ (by decide) (by decide) (by decide),
      isPlain _ (by decide) (by decide) (by decide), isPlain _ (by decide) (by decide) (by decide), nofun⟩
  have now : Parts.IsPlain "1.3" ∧ Parts.IsRelease "1.3" :=
    ⟨isPlain _ (by decide) (by decide) (by decide), ⟨1, 3, 0, 0⟩, rfl⟩
  have released : ∀ text ∈ some "1.3", Parts.IsPlain text ∧ Parts.IsRelease text := by
    rintro _ ⟨⟩
    exact now
  have valid : candidates.filter (comparator.accepts (some "1.3")) = ["1.9.0.GA", "1.9"] := by decide
  obtain ⟨-, same, none' | ⟨k, ⟨candidate, member, core⟩, -, choice⟩⟩ :=
    upgrade_first_greatest built (by decide) plain released
  · rw [valid] at none'
    cases none'.1
  · rw [valid] at same member choice
    have cores : ∀ candidate ∈ ["1.9.0.GA", "1.9"], Parts.core? candidate = some ⟨1, 9, 0, 0⟩ := by decide
    cases (cores candidate member).symm.trans core
    refine ⟨built, plain, now.1, now.2, same, ?_⟩
    rcases choice with ⟨⟨_, ⟨⟩, core, found, above⟩, -⟩ | ⟨-, best, first, result⟩
    · cases found
      exact absurd above (by decide)
    · cases first
      exact result

end Comparator
end MavenResolution
