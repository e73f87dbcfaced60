import Mathlib.Algebra.Group.Nat.Defs
import MavenResolution.Proofs.Constraint.Npm
import MavenResolution.Proofs.Constraint.Reading

/-! Ranges that can be read. Runs of digits are read if they are no longer than numerals may be; behind a sign
they have to be written plainly, and a bound that is counted up has to be writable. -/
namespace MavenResolution.Constraint

open Text

variable {text run : List Char} {runs : List (List Char)} {values : List Nat} {blocks : List Block}

/-! Runs of digits. -/

theorem numbers_eq_ok_iff (isRun : ∀ run ∈ runs, IsRun run) :
    numbers runs = .ok values ↔
      (∀ run ∈ runs, run.length ≤ numeralLimit) ∧ values = runs.map (digitsValue 0) :=
  mapError_eq_ok_iff.trans (mapM_readNumeral_eq_ok_iff isRun)

theorem digitValue?_lt {c : Char} {value : Nat} (digit : digitValue? c = some value) : value < 10 := by
  unfold digitValue? at digit
  split at digit
  · split at digit
    · rename_i bounds
      obtain rfl := Option.some.inj digit
      have above : c.toNat ≤ '9'.toNat := bounds.2
      have zero : '0'.toNat = 48 := rfl
      have nine : '9'.toNat = 57 := rfl
      omega
    · cases digit
  · obtain ⟨start, found, rfl⟩ := Option.map_eq_some_iff.mp digit
    have within := List.find?_some found
    simp only [Bool.and_eq_true, decide_eq_true_eq] at within
    omega

/-- The number of a run has no more digits than the run. -/
theorem digitsValue_lt (run : List Char) (value : Nat) :
    digitsValue value run < (value + 1) * 10 ^ run.length := by
  induction run generalizing value with
  | nil => simp [digitsValue]
  | cons c rest ih =>
    have digit : (digitValue? c).getD 0 < 10 := by
      cases found : digitValue? c with
      | none => decide
      | some value => exact digitValue?_lt found
    calc digitsValue (10 * value + (digitValue? c).getD 0) rest
      _ < (10 * value + (digitValue? c).getD 0 + 1) * 10 ^ rest.length := ih _
      _ ≤ (10 * (value + 1)) * 10 ^ rest.length := Nat.mul_le_mul_right _ (by omega)
      _ = (value + 1) * 10 ^ (c :: rest).length := by
        rw [List.length_cons, Nat.pow_succ, Nat.mul_comm 10, Nat.mul_assoc, Nat.mul_comm 10]

theorem writable_of_length_le (short : run.length ≤ numeralLimit) : Writable (digitsValue 0 run) := by
  have below := digitsValue_lt run 0
  unfold Writable
  generalize numeralLimit = limit at short ⊢
  rw [Nat.zero_add, Nat.one_mul] at below
  exact Nat.lt_of_lt_of_le below (Nat.pow_le_pow_right (by decide) short)

/-- The number after the last one can be written. -/
def HasSuccessor (runs : List (List Char)) : Prop :=
  ∀ run ∈ runs.getLast?, Writable (digitsValue 0 run + 1)

/-! Comparators that are written. -/

theorem block_bound_eq_ok_iff (bound : Bound) {written : Block} :
    block bound.operator [bound.version.major, bound.version.minor, bound.version.patch] = .ok written ↔
      bound.version.Writable ∧ written = bound.block := by
  rw [block_eq_ok_iff]
  simp only [List.forall_mem_cons]
  refine and_congr_left' ⟨fun writable => ⟨writable.1, writable.2.1, writable.2.2.1⟩, fun writable => ?_⟩
  exact ⟨writable.major, writable.minor, writable.patch, nofun⟩

theorem bounds_eq_ok_iff {lower upper : Except Fault Block} {first second : Bound}
    (writesLower : ∀ written, lower = .ok written ↔ first.version.Writable ∧ written = first.block)
    (writesUpper : ∀ written, upper = .ok written ↔ second.version.Writable ∧ written = second.block) :
    (do return [← lower, ← upper] : Except Fault (List Block)) = .ok blocks ↔
      (∀ bound ∈ [first, second], bound.version.Writable) ∧ blocks = [first, second].map Bound.block := by
  simp only [bind_eq_ok_iff, writesLower, writesUpper, forall_mem_bounds]
  constructor
  · rintro ⟨_, ⟨here, rfl⟩, _, ⟨there, rfl⟩, ⟨⟩⟩
    exact ⟨⟨here, there⟩, rfl⟩
  · rintro ⟨⟨here, there⟩, rfl⟩
    exact ⟨_, ⟨here, rfl⟩, _, ⟨there, rfl⟩, rfl⟩

/-- The comparators of all versions that start with the given segments. -/
def boundsStartingWith : List Nat → List Bound
  | [] => [.atLeast ⟨0, 0, 0⟩]
  | [M] => [.atLeast ⟨M, 0, 0⟩, .below ⟨M + 1, 0, 0⟩]
  | M :: m :: _ => [.atLeast ⟨M, m, 0⟩, .below ⟨M, m + 1, 0⟩]

theorem startingWith_eq_ok_iff (numbers : List Nat) : startingWith numbers = .ok blocks ↔
    (∀ bound ∈ boundsStartingWith numbers, bound.version.Writable) ∧
      blocks = (boundsStartingWith numbers).map Bound.block := by
  match numbers with
  | [] =>
    have writes (written : Block) := @block_bound_eq_ok_iff (.atLeast ⟨0, 0, 0⟩) written
    have zero : block .atLeast [0, 0, 0] = .ok (Bound.atLeast ⟨0, 0, 0⟩).block :=
      (writes _).mpr ⟨⟨writable_zero, writable_zero, writable_zero⟩, rfl⟩
    simp only [startingWith, zero]
    constructor
    · rintro ⟨⟩
      exact ⟨List.forall_mem_singleton.mpr ⟨writable_zero, writable_zero, writable_zero⟩, rfl⟩
    · rintro ⟨-, rfl⟩
      rfl
  | [M] =>
    exact bounds_eq_ok_iff (fun _ => block_bound_eq_ok_iff (.atLeast ⟨M, 0, 0⟩))
      fun _ => block_bound_eq_ok_iff (.below ⟨M + 1, 0, 0⟩)
  | M :: m :: _ =>
    exact bounds_eq_ok_iff (fun _ => block_bound_eq_ok_iff (.atLeast ⟨M, m, 0⟩))
      fun _ => block_bound_eq_ok_iff (.below ⟨M, m + 1, 0⟩)

/-- The comparator of an upper bound: a version, or all versions that start with its segments. -/
def boundUpTo : List Nat → Bound
  | [] => .below ⟨0, 0, 0⟩
  | [M] => .below ⟨M + 1, 0, 0⟩
  | [M, m] => .below ⟨M, m + 1, 0⟩
  | M :: m :: p :: _ => .atMost ⟨M, m, p⟩

theorem upperBound_eq_ok_iff {numbers : List Nat} (length_le : numbers.length ≤ 3) {written : Block} :
    upperBound numbers = .ok written ↔
      (boundUpTo numbers).version.Writable ∧ written = (boundUpTo numbers).block := by
  match numbers with
  | [] =>
    rw [upperBound, if_neg (by decide)]
    exact block_bound_eq_ok_iff (.below ⟨0, 0, 0⟩)
  | [M] =>
    rw [upperBound, if_neg (by simp)]
    exact block_bound_eq_ok_iff (.below ⟨M + 1, 0, 0⟩)
  | [M, m] =>
    rw [upperBound, if_neg (by simp)]
    exact block_bound_eq_ok_iff (.below ⟨M, m + 1, 0⟩)
  | [M, m, p] =>
    rw [upperBound, if_pos (by simp)]
    exact block_bound_eq_ok_iff (.atMost ⟨M, m, p⟩)
  | _ :: _ :: _ :: _ :: _ => exact absurd length_le (by simp)

theorem pad_eq (numbers : List Nat) : pad numbers =
    [(Triple.ofList numbers).major, (Triple.ofList numbers).minor, (Triple.ofList numbers).patch] := by
  match numbers with
  | [] | [_] | [_, _] | _ :: _ :: _ :: _ => rfl

def boundsBetween (lower upper : List Nat) : List Bound := [.atLeast (Triple.ofList lower), boundUpTo upper]

theorem between_eq_ok_iff {lower upper : List Nat} (length_le : upper.length ≤ 3) :
    between lower upper = .ok blocks ↔
      (∀ bound ∈ boundsBetween lower upper, bound.version.Writable) ∧
        blocks = (boundsBetween lower upper).map Bound.block := by
  refine bounds_eq_ok_iff (fun written => ?_) fun _ => upperBound_eq_ok_iff length_le
  rw [pad_eq]
  exact block_bound_eq_ok_iff (.atLeast (Triple.ofList lower))

/-! Ranges. -/

/-- The numbers of a range can be read, and the bounds that are counted up can be written. -/
def RangeForm.Readable : RangeForm → Prop
  | .tilde runs | .caret runs => ∀ run ∈ runs, IsNumber run
  | .wild fixed => (∀ run ∈ fixed, run.length ≤ numeralLimit) ∧ HasSuccessor fixed
  | .hyphen lower upper =>
    (∀ run ∈ lower ++ upper, run.length ≤ numeralLimit) ∧ (upper.length < 3 → HasSuccessor upper)

theorem writable_startingWith_iff {fixed : List (List Char)} (short : ∀ run ∈ fixed, run.length ≤ numeralLimit)
    (length_le : fixed.length ≤ 2) :
    (∀ bound ∈ boundsStartingWith (fixed.map (digitsValue 0)), bound.version.Writable) ↔ HasSuccessor fixed := by
  match fixed with
  | [] =>
    refine iff_of_true (List.forall_mem_singleton.mpr ?_) nofun
    exact ⟨writable_zero, writable_zero, writable_zero⟩
  | [major] =>
    have written := writable_of_length_le (short major List.mem_cons_self)
    simp only [List.map_cons, List.map_nil, boundsStartingWith, forall_mem_bounds, HasSuccessor]
    constructor
    · rintro ⟨-, next⟩ _ ⟨⟩
      exact next.major
    · intro next
      exact ⟨⟨written, writable_zero, writable_zero⟩, ⟨next major rfl, writable_zero, writable_zero⟩⟩
  | [major, minor] =>
    have written (run : List Char) (member : run ∈ [major, minor]) := writable_of_length_le (short run member)
    simp only [List.map_cons, List.map_nil, boundsStartingWith, forall_mem_bounds, HasSuccessor]
    constructor
    · rintro ⟨-, next⟩ _ ⟨⟩
      exact next.minor
    · intro next
      exact ⟨⟨written major (by simp), written minor (by simp), writable_zero⟩,
        ⟨written major (by simp), next minor rfl, writable_zero⟩⟩
  | _ :: _ :: _ :: _ => exact absurd length_le (by simp)

theorem writable_ofList (short : ∀ run ∈ runs, run.length ≤ numeralLimit) :
    (Triple.ofList (runs.map (digitsValue 0))).Writable := by
  have each (i : Nat) : Writable ((runs.map (digitsValue 0))[i]?.getD 0) := by
    rw [List.getElem?_map]
    cases found : runs[i]? with
    | none => exact writable_zero
    | some run => exact writable_of_length_le (short run (List.mem_of_getElem? found))
  exact ⟨each 0, each 1, each 2⟩

theorem writable_boundUpTo_iff {upper : List (List Char)} (short : ∀ run ∈ upper, run.length ≤ numeralLimit)
    (segments : AreSegments upper) : (boundUpTo (upper.map (digitsValue 0))).version.Writable ↔
      (upper.length < 3 → HasSuccessor upper) := by
  have written (run : List Char) (member : run ∈ upper) := writable_of_length_le (short run member)
  match upper, segments with
  | [], segments => exact absurd rfl segments.nonempty
  | [major], _ =>
    refine ⟨fun next _ => ?_, fun next => ?_⟩
    · rintro _ ⟨⟩
      exact next.major
    · exact ⟨next (by simp) major rfl, writable_zero, writable_zero⟩
  | [major, minor], _ =>
    refine ⟨fun next _ => ?_, fun next => ?_⟩
    · rintro _ ⟨⟩
      exact next.minor
    · exact ⟨written major (by simp), next (by simp) minor rfl, writable_zero⟩
  | [major, minor, patch], _ =>
    refine iff_of_true ?_ fun less => absurd less (by simp)
    exact ⟨written major (by simp), written minor (by simp), written patch (by simp)⟩
  | _ :: _ :: _ :: _ :: _, segments => exact absurd segments.length_le (by simp)

theorem blocks_wild_eq_ok_iff {fixed : List (List Char)} (isRun : ∀ run ∈ fixed, IsRun run)
    (length_le : fixed.length ≤ 2) : (RangeForm.wild fixed).blocks = .ok blocks ↔
      (RangeForm.wild fixed).Readable ∧
        blocks = (boundsStartingWith (fixed.map (digitsValue 0))).map Bound.block := by
  rw [RangeForm.blocks, bind_eq_ok_iff]
  simp only [numbers_eq_ok_iff isRun, startingWith_eq_ok_iff]
  constructor
  · rintro ⟨_, ⟨short, rfl⟩, writable, rfl⟩
    exact ⟨⟨short, (writable_startingWith_iff short length_le).mp writable⟩, rfl⟩
  · rintro ⟨⟨short, successor⟩, rfl⟩
    exact ⟨_, ⟨short, rfl⟩, (writable_startingWith_iff short length_le).mpr successor, rfl⟩

theorem writable_boundsBetween_iff {lower upper : List (List Char)}
    (short : ∀ run ∈ lower ++ upper, run.length ≤ numeralLimit) (segments : AreSegments upper) :
    (∀ bound ∈ boundsBetween (lower.map (digitsValue 0)) (upper.map (digitsValue 0)), bound.version.Writable) ↔
      (upper.length < 3 → HasSuccessor upper) := by
  obtain ⟨shortLower, shortUpper⟩ := List.forall_mem_append.mp short
  rw [boundsBetween, forall_mem_bounds, writable_boundUpTo_iff shortUpper segments]
  exact and_iff_right (writable_ofList shortLower)

theorem blocks_hyphen_eq_ok_iff {lower upper : List (List Char)} (first : AreSegments lower)
    (second : AreSegments upper) : (RangeForm.hyphen lower upper).blocks = .ok blocks ↔
      (RangeForm.hyphen lower upper).Readable ∧
        blocks = (boundsBetween (lower.map (digitsValue 0)) (upper.map (digitsValue 0))).map Bound.block := by
  have length_le : (upper.map (digitsValue 0)).length ≤ 3 := by simpa using second.length_le
  rw [RangeForm.blocks, bind_eq_ok_iff]
  simp only [bind_eq_ok_iff, numbers_eq_ok_iff first.isRun, numbers_eq_ok_iff second.isRun]
  constructor
  · rintro ⟨_, ⟨shortLower, rfl⟩, _, ⟨shortUpper, rfl⟩, written⟩
    obtain ⟨writable, rfl⟩ := (between_eq_ok_iff length_le).mp written
    have short := List.forall_mem_append.mpr ⟨shortLower, shortUpper⟩
    exact ⟨⟨short, (writable_boundsBetween_iff short second).mp writable⟩, rfl⟩
  · rintro ⟨⟨short, successor⟩, rfl⟩
    obtain ⟨shortLower, shortUpper⟩ := List.forall_mem_append.mp short
    exact ⟨_, ⟨shortLower, rfl⟩, _, ⟨shortUpper, rfl⟩,
      (between_eq_ok_iff length_le).mpr ⟨(writable_boundsBetween_iff short second).mpr successor, rfl⟩⟩

section

variable {npm : NpmSpec} (documented : npm.Documented) {form : RangeForm} {holds : Triple → Bool}
  {bounds : List Bound}

include documented

/-- A range that is written in comparators allows the versions for which all of them hold. -/
theorem holds_iff (written : form.blocks = .ok (bounds.map Bound.block)) (read : form.holds npm = .ok holds)
    (triple : Triple) : holds triple = true ↔ ∀ bound ∈ bounds, bound.Holds triple := by
  rw [RangeForm.holds, written] at read
  exact documented.comparators bounds holds (mapError_eq_ok_iff.mp read) triple

/-- Ranges are read if and only if their numbers can be. -/
theorem exists_holds_iff (denotes : Denotes text form) :
    (∃ holds, form.holds npm = .ok holds) ↔ form.Readable := by
  have accepted (operator : Operator) {runs : List (List Char)} (segments : AreSegments runs) :
      (∃ holds, (npm (rangeText [⟨operator, runs⟩])).mapError Fault.range = .ok holds) ↔
        ∀ run ∈ runs, IsNumber run := by
    simp only [mapError_eq_ok_iff]
    rw [documented.accepts [⟨operator, runs⟩] (List.cons_ne_nil _ _) (List.forall_mem_singleton.mpr segments),
      List.forall_mem_singleton]
  have written {result : Except Fault (List Block)} {readable : Prop} {bounds : List Bound}
      (nonempty : bounds ≠ []) (writable : readable → ∀ bound ∈ bounds, bound.version.Writable)
      (writes : ∀ blocks, result = .ok blocks ↔ readable ∧ blocks = bounds.map Bound.block) :
      (∃ holds, (result >>= fun blocks => (npm (rangeText blocks)).mapError Fault.range) = .ok holds) ↔
        readable := by
    simp only [bind_eq_ok_iff, writes]
    constructor
    · rintro ⟨_, _, ⟨read, -⟩, -⟩
      exact read
    · intro read
      obtain ⟨holds, accepts, -⟩ := documented.exists_holds nonempty (writable read)
      exact ⟨holds, _, ⟨read, rfl⟩, mapError_eq_ok_iff.mpr accepts⟩
  cases denotes with
  | tilde _ segments => exact accepted .tilde segments
  | caret _ segments => exact accepted .caret segments
  | @wild fixed marks isRun _ nonempty length_le =>
    have positive := List.length_pos_of_ne_nil nonempty
    have two : fixed.length ≤ 2 := by omega
    refine written ?_ (fun readable => ?_) fun blocks => blocks_wild_eq_ok_iff isRun two
    · match fixed.map (digitsValue 0) with
      | [] | [_] | _ :: _ :: _ => exact List.cons_ne_nil _ _
    · exact (writable_startingWith_iff readable.1 two).mpr readable.2
  | hyphen first _ _ second =>
    refine written (List.cons_ne_nil _ _) (fun readable => ?_) fun blocks => blocks_hyphen_eq_ok_iff first second
    exact (writable_boundsBetween_iff readable.1 second).mpr readable.2

end

end MavenResolution.Constraint
