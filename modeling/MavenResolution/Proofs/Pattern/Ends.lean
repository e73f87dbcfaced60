import MavenResolution.Pattern.Basic

/-! Where matches may end. A pattern that characters pass one at a time, repeated, leads over any run of such
characters, so that the ends of a match from a position tell what the text has there. -/
namespace MavenResolution.Pattern

variable {text run front back : List Char} {accepts : Char → Bool} {node : Node} {nodes : List Node}
  {positions : List Nat} {start stop count : Nat} {c : Char}

/-- The text has the characters at the position, and each of them passes. -/
def Passes (text : List Char) (accepts : Char → Bool) (start : Nat) (run : List Char) : Prop :=
  run <+: text.drop start ∧ ∀ c ∈ run, accepts c = true

theorem append_prefix_drop_iff : front ++ back <+: text.drop start ↔
    front <+: text.drop start ∧ back <+: text.drop (start + front.length) := by
  rw [← List.drop_drop]
  constructor
  · rintro ⟨rest, same⟩
    rw [← same, List.append_assoc, List.drop_left]
    exact ⟨List.prefix_append _ _, List.prefix_append _ _⟩
  · rintro ⟨⟨rest, same⟩, behind⟩
    rw [← same, List.drop_left] at behind
    rw [← same]
    exact (List.prefix_append_right_inj front).mpr behind

theorem passes_append_iff : Passes text accepts start (front ++ back) ↔
    Passes text accepts start front ∧ Passes text accepts (start + front.length) back := by
  simp only [Passes, append_prefix_drop_iff, List.forall_mem_append]
  exact and_and_and_comm

theorem Passes.length_le (passes : Passes text accepts start run) : run.length ≤ text.length := by
  have within := passes.1.length_le
  rw [List.length_drop] at within
  omega

theorem mem_step_iff : stop ∈ step text accepts start ↔
    ∃ c, Passes text accepts start [c] ∧ stop = start + 1 := by
  have at_iff (c : Char) : [c] <+: text.drop start ↔ text[start]? = some c := by
    rw [← List.head?_drop, List.head?_eq_some_iff]
    exact ⟨fun ⟨rest, same⟩ => ⟨rest, same.symm⟩, fun ⟨rest, same⟩ => ⟨rest, same.symm⟩⟩
  simp only [Passes, at_iff, List.forall_mem_singleton, step]
  cases text[start]? with
  | none => simp
  | some c => by_cases passed : accepts c = true <;> simp [passed]

theorem passes_cons_iff : Passes text accepts start (c :: run) ↔
    Passes text accepts start [c] ∧ Passes text accepts (start + 1) run := by
  rw [← List.singleton_append]
  exact passes_append_iff

theorem passes_nil (text : List Char) (accepts : Char → Bool) (start : Nat) : Passes text accepts start [] :=
  ⟨List.nil_prefix, by simp⟩

/-- A step and a run behind it are a run from where the step began. -/
theorem exists_step_iff (sized : Nat → Prop) :
    (∃ middle ∈ (positions.flatMap (step text accepts)).eraseDups, ∃ run,
        Passes text accepts middle run ∧ sized run.length ∧ stop = middle + run.length) ↔
      ∃ start ∈ positions, ∃ c run,
        Passes text accepts start (c :: run) ∧ sized run.length ∧ stop = start + (c :: run).length := by
  simp only [List.mem_eraseDups, List.mem_flatMap, mem_step_iff, List.length_cons]
  constructor
  · rintro ⟨_, ⟨start, member, c, first, rfl⟩, run, passes, size, rfl⟩
    exact ⟨start, member, c, run, passes_cons_iff.mpr ⟨first, passes⟩, size, by omega⟩
  · rintro ⟨start, member, c, run, passes, size, rfl⟩
    obtain ⟨first, others⟩ := passes_cons_iff.mp passes
    exact ⟨start + 1, ⟨start, member, c, first, rfl⟩, run, others, size, by omega⟩

theorem mem_times_step_iff : stop ∈ times (step text accepts) count positions ↔
    ∃ start ∈ positions, ∃ run, Passes text accepts start run ∧ run.length = count ∧
      stop = start + run.length := by
  induction count generalizing positions with
  | zero =>
    constructor
    · exact fun member => ⟨stop, member, [], passes_nil _ _ _, rfl, rfl⟩
    · rintro ⟨start, member, run, -, size, rfl⟩
      rwa [size]
  | succ count ih =>
    rw [times, ih]
    refine (exists_step_iff (· = count)).trans ⟨?_, ?_⟩
    · rintro ⟨start, member, c, run, passes, size, same⟩
      exact ⟨start, member, c :: run, passes, congrArg (· + 1) size, same⟩
    · rintro ⟨start, member, run, passes, size, same⟩
      obtain ⟨c, run, rfl⟩ := List.exists_cons_of_length_eq_add_one size
      exact ⟨start, member, c, run, passes, Nat.succ.inj size, same⟩

theorem mem_upTo_step_iff : stop ∈ upTo (step text accepts) count positions ↔
    ∃ start ∈ positions, ∃ run, Passes text accepts start run ∧ run.length ≤ count ∧
      stop = start + run.length := by
  induction count generalizing positions with
  | zero =>
    constructor
    · exact fun member => ⟨stop, member, [], passes_nil _ _ _, Nat.le_refl _, rfl⟩
    · rintro ⟨start, member, run, -, size, rfl⟩
      rwa [Nat.le_zero.mp size]
  | succ count ih =>
    rw [upTo, List.mem_eraseDups, List.mem_append, ih]
    refine (or_congr_right (exists_step_iff (· ≤ count))).trans ⟨?_, ?_⟩
    · rintro (member | ⟨start, member, c, run, passes, size, same⟩)
      · exact ⟨stop, member, [], passes_nil _ _ _, Nat.zero_le _, rfl⟩
      · exact ⟨start, member, c :: run, passes, Nat.succ_le_succ size, same⟩
    · rintro ⟨start, member, run, passes, size, same⟩
      cases run with
      | nil =>
        obtain rfl : stop = start := same
        exact .inl member
      | cons c run => exact .inr ⟨start, member, c, run, passes, Nat.le_of_succ_le_succ size, same⟩

/-- What a character set takes. -/
def accepted (negated caseless : Bool) (members : List Member) (c : Char) : Bool :=
  members.any (·.holds caseless c) != negated

theorem ends_oneOf (text : List Char) (negated caseless : Bool) (members : List Member) :
    (Node.oneOf negated caseless members).ends text = step text (accepted negated caseless members) := by
  funext position
  rw [Node.ends]
  rfl

/-- A repeated character set takes any run of its characters that is long enough, whether it could take more or
not. -/
theorem mem_ends_repeated_iff {negated caseless : Bool} {members : List Member} {least : Nat} :
    stop ∈ (Node.repeated least none (.oneOf negated caseless members)).ends text start ↔
      ∃ run, Passes text (accepted negated caseless members) start run ∧ least ≤ run.length ∧
        stop = start + run.length := by
  rw [Node.ends, ends_oneOf, mem_upTo_step_iff]
  simp only [mem_times_step_iff, List.mem_singleton]
  constructor
  · rintro ⟨_, ⟨_, rfl, front, passes, size, rfl⟩, back, others, -, rfl⟩
    refine ⟨front ++ back, passes_append_iff.mpr ⟨passes, others⟩, ?_, ?_⟩
    · have bounded := passes.length_le
      rw [List.length_append]
      omega
    · rw [List.length_append, Nat.add_assoc]
  · rintro ⟨run, passes, enough, rfl⟩
    have bounded := passes.length_le
    have split := passes
    rw [← List.take_append_drop least run, passes_append_iff] at split
    refine ⟨_, ⟨start, rfl, run.take least, split.1, ?_, rfl⟩, run.drop least, split.2, ?_, ?_⟩ <;>
      simp only [List.length_take, List.length_drop] <;> omega

@[simp] theorem mem_ends_sequence_nil : stop ∈ (Node.sequence []).ends text start ↔ stop = start := by
  simp [Node.ends, Node.endsAll]

@[simp] theorem mem_ends_sequence_cons : stop ∈ (Node.sequence (node :: nodes)).ends text start ↔
    ∃ middle ∈ node.ends text start, stop ∈ (Node.sequence nodes).ends text middle := by
  simp [Node.ends, Node.endsAll]

@[simp] theorem not_mem_ends_choice_nil : stop ∉ (Node.choice []).ends text start := by
  simp [Node.ends, Node.endsAny]

@[simp] theorem mem_ends_choice_cons : stop ∈ (Node.choice (node :: nodes)).ends text start ↔
    stop ∈ node.ends text start ∨ stop ∈ (Node.choice nodes).ends text start := by
  simp [Node.ends, Node.endsAny]

end MavenResolution.Pattern
