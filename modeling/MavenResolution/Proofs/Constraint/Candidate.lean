import MavenResolution.Constraint.Parts
import MavenResolution.Proofs.Constraint.Readable

/-! The numbers of a candidate. They are runs of digits of its text, so that they can be read if no run of digits
in the text is longer than numerals may be. -/
namespace MavenResolution.Parts

open Text Constraint

variable {text run remainder : List Char} {runs taken : List (List Char)} {most : Nat} {value : α}
  {next : (run rest : List Char) → Option α}

/-- The runs of digits in a text are no longer than numerals may be. -/
def ShortRuns (text : List Char) : Prop :=
  ∀ run, run <:+: text → (∀ c ∈ run, isDecimal c = true) → run.length ≤ numeralLimit

theorem next_eq_some (digits : ∀ c ∈ run, isDecimal c = true)
    (found : (if run.isEmpty then none else next run.reverse text) = some value) :
    next run.reverse text = some value ∧ IsRun run.reverse := by
  split at found
  · cases found
  · rename_i nonempty
    exact ⟨found, by simpa using nonempty, by simpa using digits⟩

/-- However far a search goes back, it goes on behind a run of digits. -/
theorem tryRuns_eq_some (digits : ∀ c ∈ run, isDecimal c = true) (found : tryRuns next run text = some value) :
    ∃ whole rest, next whole rest = some value ∧ IsRun whole ∧ run.reverse ++ text = whole ++ rest := by
  induction text generalizing run with
  | nil =>
    obtain ⟨here, isRun⟩ := next_eq_some digits found
    exact ⟨run.reverse, [], here, isRun, rfl⟩
  | cons c rest ih =>
    unfold tryRuns at found
    dsimp only at found
    split at found
    · rename_i digit
      cases longer : tryRuns next (c :: run) rest with
      | none =>
        rw [longer] at found
        obtain ⟨here, isRun⟩ := next_eq_some digits found
        exact ⟨run.reverse, c :: rest, here, isRun, rfl⟩
      | some other =>
        rw [longer] at found
        obtain rfl : other = value := Option.some.inj found
        obtain ⟨whole, remaining, read, isRun, same⟩ := ih (List.forall_mem_cons.mpr ⟨digit, digits⟩) longer
        refine ⟨whole, remaining, read, isRun, ?_⟩
        rw [← same, List.reverse_cons, List.append_assoc, List.singleton_append]
    · obtain ⟨here, isRun⟩ := next_eq_some digits found
      exact ⟨run.reverse, c :: rest, here, isRun, rfl⟩

theorem taken_eq_some (found : (if isRemainder text then some (taken, text) else none) = some (runs, remainder)) :
    runs = taken := by
  split at found
  · cases found
    rfl
  · cases found

/-- The segments of a version are runs of digits of its text. -/
theorem segments_eq_some (found : segments most taken text = some (runs, remainder)) :
    ∃ more, runs = taken ++ more ∧ ∀ run ∈ more, IsRun run ∧ run <:+: text := by
  induction most generalizing taken text with
  | zero => exact ⟨[], by rw [taken_eq_some found, List.append_nil], nofun⟩
  | succ most ih =>
    unfold segments at found
    split at found
    · rename_i fewer rest equal
      obtain rfl := Nat.succ.inj equal
      rw [Option.orElse_eq_or, Option.or_eq_some_iff] at found
      rcases found with further | ⟨-, ended⟩
      · obtain ⟨run, remaining, further, isRun, same⟩ := tryRuns_eq_some (List.forall_mem_nil _) further
        obtain ⟨more, rfl, areRuns⟩ := ih further
        have behind : rest <:+: '.' :: rest := (List.suffix_cons '.' rest).isInfix
        rw [List.reverse_nil, List.nil_append] at same
        rw [same] at behind ⊢
        refine ⟨run :: more, List.append_assoc _ _ _, List.forall_mem_cons.mpr ⟨⟨isRun, ?_⟩, ?_⟩⟩
        · exact (List.prefix_append run remaining).isInfix.trans behind
        · intro other member
          obtain ⟨isRun, inside⟩ := areRuns other member
          exact ⟨isRun, (inside.trans (List.suffix_append run remaining).isInfix).trans behind⟩
      · exact ⟨[], by rw [taken_eq_some ended, List.append_nil], nofun⟩
    · exact ⟨[], by rw [taken_eq_some found, List.append_nil], nofun⟩

theorem split?_eq_some (found : split? text = some (runs, remainder)) :
    ∀ run ∈ runs, IsRun run ∧ run <:+: text := by
  obtain ⟨run, rest, further, isRun, same⟩ := tryRuns_eq_some (List.forall_mem_nil _) found
  obtain ⟨more, rfl, areRuns⟩ := segments_eq_some further
  rw [List.reverse_nil, List.nil_append] at same
  rw [same]
  refine List.forall_mem_cons.mpr ⟨⟨isRun, List.infix_append' [] run rest⟩, fun other member => ?_⟩
  obtain ⟨isRun, behind⟩ := areRuns other member
  exact ⟨isRun, behind.trans (List.suffix_append run rest).isInfix⟩

theorem isInfix_trim (text : List Char) : trim text <:+: text :=
  (List.rdropWhile_prefix isBlank (dropBlanks text)).isInfix.trans (List.dropWhile_suffix _).isInfix

/-- A candidate whose runs of digits are short is read. -/
theorem exists_ofVersion {version : String} (short : ShortRuns version.toList) :
    ∃ parts, ofVersion version = .ok parts := by
  unfold ofVersion
  split
  · exact ⟨none, rfl⟩
  · rename_i runs remainder found
    have areRuns := split?_eq_some found
    have read := (mapM_readNumeral_eq_ok_iff fun run member => (areRuns run member).1).mpr
      ⟨fun run member => short run ((areRuns run member).2.trans (isInfix_trim _)) (areRuns run member).1.digits, rfl⟩
    exact ⟨_, by rw [read]; rfl⟩

end MavenResolution.Parts
