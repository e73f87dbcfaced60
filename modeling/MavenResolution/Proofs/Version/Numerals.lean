import MavenResolution.Proofs.Version.NormalForm
import MavenResolution.Proofs.Version.Runs
import MavenResolution.Version.Basic

/-! Which version texts can be read. What is read as a numeral is a whole run of digits, and a text that has no
unreadable run has a version, whatever its separators. To say what is read, the reader of numerals is made a
parameter, and replaced by one that keeps a record. -/
namespace MavenResolution.Version

open Text

variable {run : List Char} {lexemes : List Lexeme} {fault : NumeralError} {α β : Type}

/-- No number is made of the run: it has digits without a place value, or more of them than are read. -/
def Unreadable (run : List Char) : Prop := (∃ c ∈ run, isDecimal c = false) ∨ numeralLimit < run.length

/-- The items that lexemes denote, with the numerals read in any way. -/
def itemsReading {m : Type → Type} [Monad m] (read : List Char → m Nat) : List Lexeme → m (List Item)
  | [] => return []
  | .dot :: rest => do return prepend (.number 0) (← itemsReading read rest)
  | .hyphen :: rest => do return prepend (.number 0) (enclose (← itemsReading read rest))
  | .digits run :: [] => do return prepend (.number (← read run)) []
  | .digits run :: .dot :: rest => do
    let value ← read run
    return prepend (.number value) (← itemsReading read rest)
  | .digits run :: .hyphen :: rest => do
    let value ← read run
    return prepend (.number value) (enclose (← itemsReading read rest))
  | .digits run :: next :: rest => do
    let value ← read run
    return prepend (.number value) (enclose (← itemsReading read (next :: rest)))
  | .word run :: [] => return prepend (.qualifier (qualifierOf run false)) []
  | .word run :: .dot :: rest => do
    return prepend (.qualifier (qualifierOf run false)) (← itemsReading read rest)
  | .word run :: .hyphen :: rest => do
    return prepend (.qualifier (qualifierOf run false)) (enclose (← itemsReading read rest))
  | .word run :: next :: rest => do
    return prepend (.qualifier (qualifierOf run true)) (enclose (← itemsReading read (next :: rest)))

theorem itemsReading_readNumeral (lexemes : List Lexeme) : itemsReading readNumeral lexemes = itemsOf lexemes := by
  induction lexemes using itemsOf.induct <;> simp_all only [itemsReading, itemsOf] <;> rfl

/-! The record. -/

abbrev Recorded := ExceptT NumeralError (StateM (List (List Char)))

/-- Reads a run as a numeral and keeps it. -/
def readRecorded (run : List Char) : Recorded Nat := do
  modify (· ++ [run])
  ExceptT.mk (pure (readNumeral run))

/-- The items of a text, and the runs that were read as numerals for them. -/
def parseRecorded (text : String) : Except NumeralError (List Item) × List (List Char) :=
  (itemsReading readRecorded (Version.lexemes (lowercase text.toList))).run.run []

/-- The runs of digits, up to the first that is unreadable. -/
def runsRead : List Lexeme → List (List Char)
  | [] => []
  | .digits run :: rest => run :: if (readNumeral run).isOk then runsRead rest else []
  | _ :: rest => runsRead rest

/-- Whatever was recorded before, a computation records these runs and has this result. It fails where one of them
is no numeral, and only there. -/
structure Records (computation : Recorded α) (runs : List (List Char)) (result : Except NumeralError α) : Prop where
  run : ∀ before, computation.run.run before = (result, before ++ runs)
  failed : ∀ fault, result = .error fault → ∃ run ∈ runs, readNumeral run = .error fault
  succeeded : ∀ value, result = .ok value → ∀ run ∈ runs, ∃ number, readNumeral run = .ok number

namespace Records

variable {computation : Recorded α} {runs more : List (List Char)} {result : Except NumeralError α}

theorem pure (value : α) : Records (Pure.pure value) [] (.ok value) := by
  refine ⟨fun before => ?_, nofun, fun _ _ => nofun⟩
  rw [List.append_nil]
  rfl

theorem read (run : List Char) : Records (readRecorded run) [run] (readNumeral run) := by
  refine ⟨fun _ => rfl, fun fault fails => ⟨run, List.mem_singleton_self run, fails⟩, ?_⟩
  intro value reads other member
  cases List.mem_singleton.mp member
  exact ⟨value, reads⟩

theorem bind (records : Records computation runs result) {next : α → Recorded β}
    {outcome : α → Except NumeralError β} (nexts : ∀ value, Records (next value) more (outcome value)) :
    Records (computation >>= next) (runs ++ if result.isOk then more else []) (result >>= outcome) := by
  obtain ⟨ran, failed, succeeded⟩ := records
  cases result with
  | error fault =>
    rw [Except.isOk, Except.toBool, if_neg Bool.false_ne_true, List.append_nil]
    refine ⟨fun before => ?_, fun other same => ?_, nofun⟩
    · rw [ExceptT.run_bind, StateT.run_bind, ran]
      rfl
    · cases same
      exact failed fault rfl
  | ok value =>
    obtain ⟨ranNext, failedNext, succeededNext⟩ := nexts value
    rw [Except.isOk, Except.toBool, if_pos rfl]
    refine ⟨fun before => ?_, fun fault fails => ?_, fun result reads => ?_⟩
    · rw [ExceptT.run_bind, StateT.run_bind, ran, ← List.append_assoc]
      exact ranNext _
    · obtain ⟨run, member, fails⟩ := failedNext fault fails
      exact ⟨run, List.mem_append_right _ member, fails⟩
    · rw [List.forall_mem_append]
      exact ⟨succeeded value rfl, succeededNext result reads⟩

theorem map (records : Records computation runs result) (f : α → β) :
    Records (do return f (← computation)) runs (do return f (← result)) := by
  have mapped := records.bind fun value => pure (f value)
  rwa [ite_self, List.append_nil] at mapped

end Records

/-- The recording reader gives what the plain one gives, and has read the runs of digits. -/
theorem records_itemsReading (lexemes : List Lexeme) :
    Records (itemsReading readRecorded lexemes) (runsRead lexemes) (itemsOf lexemes) := by
  match lexemes with
  | [] => exact .pure _
  | .dot :: rest | .hyphen :: rest => exact (records_itemsReading rest).map _
  | .digits run :: [] =>
    have last := (Records.read run).map fun value => prepend (.number value) []
    rwa [runsRead, runsRead, ite_self]
  | .digits run :: .dot :: rest | .digits run :: .hyphen :: rest =>
    exact (Records.read run).bind fun _ => (records_itemsReading rest).map _
  | .digits run :: .digits more :: rest =>
    exact (Records.read run).bind fun _ => (records_itemsReading (.digits more :: rest)).map _
  | .digits run :: .word more :: rest =>
    exact (Records.read run).bind fun _ => (records_itemsReading (.word more :: rest)).map _
  | .word _ :: [] => exact .pure _
  | .word _ :: .dot :: rest | .word _ :: .hyphen :: rest => exact (records_itemsReading rest).map _
  | .word _ :: .digits more :: rest => exact (records_itemsReading (.digits more :: rest)).map _
  | .word _ :: .word more :: rest => exact (records_itemsReading (.word more :: rest)).map _

/-! What is read. -/

theorem mem_of_mem_runsRead (read : run ∈ runsRead lexemes) : .digits run ∈ lexemes := by
  induction lexemes with
  | nil => cases read
  | cons lexeme rest ih =>
    cases lexeme with
    | digits first =>
      rw [runsRead, List.mem_cons] at read
      obtain rfl | read := read
      · exact List.mem_cons_self
      · split at read
        · exact List.mem_cons_of_mem _ (ih read)
        · cases read
    | word | dot | hyphen => exact List.mem_cons_of_mem _ (ih read)

theorem mem_runsRead (readable : ∀ run ∈ runsRead lexemes, ∃ number, readNumeral run = .ok number)
    (member : .digits run ∈ lexemes) : run ∈ runsRead lexemes := by
  induction lexemes with
  | nil => cases member
  | cons lexeme rest ih =>
    cases lexeme with
    | digits first =>
      rw [runsRead, List.forall_mem_cons] at readable
      obtain ⟨⟨number, reads⟩, others⟩ := readable
      rw [reads] at others
      rw [runsRead, reads]
      obtain same | later := List.mem_cons.mp member
      · cases same
        exact List.mem_cons_self
      · exact List.mem_cons_of_mem _ (ih others later)
    | word | dot | hyphen =>
      obtain same | later := List.mem_cons.mp member
      · cases same
      · exact ih readable later

/-! Numerals. -/

theorem length_takeWhile_lt_iff {kind : Char → Bool} :
    (run.takeWhile kind).length < run.length ↔ ∃ c ∈ run, kind c = false := by
  have cut := List.takeWhile_prefix (p := kind) (l := run)
  have whole : (run.takeWhile kind).length = run.length ↔ ∀ c ∈ run, kind c = true := by
    rw [← List.takeWhile_eq_self_iff]
    exact ⟨cut.eq_of_length, congrArg List.length⟩
  rw [cut.length_le.lt_iff_ne, Ne, whole]
  simp

/-- A run is refused as a whole, or for the number of decimal digits that it begins with. -/
theorem unreadable_of_readNumeral (nonempty : run ≠ []) (fails : readNumeral run = .error fault) :
    Unreadable run ∧ (fault = .notNumeral (String.ofList run) ∨
      fault = .tooLong (run.takeWhile isDecimal).length) := by
  unfold readNumeral at fails
  extract_lets leading at fails
  split at fails
  case isTrue long =>
    cases fails
    exact ⟨.inr (long.trans_le (List.takeWhile_prefix _).length_le), .inr rfl⟩
  case isFalse short =>
    split at fails
    case isTrue shorter =>
      cases fails
      rw [Bool.or_eq_true, List.isEmpty_iff, decide_eq_true_eq] at shorter
      exact ⟨.inl (length_takeWhile_lt_iff.mp (shorter.resolve_left nonempty)), .inl rfl⟩
    case isFalse => cases fails

theorem not_unreadable_of_readNumeral {number : Nat} (reads : readNumeral run = .ok number) :
    ¬Unreadable run := by
  unfold readNumeral at reads
  extract_lets leading at reads
  split at reads
  case isTrue => cases reads
  case isFalse short =>
    split at reads
    case isTrue => cases reads
    case isFalse whole =>
      rw [Bool.or_eq_true, not_or, decide_eq_true_eq] at whole
      rintro (other | long)
      · exact whole.2 (length_takeWhile_lt_iff.mpr other)
      · exact short (long.trans_le (not_lt.mp whole.2))

/-! Texts. -/

/-- A fault is that of an unreadable run. -/
theorem exists_unreadable_of_ofText {text : String} (fails : ofText text = .error fault) :
    ∃ run, MaximalRun isDigit run (lowercase text.toList) ∧ Unreadable run ∧
      (fault = .notNumeral (String.ofList run) ∨ fault = .tooLong (run.takeWhile isDecimal).length) := by
  have unread : parse text = .error fault := by
    cases same : parse text with
    | error other =>
      rw [ofText, same] at fails
      cases fails
      rfl
    | ok items =>
      rw [ofText_of_parse same] at fails
      cases fails
  obtain ⟨run, member, refused⟩ := (records_itemsReading _).failed fault unread
  have maximal := digits_mem_lexemes_iff.mp (mem_of_mem_runsRead member)
  exact ⟨run, maximal, unreadable_of_readNumeral maximal.nonempty refused⟩

/-- Where a version is read, all runs are, and all are readable. -/
theorem mem_runsRead_of_ofText {text : String} {version : Version} (read : ofText text = .ok version)
    (maximal : MaximalRun isDigit run (lowercase text.toList)) :
    run ∈ runsRead (Version.lexemes (lowercase text.toList)) ∧ ¬Unreadable run := by
  have readable := (records_itemsReading _).succeeded _ (parse_of_ofText read)
  have member := mem_runsRead readable (digits_mem_lexemes_iff.mpr maximal)
  obtain ⟨number, reads⟩ := readable run member
  exact ⟨member, not_unreadable_of_readNumeral reads⟩

/-- A version text cannot be read exactly if it has a run of digits, as far as it goes, that is unreadable, and
the fault is that of such a run. The runs that are read as numerals, which are known from the record, are runs
that go as far as they can, and in a text that can be read they are all of these. -/
theorem ofText_fails_iff_unreadable (text : String) :
    ((∃ fault, ofText text = .error fault) ↔
      ∃ run, MaximalRun isDigit run (lowercase text.toList) ∧ Unreadable run) ∧
    (∀ fault, ofText text = .error fault → ∃ run, MaximalRun isDigit run (lowercase text.toList) ∧
      Unreadable run ∧ (fault = .notNumeral (String.ofList run) ∨
        fault = .tooLong (run.takeWhile isDecimal).length)) ∧
    itemsReading readNumeral (Version.lexemes (lowercase text.toList)) = parse text ∧
    (parseRecorded text).1 = parse text ∧
    (∀ run ∈ (parseRecorded text).2, MaximalRun isDigit run (lowercase text.toList)) ∧
    ∀ version, ofText text = .ok version →
      ∀ run, MaximalRun isDigit run (lowercase text.toList) → run ∈ (parseRecorded text).2 := by
  have recorded : parseRecorded text = (parse text, runsRead (Version.lexemes (lowercase text.toList))) :=
    (records_itemsReading _).run []
  rw [recorded]
  refine ⟨⟨?_, ?_⟩, fun _ => exists_unreadable_of_ofText, itemsReading_readNumeral _, rfl, ?_, ?_⟩
  · rintro ⟨fault, fails⟩
    obtain ⟨run, maximal, unreadable, -⟩ := exists_unreadable_of_ofText fails
    exact ⟨run, maximal, unreadable⟩
  · rintro ⟨run, maximal, unreadable⟩
    cases read : ofText text with
    | error fault => exact ⟨fault, rfl⟩
    | ok version => exact absurd unreadable (mem_runsRead_of_ofText read maximal).2
  · exact fun run member => digits_mem_lexemes_iff.mp (mem_of_mem_runsRead member)
  · exact fun version read run maximal => (mem_runsRead_of_ofText read maximal).1

/-- Empty places between separators are no runs, and zeros in front belong to theirs. -/
example : (parseRecorded "1..02-RC-").2 = [['1'], ['0', '2']] := rfl

end MavenResolution.Version
