import Mathlib.Data.List.Forall2
import MavenResolution.Proofs.Constraint.NpmReader
import MavenResolution.Proofs.Constraint.Readable
import MavenResolution.Session.Resolution

/-! What is told of a constraint. Validation returns a verdict unless the text is a range whose numbers cannot be
read; the verdict is the comparator of the first dialect that accepts the text, or the reasons why none does. -/
namespace MavenResolution.Constraint

open Text

/-- What becomes of a text that is offered to dialects one after another: the first one that accepts it decides,
or all give a reason. -/
inductive Decided (tools : Tools) (constraint : String) (pattern : Option String) (dialects : List Dialect) :
    Validated → Prop
  | accepted {front rest : List Dialect} {dialect : Dialect} {rejections : List Rejection} {rule : Rule}
      {compiled : Option Pattern} (order : dialects = front ++ dialect :: rest)
      (before : Refusals tools constraint pattern front rejections)
      (accepts : read tools dialect constraint pattern = .ok (.ok rule, compiled)) :
      Decided tools constraint pattern dialects (.valid ⟨dialect, constraint, rule, compiled⟩)
  | refused {rejections : List Rejection} (each : Refusals tools constraint pattern dialects rejections) :
      Decided tools constraint pattern dialects (.invalid constraint rejections)

/-- A pattern is given, and `re.compile` raises `re.error` for it. -/
def Malformed (tools : Tools) (pattern : Option String) : Prop :=
  ∃ text fault, pattern = some text ∧ tools.compile text = .error fault ∧ fault ≠ .tooOften

/-- A verdict rests on the dialects, or on a pattern that does not compile. -/
inductive Reports (tools : Tools) (text : String) (pattern : Option String) : Validated → Prop
  | decided {verdict : Validated} (wellFormed : ¬Malformed tools pattern)
      (decided : Decided tools (strip text) pattern Dialect.all verdict) :
      Reports tools text pattern verdict
  | malformed {patternText : String} {fault : Pattern.Fault} (given : pattern = some patternText)
      (bad : tools.compile patternText = .error fault) :
      Reports tools text pattern (.invalid patternText [⟨.pattern, .badPattern fault, patternText⟩])

variable {tools : Tools} {constraint : String} {pattern : Option String} {compiled : Option Pattern}
  {front dialects : List Dialect} {rejections : List Rejection} {verdict : Validated}

theorem tryDialects_decided (before : Refusals tools constraint pattern front rejections)
    (returned : tryDialects tools constraint pattern rejections dialects = .ok verdict) :
    Decided tools constraint pattern (front ++ dialects) verdict := by
  induction dialects generalizing front rejections with
  | nil =>
    cases returned
    rw [List.append_nil]
    exact .refused before
  | cons dialect rest ih =>
    cases here : read tools dialect constraint pattern with
    | error fault =>
      rw [tryDialects, Dialect.build, here] at returned
      cases returned
    | ok outcome =>
      obtain ⟨reading, compiled⟩ := outcome
      cases reading with
      | ok rule =>
        rw [tryDialects_of_accepts here] at returned
        cases returned
        exact .accepted rfl before here
      | error reason =>
        rw [tryDialects_of_refuses here] at returned
        have refused : Refusals tools constraint pattern [dialect] [.ofReason reason constraint] :=
          .cons ⟨reason, rfl, compiled, here⟩ .nil
        rw [← List.singleton_append, ← List.append_assoc]
        exact ih (List.rel_append before refused) returned

theorem exists_tryDialects
    (reads : ∀ dialect ∈ dialects, ∃ outcome, read tools dialect constraint pattern = .ok outcome)
    (rejections : List Rejection) :
    ∃ verdict, tryDialects tools constraint pattern rejections dialects = .ok verdict := by
  induction dialects generalizing rejections with
  | nil => exact ⟨_, rfl⟩
  | cons dialect rest ih =>
    obtain ⟨⟨⟨reading, compiled⟩, here⟩, there⟩ := List.forall_mem_cons.mp reads
    cases reading with
    | ok rule => exact ⟨_, tryDialects_of_accepts here⟩
    | error reason =>
      rw [tryDialects_of_refuses here]
      exact ih there _

/-- Only a range may have numbers that stop its reading. -/
theorem reads_of_not_denotes (unbroken : Unbroken constraint.toList)
    (noRange : ∀ form, ¬Denotes constraint.toList form) (compiles : tools.compilePattern pattern = .ok compiled)
    (dialect : Dialect) : ∃ outcome, read tools dialect constraint pattern = .ok outcome := by
  obtain ⟨reason, refused⟩ := readRange_refuses tools dialect pattern unbroken
    fun form denotes => absurd denotes (noRange form)
  cases dialect with
  | exact => exact ⟨_, rfl⟩
  | tilde | caret | xRange | hyphen => exact ⟨_, refused⟩
  | latestPatch | latestRelease =>
    simp only [read, compiles]
    split
    · exact ⟨_, rfl⟩
    · exact ⟨_, rfl⟩

/-- A pattern compiles or raises `re.error`. -/
theorem compiles_or_malformed (known : ∀ text ∈ pattern, tools.compile text ≠ .error .tooOften) :
    (¬Malformed tools pattern ∧ ∃ compiled, tools.compilePattern pattern = .ok compiled) ∨
      Malformed tools pattern := by
  cases pattern with
  | none => exact .inl ⟨by rintro ⟨_, _, ⟨⟩, -⟩, none, rfl⟩
  | some text =>
    cases compile : tools.compile text with
    | ok fits =>
      refine .inl ⟨?_, some ⟨text, fits⟩, by rw [Tools.compilePattern, compile]; rfl⟩
      rintro ⟨_, _, ⟨⟩, bad, -⟩
      rw [compile] at bad
      cases bad
    | error fault =>
      refine .inr ⟨text, fault, rfl, compile, ?_⟩
      rintro rfl
      exact known text rfl compile

theorem validate_of_malformed (text : String) {patternText : String} {fault : Pattern.Fault}
    (bad : tools.compile patternText = .error fault) (other : fault ≠ .tooOften) :
    validate text (some patternText) tools =
      .ok (.invalid patternText [⟨.pattern, .badPattern fault, patternText⟩]) := by
  rw [validate, bad]
  cases fault with
  | tooOften => exact absurd rfl other
  | malformed | other => rfl

theorem validate_reports {text : String} (returned : validate text pattern tools = .ok verdict) :
    Reports tools text pattern verdict := by
  have first : Refusals tools (strip text) pattern [] [] := .nil
  cases pattern with
  | none => exact .decided (by rintro ⟨_, _, ⟨⟩, -⟩) (tryDialects_decided first returned)
  | some patternText =>
    cases compile : tools.compile patternText with
    | ok fits =>
      rw [validate, compile] at returned
      refine .decided ?_ (tryDialects_decided first returned)
      rintro ⟨_, _, ⟨⟩, bad, -⟩
      rw [compile] at bad
      cases bad
    | error fault =>
      by_cases often : fault = .tooOften
      · rw [often] at compile
        rw [validate, compile] at returned
        cases returned
      · rw [validate_of_malformed text compile often] at returned
        cases returned
        exact .malformed rfl compile

/-- Validation fails to return only on ranges with numbers that cannot be read. -/
theorem exists_validate_iff (text : String) (documented : tools.npm.Documented)
    (known : ∀ patternText ∈ pattern, tools.compile patternText ≠ .error .tooOften) :
    (∃ verdict, validate text pattern tools = .ok verdict) ↔
      Malformed tools pattern ∨ ∀ form, Denotes (trim text.toList) form → form.Readable := by
  rcases compiles_or_malformed known with ⟨wellFormed, compiled, compiles⟩ | malformed
  swap
  · refine iff_of_true ?_ (.inl malformed)
    obtain ⟨patternText, fault, rfl, bad, other⟩ := malformed
    exact ⟨_, validate_of_malformed text bad other⟩
  rw [or_iff_right wellFormed]
  constructor
  · rintro ⟨verdict, returned⟩ form denotes
    rw [validate_of_denotes denotes compiles] at returned
    obtain ⟨holds, read, -⟩ := map_eq_ok_iff.mp returned
    exact (exists_holds_iff documented denotes).mp ⟨holds, read⟩
  · intro readable
    by_cases range : ∃ form, Denotes (trim text.toList) form
    · obtain ⟨form, denotes⟩ := range
      obtain ⟨holds, read⟩ := (exists_holds_iff documented denotes).mpr (readable form denotes)
      rw [validate_of_denotes denotes compiles, read]
      exact ⟨_, rfl⟩
    · rw [not_exists] at range
      rw [validate_of_compiles text compiles]
      refine exists_tryDialects (fun dialect _ => reads_of_not_denotes ?_ ?_ compiles dialect) []
      · rw [toList_strip]
        exact unbroken_trim text.toList
      · rwa [toList_strip]

/-- Every verdict says what it rests on, and there is one unless the text is a range with numbers that cannot be
read. The search for an upgrade fails, without a request and with what validation told, for every constraint
that is not accepted. It is so with every `re.compile`, and with every `NpmSpec` that does what is documented. -/
theorem validate_reports_iff_readable (tools : Tools) (documented : tools.npm.Documented) (text : String)
    (pattern : Option String) (known : ∀ patternText ∈ pattern, tools.compile patternText ≠ .error .tooOften) :
    ((∃ verdict, validate text pattern tools = .ok verdict) ↔
        Malformed tools pattern ∨ ∀ form, Denotes (trim text.toList) form → form.Readable) ∧
      (∀ verdict, validate text pattern tools = .ok verdict → Reports tools text pattern verdict) ∧
      ∀ (session : Session) (owner : ModuleId) (current : Option String) (repositories : List Repository)
        (state : Session.State), session.tools = tools →
        (∀ constraint rejections, validate text pattern tools = .ok (.invalid constraint rejections) →
          (session.findUpgrade owner current text pattern repositories).run state =
            (.error (.invalidConstraint constraint rejections), state)) ∧
        ∀ fault, validate text pattern tools = .error fault →
          (session.findUpgrade owner current text pattern repositories).run state =
            (.error (.constraint fault), state) := by
  refine ⟨exists_validate_iff text documented known, fun verdict => validate_reports, ?_⟩
  rintro session owner current repositories state rfl
  constructor
  · intro constraint rejections refused
    rw [Session.findUpgrade, refused]
    rfl
  · intro fault failed
    rw [Session.findUpgrade, failed]
    rfl

theorem validate_reports_tilde : ∃ comparator, validate " ~1" (some "-jre") = .ok (.valid comparator) ∧
    Reports {} " ~1" (some "-jre") (.valid comparator) :=
  ⟨_, rfl, (validate_reports_iff_readable {} NpmSpec.documented_read " ~1" (some "-jre")
    (by rintro _ ⟨⟩; exact nofun)).2.1 _ rfl⟩

/-- A range with a leading zero is neither accepted nor refused. -/
theorem exists_validate_fault : ¬∀ text : String, ∃ verdict, validate text none = .ok verdict := by
  intro returns
  obtain ⟨verdict, returned⟩ := returns "^01"
  have faulty : validate "^01" none = .error (.range "Invalid NPM block in '^01': '^01'") := rfl
  rw [faulty] at returned
  cases returned

end MavenResolution.Constraint
