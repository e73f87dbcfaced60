import Mathlib.Data.List.Perm.Basic
import MavenResolution.Proofs.Constraint.Verdict

/-! No text is a constraint of two dialects. Hence the order in which the dialects are tried decides nothing but
the order of the reasons why none accepts a text. -/
namespace MavenResolution.Constraint

open Text

variable {tools : Tools} {constraint word : String} {pattern : Option String} {compiled : Option Pattern}
  {dialect other : Dialect} {dialects : List Dialect}

/-! To which dialect a text belongs. -/

/-- The only constraint of a dialect. -/
def Dialect.word? : Dialect → Option String
  | .latestPatch => some "latest.patch"
  | .latestRelease => some "latest.release"
  | _ => none

/-- A text is written as constraints of a dialect are. Whether its numbers can be read is left open. -/
inductive Belongs (constraint : String) : Dialect → Prop
  | exact (versionLike : isExact constraint.toList = true)
      (noRange : ∀ form, ¬Denotes constraint.toList form) : Belongs constraint .exact
  | range {form : RangeForm} (denotes : Denotes constraint.toList form) : Belongs constraint form.dialect
  | word {dialect : Dialect} (same : dialect.word? = some constraint) : Belongs constraint dialect

theorem Denotes.not_refused {text : List Char} {form : RangeForm} (denotes : Denotes text form) (reason : Reason) :
    readRange {} form.dialect text none ≠ .ok (.error reason, none) := by
  have compiles : Tools.compilePattern {} none = .ok none := rfl
  rw [readRange_of_denotes denotes compiles]
  cases form.holds _ <;> exact nofun

theorem not_denotes_word (same : dialect.word? = some word) (form : RangeForm) : ¬Denotes word.toList form := by
  intro denotes
  have refused : ∃ reason, readRange {} form.dialect word.toList none = .ok (.error reason, none) := by
    cases dialect with
    | exact | tilde | caret | xRange | hyphen => cases same
    | latestPatch | latestRelease =>
      cases same
      cases form <;> exact ⟨_, rfl⟩
  obtain ⟨reason, refused⟩ := refused
  exact denotes.not_refused reason refused

theorem isExact_word (same : dialect.word? = some word) : isExact word.toList = false := by
  cases dialect with
  | exact | tilde | caret | xRange | hyphen => cases same
  | latestPatch | latestRelease =>
    cases same
    rfl

theorem word?_injective (same : dialect.word? = some word) (same' : other.word? = some word) : dialect = other := by
  cases dialect <;> cases same <;> cases other <;> first | rfl | exact absurd same' (by decide)

theorem Belongs.unique (belongs : Belongs constraint dialect) (belongs' : Belongs constraint other) :
    dialect = other := by
  cases belongs with
  | exact versionLike noRange =>
    cases belongs' with
    | exact => rfl
    | range denotes => exact absurd denotes (noRange _)
    | word same =>
      rw [isExact_word same] at versionLike
      cases versionLike
  | range denotes =>
    cases belongs' with
    | exact _ noRange => exact absurd denotes (noRange _)
    | range denotes' => exact denotes.dialect_unique denotes'
    | word same => exact absurd denotes (not_denotes_word same _)
  | word same =>
    cases belongs' with
    | exact versionLike =>
      rw [isExact_word same] at versionLike
      cases versionLike
    | range denotes => exact absurd denotes (not_denotes_word same _)
    | word same' => exact word?_injective same same'

/-! What the other dialects make of it. -/

/-- A dialect gives a reason why it does not accept a text. -/
def Refuses (tools : Tools) (constraint : String) (pattern : Option String) (dialect : Dialect) : Prop :=
  ∃ reason unused, read tools dialect constraint pattern = .ok (.error reason, unused)

theorem refuses_exact_of_not_isExact (unlike : isExact constraint.toList = false) :
    Refuses tools constraint pattern .exact :=
  ⟨.notDialect .exact, none, by simp only [read, readExact, unlike]; rfl⟩

theorem refuses_of_not_belongs (unbroken : Unbroken constraint.toList) (foreign : ¬Belongs constraint dialect) :
    Refuses tools constraint pattern dialect := by
  have others (form : RangeForm) (denotes : Denotes constraint.toList form) : form.dialect ≠ dialect := by
    rintro rfl
    exact foreign (.range denotes)
  obtain ⟨reason, refused⟩ := readRange_refuses tools dialect pattern unbroken others
  cases dialect with
  | exact =>
    by_cases versionLike : isExact constraint.toList = true
    · have range : ∃ form, Denotes constraint.toList form := by
        by_contra noRange
        exact foreign (.exact versionLike (not_exists.mp noRange))
      obtain ⟨form, denotes⟩ := range
      obtain ⟨reason, refused⟩ := readExact_of_denotes denotes pattern.isSome
      exact ⟨reason, none, by rw [read, refused]⟩
    · exact refuses_exact_of_not_isExact (Bool.eq_false_iff.mpr versionLike)
  | tilde | caret | xRange | hyphen => exact ⟨reason, none, refused⟩
  | latestPatch | latestRelease =>
    refine ⟨_, none, if_neg ?_⟩
    rintro rfl
    exact foreign (.word rfl)

/-- Beside a dialect that accepts a text, or cannot read its numbers, all others refuse it. -/
theorem refuses_of_not_refuses (unbroken : Unbroken constraint.toList)
    (taken : ¬Refuses tools constraint pattern dialect) (different : other ≠ dialect) :
    Refuses tools constraint pattern other := by
  refine refuses_of_not_belongs unbroken fun belongs => different (belongs.unique ?_)
  by_contra foreign
  exact taken (refuses_of_not_belongs unbroken foreign)

theorem build_of_refuses (refuses : Refuses tools constraint pattern dialect) :
    ∃ rejections, dialect.build constraint pattern tools = .ok (.invalid constraint rejections) := by
  obtain ⟨reason, unused, refused⟩ := refuses
  exact ⟨[.ofReason reason constraint], by rw [Dialect.build, refused]; rfl⟩

theorem not_refuses_of_build {comparator : Comparator}
    (accepts : dialect.build constraint pattern tools = .ok (.valid comparator)) :
    ¬Refuses tools constraint pattern dialect := by
  rintro ⟨reason, unused, refused⟩
  rw [Dialect.build, refused] at accepts
  cases accepts

/-! The dialects in any order. -/

theorem tryDialects_eq_build (taken : ¬Refuses tools constraint pattern dialect)
    (others : ∀ other, other ≠ dialect → Refuses tools constraint pattern other) (member : dialect ∈ dialects) :
    tryDialects tools constraint pattern [] dialects = dialect.build constraint pattern tools := by
  obtain ⟨front, rest, rfl, absent⟩ := List.eq_append_cons_of_mem member
  have before (other : Dialect) (member' : other ∈ front) : Refuses tools constraint pattern other := by
    refine others other ?_
    rintro rfl
    exact absent member'
  obtain ⟨more, -, skipped⟩ := tryDialects_append before [] (dialect :: rest)
  rw [skipped]
  cases here : read tools dialect constraint pattern with
  | error fault =>
    rw [tryDialects, Dialect.build, here]
    rfl
  | ok outcome =>
    obtain ⟨reading, compiled⟩ := outcome
    cases reading with
    | ok rule =>
      rw [tryDialects_of_accepts here, Dialect.build, here]
      rfl
    | error reason => exact absurd ⟨reason, compiled, here⟩ taken

theorem tryDialects_of_all_refuse (refuse : ∀ dialect ∈ dialects, Refuses tools constraint pattern dialect) :
    ∃ rejections, Refusals tools constraint pattern dialects rejections ∧
      tryDialects tools constraint pattern [] dialects = .ok (.invalid constraint rejections) := by
  obtain ⟨rejections, refusals, same⟩ := tryDialects_append refuse [] []
  rw [List.append_nil, List.nil_append] at same
  exact ⟨rejections, refusals, same⟩

theorem Refusals.perm {dialects' : List Dialect} {rejections rejections' : List Rejection}
    (perm : dialects.Perm dialects') (refusals : Refusals tools constraint pattern dialects rejections)
    (refusals' : Refusals tools constraint pattern dialects' rejections') : rejections.Perm rejections' := by
  obtain ⟨reordered, forall₂, perm'⟩ := List.perm_comp_forall₂ perm refusals'
  have unique : Relator.RightUnique fun dialect rejection => ∃ reason,
      rejection = Rejection.ofReason reason constraint ∧
        ∃ unused, read tools dialect constraint pattern = .ok (.error reason, unused) := by
    rintro dialect _ _ ⟨reason, rfl, unused, here⟩ ⟨reason', rfl, unused', here'⟩
    rw [here] at here'
    cases here'
    rfl
  rw [unique.forall₂ refusals forall₂]
  exact perm'

/-- The same comparator or fault, or refusals for the same reasons in some order. -/
inductive SameAnswer : Except Fault Validated → Except Fault Validated → Prop
  | accepted (comparator : Comparator) : SameAnswer (.ok (.valid comparator)) (.ok (.valid comparator))
  | refused (constraint : String) {rejections rejections' : List Rejection} (perm : rejections.Perm rejections') :
      SameAnswer (.ok (.invalid constraint rejections)) (.ok (.invalid constraint rejections'))
  | failed (fault : Fault) : SameAnswer (.error fault) (.error fault)

theorem Dialect.build_self_sameAnswer (tools : Tools) (dialect : Dialect) (constraint : String)
    (pattern : Option String) :
    SameAnswer (dialect.build constraint pattern tools) (dialect.build constraint pattern tools) := by
  rcases dialect.build constraint pattern tools with fault | (comparator | ⟨constraint, rejections⟩)
  · exact .failed fault
  · exact .accepted comparator
  · exact .refused constraint (List.Perm.refl _)

theorem tryDialects_perm {order : List Dialect} (unbroken : Unbroken constraint.toList)
    (perm : order.Perm dialects) :
    SameAnswer (tryDialects tools constraint pattern [] dialects) (tryDialects tools constraint pattern [] order) := by
  by_cases refused : ∀ dialect ∈ dialects, Refuses tools constraint pattern dialect
  · obtain ⟨rejections, refusals, same⟩ := tryDialects_of_all_refuse refused
    obtain ⟨rejections', refusals', same'⟩ := tryDialects_of_all_refuse fun dialect member =>
      refused dialect (perm.mem_iff.mp member)
    rw [same, same']
    exact .refused constraint (refusals.perm perm.symm refusals')
  · push Not at refused
    obtain ⟨dialect, member, taken⟩ := refused
    have others (other : Dialect) (different : other ≠ dialect) : Refuses tools constraint pattern other :=
      refuses_of_not_refuses unbroken taken different
    rw [tryDialects_eq_build taken others member, tryDialects_eq_build taken others (perm.mem_iff.mpr member)]
    exact dialect.build_self_sameAnswer tools constraint pattern

/-- At most one dialect accepts a text; beside one that accepts it or fails, all others give a reason. Validation
gives the answer that the dialects would give in any other order, and there is one if no dialect fails. It is so
whatever `re.compile` and `NpmSpec` make of a text. -/
theorem validate_of_any_order {text : String} (bare : strip text = text)
    (compiles : tools.compilePattern pattern = .ok compiled) :
    (∀ (dialect other : Dialect) (comparator comparator' : Comparator),
      dialect.build text pattern tools = .ok (.valid comparator) →
        other.build text pattern tools = .ok (.valid comparator') → dialect = other) ∧
    (∀ dialect : Dialect, (∀ rejections, dialect.build text pattern tools ≠ .ok (.invalid text rejections)) →
      ∀ other : Dialect, other ≠ dialect →
        ∃ rejections, other.build text pattern tools = .ok (.invalid text rejections)) ∧
    (∀ order : List Dialect, order.Perm Dialect.all →
      SameAnswer (validate text pattern tools) (tryDialects tools text pattern [] order)) ∧
    ((∀ dialect : Dialect, ∃ verdict, dialect.build text pattern tools = .ok verdict) →
      ∃ verdict, validate text pattern tools = .ok verdict) := by
  have unbroken : Unbroken text.toList := by
    rw [← bare, toList_strip]
    exact unbroken_trim text.toList
  have here : validate text pattern tools = tryDialects tools text pattern [] Dialect.all := by
    rw [validate_of_compiles text compiles, bare]
  refine ⟨?_, ?_, ?_, ?_⟩
  · intro dialect other comparator comparator' accepts accepts'
    by_contra different
    exact not_refuses_of_build accepts' (refuses_of_not_refuses unbroken (not_refuses_of_build accepts)
      (Ne.symm different))
  · intro dialect noReason other different
    refine build_of_refuses (refuses_of_not_refuses unbroken ?_ different)
    intro refuses
    obtain ⟨rejections, refused⟩ := build_of_refuses refuses
    exact noReason rejections refused
  · intro order perm
    rw [here]
    exact tryDialects_perm unbroken perm
  · intro builds
    rw [here]
    refine exists_tryDialects (fun dialect _ => ?_) []
    obtain ⟨verdict, built⟩ := builds dialect
    obtain ⟨outcome, read, -⟩ := bind_eq_ok_iff.mp built
    exact ⟨outcome, read⟩

/-- A hyphen range that is written like a version, and the dialects from the last to the first. -/
theorem validate_of_any_order_reversed :
    strip "1.2.0-2.0.0" = "1.2.0-2.0.0" ∧
      ∃ accepted : Comparator, accepted.dialect = .hyphen ∧
        validate "1.2.0-2.0.0" (some "-jre") = .ok (.valid accepted) ∧
        SameAnswer (.ok (.valid accepted)) (tryDialects {} "1.2.0-2.0.0" (some "-jre") [] Dialect.all.reverse) := by
  have bare : strip "1.2.0-2.0.0" = "1.2.0-2.0.0" := rfl
  have valid : ∃ accepted : Comparator, accepted.dialect = .hyphen ∧
      validate "1.2.0-2.0.0" (some "-jre") = .ok (.valid accepted) := ⟨_, rfl, rfl⟩
  obtain ⟨accepted, dialect, valid⟩ := valid
  have compiles : ∃ compiled, Tools.compilePattern {} (some "-jre") = .ok compiled := ⟨_, rfl⟩
  obtain ⟨compiled, compiles⟩ := compiles
  obtain ⟨-, -, answers, -⟩ := validate_of_any_order bare compiles
  have answer := answers Dialect.all.reverse (List.reverse_perm _)
  rw [valid] at answer
  exact ⟨bare, accepted, dialect, valid, answer⟩

end MavenResolution.Constraint
