import MavenResolution.Proofs.Repository.Credentials
import MavenResolution.Proofs.Session.Frame
import MavenResolution.Proofs.Session.Sources

/-! What a session remembers of a repository, whatever the server answers: once it has been normalized, the
session gives the same normalized repository for ever, and a search among the same repositories finds the
same ones again. -/
namespace MavenResolution.Session

variable {session : Session} {state after : State} {repository form : Repository}
  {containing : Option Pom} {repositories : List Repository}

/-! Probing. -/

/-- Probing changes the URL only, and only to its https URL. -/
def ProbedAs (repository form : Repository) : Prop :=
  form = repository ∨ form = repository.withUri (Repository.secureUri repository.uri)

theorem answeringForm_probedAs {found : Option Repository}
    (answers : ((session.answeringForm repository).run state).1 = .ok found) :
    ∀ form ∈ found, ProbedAs repository form := by
  unfold answeringForm at answers
  dsimp only at answers
  rw [run_bind_apply] at answers
  split at answers
  · rename_i secured after asked
    split at answers
    · cases answers
      rintro form ⟨⟩
      exact .inr rfl
    · split at answers
      · cases answers
        rintro form ⟨⟩
      · rw [run_bind_apply] at answers
        split at answers
        · split at answers
          · cases answers
            rintro form ⟨⟩
            exact .inl rfl
          · cases answers
            rintro form ⟨⟩
        · cases answers
  · cases answers

theorem probeOrReport_probedAs {found : Option Repository}
    (probed : (session.probeOrReport repository state).1 = .ok found) :
    ∀ form ∈ found, ProbedAs repository form := by
  unfold probeOrReport probe at probed
  rw [bind_apply, run_bind_apply] at probed
  cases answers : (session.answeringForm repository).run state with
  | mk result after =>
    rw [answers] at probed
    cases result with
    | error fault =>
      cases probed
      rintro form ⟨⟩
    | ok answering =>
      have same : answering = found := by cases answering <;> exact Except.ok.inj probed
      rw [← same]
      exact answeringForm_probedAs (congrArg Prod.fst answers)

theorem report_memory (session : Session) (failure : Failure) (state : State) :
    (session.report failure state).2.memory = state.memory :=
  (steady_report session failure state).2

theorem frame_memory (session : Session) (view : Memory → τ) :
    session.Frame fun state after => view after.memory = view state.memory where
  refl _ := rfl
  trans first second := second.trans first
  noted _ _ _ := rfl
  sent _ _ _ := rfl

theorem probeOrReport_memory (session : Session) (repository : Repository) (state : State) :
    (session.probeOrReport repository state).2.memory = state.memory :=
  (frame_memory session id).probeOrReport (fun _ => report_memory session _) state

/-! One repository. -/

theorem normalize_of_known (known : (session.declared repository containing).knownToExist = true) :
    session.normalize repository containing state =
      (some (session.declared repository containing), state) := by
  simp only [normalize, known, if_true]
  rfl

theorem normalize_apply (unknown : (session.declared repository containing).knownToExist = false) :
    session.normalize repository containing state =
      let declared := session.declared repository containing
      let computed :=
        normalizedRegion.compute declared.identity id (session.probeOrReport declared) 0 state
      (match computed.1.outcome with
        | .ok found => found.map session.applyCredentials, computed.2) := by
  simp only [normalize, unknown, Bool.false_eq_true, if_false]
  rw [bind_apply]
  split
  rename_i found result
  rw [result]
  rfl

/-- A repository that is not known to exist gets the normalized repository that is recorded for it, and this is what
probing it gave if nothing was recorded before. -/
theorem normalize_of_unknown (unknown : (session.declared repository containing).knownToExist = false)
    (idle : state.normalized.Idle) :
    let declared := session.declared repository containing
    let run := session.normalize repository containing state
    ∃ found, run.1 = found.map session.applyCredentials ∧
      (∀ identity, run.2.normalized.known identity =
        if identity == declared.identity then some (.done found)
        else state.normalized.known identity) ∧
      (state.normalized.known declared.identity = some (.done found) ∨
        state.normalized.known declared.identity = none ∧
          ∀ form ∈ found, ProbedAs declared form) := by
  intro declared run
  have kept (state : State) :
      (session.probeOrReport declared state).2.normalized = state.normalized :=
    congrArg Memory.normalized (probeOrReport_memory session declared state)
  obtain ⟨found, result, learned, origin⟩ :=
    Region.compute_records normalizedRegion_beside declared.identity 0 idle kept
  have same : run = _ := normalize_apply unknown
  refine ⟨found, ?_, ?_, ?_⟩
  · rw [same]
    dsimp only
    rw [result]
  · rw [same]
    exact learned
  · refine origin.imp_right fun probed => ⟨probed.1, probeOrReport_probedAs probed.2⟩

/-- A repository has been normalized: the session gives it without a probe. -/
def Remembers (session : Session) (state : State) (containing : Option Pom)
    (repository : Repository) (form : Option Repository) : Prop :=
  let declared := session.declared repository containing
  if declared.knownToExist then form = some declared
  else ∃ found, state.normalized.known declared.identity = some (.done found) ∧
    form = found.map session.applyCredentials

theorem Remembers.later {form : Option Repository}
    (remembers : session.Remembers state containing repository form)
    (extended : state.normalized.Extends after.normalized) :
    session.Remembers after containing repository form := by
  unfold Remembers at *
  dsimp only at *
  split
  · rename_i known
    rwa [if_pos known] at remembers
  · rename_i unknown
    rw [if_neg unknown] at remembers
    obtain ⟨found, recorded, same⟩ := remembers
    exact ⟨found, extended _ _ recorded, same⟩

theorem normalize_remembers (session : Session) (repository : Repository) (containing : Option Pom)
    (idle : state.normalized.Idle) :
    let run := session.normalize repository containing state
    session.Remembers run.2 containing repository run.1 ∧ run.2.normalized.Idle ∧
      state.normalized.Extends run.2.normalized := by
  intro run
  cases known : (session.declared repository containing).knownToExist with
  | true =>
    have same : run = _ := normalize_of_known known
    rw [same]
    refine ⟨?_, idle, .refl _⟩
    unfold Remembers
    rw [if_pos known]
  | false =>
    obtain ⟨found, result, learned, origin⟩ := normalize_of_unknown known idle
    refine ⟨?_, ?_, ?_⟩
    · unfold Remembers
      rw [if_neg (by simp [known])]
      refine ⟨found, ?_, result⟩
      rw [learned, beq_self_eq_true, if_pos rfl]
    · intro identity flight recorded
      rw [learned] at recorded
      split at recorded
      · exact ⟨found, (Option.some.inj recorded).symm⟩
      · exact idle _ _ recorded
    · intro identity outcome recorded
      rw [learned]
      split
      · rename_i same
        rw [eq_of_beq same] at recorded
        rcases origin with before | ⟨before, -⟩
        · exact before.symm.trans recorded
        · cases before.symm.trans recorded
      · exact recorded

theorem Remembers.normalize {form : Option Repository}
    (remembers : session.Remembers state containing repository form)
    (idle : state.normalized.Idle) :
    (session.normalize repository containing state).1 = form := by
  unfold Remembers at remembers
  cases known : (session.declared repository containing).knownToExist with
  | true =>
    rw [if_pos known] at remembers
    rw [normalize_of_known known, remembers]
  | false =>
    rw [if_neg (by simp [known])] at remembers
    obtain ⟨recorded, done, rfl⟩ := remembers
    obtain ⟨found, result, learned, origin⟩ := normalize_of_unknown known idle
    rw [result]
    rcases origin with before | ⟨before, -⟩
    · cases before.symm.trans done
      rfl
    · cases before.symm.trans done

/-! Searches. -/

/-- Repositories that have been normalized are normalized to the same whenever they are asked for again. -/
theorem normalizeAll_again (session : Session) (containing : Option Pom)
    (repositories : List Repository) {state : State} (idle : state.normalized.Idle) :
    let run := repositories.mapM (session.normalize · containing) state
    run.2.normalized.Idle ∧ state.normalized.Extends run.2.normalized ∧
      ∀ after : State, after.normalized.Idle → run.2.normalized.Extends after.normalized →
        let again := repositories.mapM (session.normalize · containing) after
        again.1 = run.1 ∧ again.2.normalized.Idle ∧
          after.normalized.Extends again.2.normalized := by
  induction repositories generalizing state with
  | nil => exact ⟨idle, .refl _, fun after idle _ => ⟨rfl, idle, .refl _⟩⟩
  | cons repository rest ih =>
    obtain ⟨remembers, idleNow, extendsNow⟩ :=
      normalize_remembers session repository containing idle
    obtain ⟨idleThen, extendsThen, again⟩ := ih idleNow
    rw [normalizeAll_cons]
    refine ⟨idleThen, extendsNow.trans extendsThen, fun after idleAfter later => ?_⟩
    have same := (remembers.later (extendsThen.trans later)).normalize idleAfter
    obtain ⟨-, idleNext, extendsNext⟩ :=
      normalize_remembers session repository containing idleAfter
    obtain ⟨others, idleLast, extendsLast⟩ := again _ idleNext (later.trans extendsNext)
    rw [normalizeAll_cons]
    exact ⟨List.cons_eq_cons.mpr ⟨same, others⟩, idleLast, extendsNext.trans extendsLast⟩

/-- A search finds what the first search among the same repositories would have found. -/
theorem searched_again (session : Session) (repositories : List Repository)
    (containing : Option Pom) (version version' : Option String) {state : State}
    (idle : state.normalized.Idle) :
    let run := session.searched repositories containing version state
    run.2.normalized.Idle ∧ state.normalized.Extends run.2.normalized ∧
      ∀ after : State, after.normalized.Idle → run.2.normalized.Extends after.normalized →
        (session.searched repositories containing version' after).1 =
          (session.searched repositories containing version' state).1 := by
  obtain ⟨idleNow, extendsNow, again⟩ := normalizeAll_again session containing repositories idle
  rw [searched_apply]
  simp only [searched_apply]
  cases session.includesCentral with
  | false =>
    refine ⟨idleNow, extendsNow, fun after idleAfter later => ?_⟩
    obtain ⟨same, -, -⟩ := again after idleAfter later
    simp only [Bool.false_eq_true, if_false]
    rw [same]
  | true =>
    simp only [if_true]
    obtain ⟨remembers, idleThen, extendsThen⟩ :=
      normalize_remembers session session.configuration.central containing idleNow
    refine ⟨idleThen, extendsNow.trans extendsThen, fun after idleAfter later => ?_⟩
    obtain ⟨same, idleNext, extendsNext⟩ := again after idleAfter (extendsThen.trans later)
    have central := (remembers.later (later.trans extendsNext)).normalize idleNext
    rw [same, central]

end MavenResolution.Session
