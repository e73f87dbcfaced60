import Mathlib.Data.List.Induction
import MavenResolution.Proofs.Session.Credentials
import MavenResolution.Proofs.Session.Replies
import MavenResolution.Proofs.Session.Sending

/-! The probing of repositories. A session probes a repository once, by its https URL first, and stays with what it
found: the normalized URL is the declared one or its https URL. Requests that fail are passed over; any other
exception goes to `on_error`, once. -/
namespace MavenResolution

namespace Repository

/-- The URL has the scheme http, whatever the case of its letters, and goes on behind it. -/
def IsPlain (uri : String) (rest : List Char) : Prop :=
  ∃ scheme, uri.toList = scheme ++ rest ∧ scheme.map Char.toLower = "http://".toList

/-- Only an http URL is changed, and only its scheme. -/
theorem secureUri_cases (uri : String) :
    secureUri uri = uri ∨
      ∃ rest, IsPlain uri rest ∧ secureUri uri = String.ofList ("https://".toList ++ rest) := by
  unfold secureUri
  dsimp only
  split
  · rename_i plain
    exact .inr ⟨_, ⟨_, (List.take_append_drop _ _).symm, plain⟩, rfl⟩
  · exact .inl rfl

end Repository

namespace Session

variable {session : Session} {state after : State} {repository : Repository}

/-- The HEAD request to a URL, and what sending it gave. -/
structure Trial where
  uri : String
  exchange : Http.Transport.Exchange

/-- What sending the HEAD request to a URL gives. -/
def headTrial (session : Session) (repository : Repository) (uri : String)
    (earlier : List Http.Request) : Trial where
  uri := uri
  exchange := session.transport.send session.server earlier (some Http.defaultContext)
    { method := .head, url := uri, auth := repository.auth }

namespace Trial

/-- Something answered. -/
def answered (trial : Trial) : Bool := trial.exchange.outcome.isOk

/-- The request failed, so that another URL may be tried. -/
def failed (trial : Trial) : Bool :=
  match trial.exchange.outcome with
  | .ok _ => false
  | .error fault => fault.kind.isRequest

/-- The fault, if it is none of a request. -/
def fatal (trial : Trial) : Option Http.Fault :=
  match trial.exchange.outcome with
  | .ok _ => none
  | .error fault => if fault.kind.isRequest then none else some fault

end Trial

/-- The trials of a probe after other requests: the https URL, and the declared one if it is another one and the
request for the https URL failed. -/
def trials (session : Session) (repository : Repository) (earlier : List Http.Request) : List Trial :=
  let secure := Repository.secureUri repository.uri
  let first := session.headTrial repository secure earlier
  first :: if first.failed && secure != repository.uri then
    [session.headTrial repository repository.uri (earlier ++ first.exchange.requests)] else []

/-- What trials give: the URL that answered first, unless a fault ended them. -/
def verdict (repository : Repository) (trials : List Trial) : Except Http.Fault (Option Repository) :=
  match trials.findSome? Trial.fatal with
  | some fault => .error fault
  | none => .ok ((trials.find? Trial.answered).map fun trial => repository.withUri trial.uri)

/-- What a computation sends is that of some trials, and nothing is told meanwhile. -/
structure Tries (session : Session) (trials : List Trial) (state after : State) : Prop where
  requests : after.requests = state.requests ++ trials.flatMap (·.exchange.requests)
  tells : ∀ failures, session.Tells state failures → session.Tells after failures

theorem Tries.of_silent (silent : session.Silent state after) (same : after.requests = state.requests) :
    session.Tries [] state after where
  requests := by rw [same, List.flatMap_nil, List.append_nil]
  tells := silent.tells

theorem Tries.append {trials later : List Trial} {last : State} (first : session.Tries trials state after)
    (second : session.Tries later after last) : session.Tries (trials ++ later) state last where
  requests := by rw [second.requests, first.requests, List.flatMap_append, List.append_assoc]
  tells failures told := second.tells failures (first.tells failures told)

/-- What one trial says: whether something answers, or what fault ends the probing. -/
def Trial.reach (trial : Trial) : Except Http.Fault Bool :=
  match trial.fatal with
  | some fault => .error fault
  | none => .ok trial.answered

theorem isReachable_tries (session : Session) (repository : Repository) (uri : String) (state : State) :
    let trial := session.headTrial repository uri state.requests
    let run := session.isReachable repository uri state
    run.1 = trial.reach ∧ session.Tries [trial] state run.2 := by
  intro trial run
  let request : Http.Request := { method := .head, url := uri, auth := repository.auth }
  have sent : session.Tries [trial] state (session.send Http.defaultContext request state).2 := by
    refine ⟨?_, (session.frame_silent.sent Http.defaultContext request state).tells⟩
    rw [List.flatMap_singleton]
    rfl
  have outcome : (session.send Http.defaultContext request state).1 = trial.exchange.outcome := rfl
  have same : run = (match trial.exchange.outcome with
      | .ok _ => pure (.ok true)
      | .error fault => pure (if fault.kind.isRequest then .ok false else .error fault) :
        StateM State (Except Http.Fault Bool)) (session.send Http.defaultContext request state).2 := by
    rw [← outcome]
    rfl
  rw [same]
  unfold Trial.reach Trial.fatal Trial.answered
  cases trial.exchange.outcome with
  | ok response => exact ⟨rfl, sent⟩
  | error fault =>
    dsimp only
    split <;> exact ⟨rfl, sent⟩

/-- A trial is answered, or it fails, or its fault ends the probing. -/
theorem Trial.cases (trial : Trial) :
    (trial.answered = true ∧ trial.failed = false ∧ trial.fatal = none ∧ trial.reach = .ok true) ∨
      (trial.answered = false ∧ trial.failed = true ∧ trial.fatal = none ∧ trial.reach = .ok false) ∨
      ∃ fault, trial.answered = false ∧ trial.failed = false ∧ trial.fatal = some fault ∧
        trial.reach = .error fault := by
  unfold reach answered failed fatal
  cases trial.exchange.outcome with
  | ok response => exact .inl ⟨rfl, rfl, rfl, rfl⟩
  | error fault =>
    dsimp only
    cases fault.kind.isRequest with
    | true => exact .inr (.inl ⟨rfl, rfl, rfl, rfl⟩)
    | false => exact .inr (.inr ⟨fault, rfl, rfl, rfl, rfl⟩)

section

variable {earlier : List Http.Request}

/-- There is no second trial unless the first one failed, and was of another URL. -/
theorem trials_alone
    (alone : (session.headTrial repository (Repository.secureUri repository.uri) earlier).failed = false ∨
      Repository.secureUri repository.uri = repository.uri) :
    session.trials repository earlier =
      [session.headTrial repository (Repository.secureUri repository.uri) earlier] := by
  unfold trials
  rcases alone with unfailed | same
  · simp only [unfailed, Bool.false_and, Bool.false_eq_true, if_false]
  · simp [same]

theorem trials_both
    (failed : (session.headTrial repository (Repository.secureUri repository.uri) earlier).failed = true)
    (differs : Repository.secureUri repository.uri ≠ repository.uri) :
    session.trials repository earlier =
      let first := session.headTrial repository (Repository.secureUri repository.uri) earlier
      [first, session.headTrial repository repository.uri (earlier ++ first.exchange.requests)] := by
  simp only [trials, failed, bne_iff_ne.mpr differs, Bool.and_self, if_true]

end

section

variable {trial : Trial} {rest : List Trial}

theorem verdict_nil (repository : Repository) : verdict repository [] = .ok none := rfl

theorem verdict_answered (fatal : trial.fatal = none) (answered : trial.answered = true) :
    verdict repository [trial] = .ok (some (repository.withUri trial.uri)) := by
  simp [verdict, fatal, answered]

theorem verdict_fatal {fault : Http.Fault} (fatal : trial.fatal = some fault) :
    verdict repository (trial :: rest) = .error fault := by
  simp [verdict, fatal]

theorem verdict_failed (fatal : trial.fatal = none) (answered : trial.answered = false) :
    verdict repository (trial :: rest) = verdict repository rest := by
  simp [verdict, fatal, answered]

end

/-- All that a probe asks for, and what it finds. -/
theorem answeringForm_tries (session : Session) (repository : Repository) (state : State) :
    let trials := session.trials repository state.requests
    let run := (session.answeringForm repository).run state
    run.1 = verdict repository trials ∧ session.Tries trials state run.2 := by
  let first := session.headTrial repository (Repository.secureUri repository.uri) state.requests
  obtain ⟨gives, tried⟩ :=
    session.isReachable_tries repository (Repository.secureUri repository.uri) state
  have mk (uri : String) (state : State) : (ExceptT.mk (session.isReachable repository uri)).run state =
      session.isReachable repository uri state := rfl
  unfold answeringForm
  dsimp only
  rw [run_bind_apply, mk]
  cases asked : session.isReachable repository (Repository.secureUri repository.uri) state with
  | mk result after =>
    rw [asked] at gives tried
    change result = first.reach at gives
    rcases first.cases with ⟨answered, failed, fatal, reach⟩ | ⟨answered, failed, fatal, reach⟩ |
      ⟨fault, answered, failed, fatal, reach⟩
    · rw [trials_alone (.inl failed), gives, reach]
      exact ⟨(verdict_answered fatal answered).symm, tried⟩
    · rw [gives, reach]
      dsimp only
      rw [if_neg Bool.false_ne_true]
      by_cases same : Repository.secureUri repository.uri = repository.uri
      · rw [trials_alone (.inr same), if_pos same]
        exact ⟨((verdict_failed fatal answered).trans (verdict_nil _)).symm, tried⟩
      · rw [trials_both failed same, if_neg same, run_bind_apply, mk]
        let second := session.headTrial repository repository.uri
          (state.requests ++ first.exchange.requests)
        have sent : after.requests = state.requests ++ first.exchange.requests := by
          rw [tried.requests, List.flatMap_singleton]
        obtain ⟨givesPlain, triedPlain⟩ := session.isReachable_tries repository repository.uri after
        rw [sent] at givesPlain triedPlain
        have both := tried.append triedPlain
        cases askedPlain : session.isReachable repository repository.uri after with
        | mk resultPlain last =>
          rw [askedPlain] at givesPlain both
          change resultPlain = second.reach at givesPlain
          rcases second.cases with ⟨answered', -, fatal', reach'⟩ | ⟨answered', -, fatal', reach'⟩ |
            ⟨fault, answered', -, fatal', reach'⟩
          · rw [givesPlain, reach']
            exact ⟨((verdict_failed fatal answered).trans (verdict_answered fatal' answered')).symm, both⟩
          · rw [givesPlain, reach']
            exact ⟨((verdict_failed fatal answered).trans
              ((verdict_failed fatal' answered').trans (verdict_nil _))).symm, both⟩
          · rw [givesPlain, reach']
            exact ⟨((verdict_failed fatal answered).trans (verdict_fatal fatal')).symm, both⟩
    · rw [trials_alone (.inl failed), gives, reach]
      exact ⟨(verdict_fatal fatal).symm, tried⟩

/-! What is logged of a probe. -/

/-- The faults that ended some trials, as they are reported. -/
def probeReports (repository : Repository) (trials : List Trial) : List Failure :=
  (trials.findSome? Trial.fatal).toList.map fun fault => .notNormalized repository fault.message

/-- Only a request that failed is followed by another one. -/
theorem trials_cases (session : Session) (repository : Repository) (earlier : List Http.Request) :
    let trials := session.trials repository earlier
    let first := session.headTrial repository (Repository.secureUri repository.uri) earlier
    trials = [first] ∨ first.failed = true ∧ ∃ earlier,
      trials = [first, session.headTrial repository repository.uri earlier] := by
  intro trials first
  cases failed : first.failed with
  | false => exact .inl (trials_alone (.inl failed))
  | true =>
    by_cases same : Repository.secureUri repository.uri = repository.uri
    · exact .inl (trials_alone (.inr same))
    · exact .inr ⟨rfl, _, trials_both failed same⟩

/-- Nothing answers where a fault ends the probing. -/
theorem find?_answered_of_fatal {earlier : List Http.Request} {fault : Http.Fault}
    (ended : (session.trials repository earlier).findSome? Trial.fatal = some fault) :
    (session.trials repository earlier).find? Trial.answered = none := by
  rcases session.trials_cases repository earlier with alone | ⟨failed, before, both⟩
  · rw [alone] at ended ⊢
    rcases Trial.cases (session.headTrial repository (Repository.secureUri repository.uri) earlier)
      with ⟨-, -, fatal, -⟩ | ⟨answered, -, -, -⟩ | ⟨-, answered, -, -, -⟩
    · simp [fatal] at ended
    · simp [answered]
    · simp [answered]
  · rw [both] at ended ⊢
    rcases Trial.cases (session.headTrial repository (Repository.secureUri repository.uri) earlier)
      with ⟨-, unfailed, -, -⟩ | ⟨answered, -, fatal, -⟩ | ⟨-, -, unfailed, -, -⟩
    · cases failed.symm.trans unfailed
    · rcases Trial.cases (session.headTrial repository repository.uri before)
        with ⟨-, -, fatal', -⟩ | ⟨answered', -, -, -⟩ | ⟨-, answered', -, -, -⟩
      · simp [fatal, fatal'] at ended
      · simp [answered, answered']
      · simp [answered, answered']
    · cases failed.symm.trans unfailed

theorem probe_tries (session : Session) (repository : Repository) (state : State) :
    let trials := session.trials repository state.requests
    let run := (session.probe repository).run state
    run.1 = verdict repository trials ∧ session.Tries trials state run.2 := by
  obtain ⟨gives, tried⟩ := session.answeringForm_tries repository state
  have noted (entry : Log.Entry) (other : entry.source ≠ .session) (state : State) :
      session.Tries [] state (note entry state).2 :=
    .of_silent ((frame_silent session).noted entry other state) rfl
  unfold probe
  dsimp only
  rw [run_bind_apply]
  cases answers : (session.answeringForm repository).run state with
  | mk result after =>
    rw [answers] at gives tried
    dsimp only at gives tried ⊢
    cases result with
    | error fault => exact ⟨gives, tried⟩
    | ok found =>
      rw [← List.append_nil (session.trials repository state.requests)]
      cases found with
      | none =>
        refine ⟨?_, tried.append (noted _ ?_ after)⟩
        · rw [List.append_nil]
          exact gives
        · exact nofun
      | some found =>
        refine ⟨?_, tried.append (noted _ ?_ after)⟩
        · rw [List.append_nil]
          exact gives
        · exact nofun

/-- A probe finds the URL that answered first. A fault that ended it is reported, once, and nothing else
is. -/
theorem probeOrReport_tries (session : Session) (repository : Repository) (state : State) :
    let trials := session.trials repository state.requests
    let run := session.probeOrReport repository state
    run.1 = .ok ((trials.find? Trial.answered).map fun trial => repository.withUri trial.uri) ∧
      run.2.requests = state.requests ++ trials.flatMap (·.exchange.requests) ∧
      ∀ failures, session.Tells state failures →
        session.Tells run.2 (failures ++ probeReports repository trials) := by
  obtain ⟨gives, tried⟩ := session.probe_tries repository state
  unfold probeOrReport
  dsimp only
  rw [bind_apply]
  cases probes : (session.probe repository).run state with
  | mk result after =>
    rw [probes] at gives tried
    change result = verdict repository (session.trials repository state.requests) at gives
    unfold verdict at gives
    cases ended : (session.trials repository state.requests).findSome? Trial.fatal with
    | none =>
      rw [ended] at gives
      rw [probeReports, ended, gives]
      refine ⟨rfl, tried.requests, fun failures told => ?_⟩
      rw [Option.toList_none, List.map_nil, List.append_nil]
      exact tried.tells failures told
    | some fault =>
      rw [ended] at gives
      rw [probeReports, ended, gives, find?_answered_of_fatal ended]
      exact ⟨rfl, (report_requests session _ after).trans tried.requests,
        fun failures told => (tried.tells failures told).report _⟩

/-! Single calls. -/

section

variable {containing : Option Pom}
  (unknown : (session.declared repository containing).knownToExist = false)

include unknown

/-- A repository for which something is recorded gets that, and nothing but a count changes. -/
theorem normalize_of_recorded {found : Option Repository}
    (recorded : state.normalized.known (session.declared repository containing).identity =
      some (.done found)) :
    ∃ cache, session.normalize repository containing state =
      (found.map session.applyCredentials, { state with normalized := cache }) := by
  rw [normalize_apply unknown]
  dsimp only
  have done : (normalizedRegion.cache state).known (session.declared repository containing).identity =
      some (.done found) := recorded
  rw [Region.compute_done id (session.probeOrReport (session.declared repository containing)) 0 done]
  exact ⟨_, rfl⟩

/-- A repository for which nothing is recorded is probed. -/
theorem normalize_of_unrecorded
    (unrecorded : state.normalized.known (session.declared repository containing).identity = none) :
    let declared := session.declared repository containing
    let trials := session.trials declared state.requests
    let run := session.normalize repository containing state
    run.1 = (trials.find? Trial.answered).map
        (fun trial => session.applyCredentials (declared.withUri trial.uri)) ∧
      run.2.requests = state.requests ++ trials.flatMap (·.exchange.requests) ∧
      ∀ failures, session.Tells state failures →
        session.Tells run.2 (failures ++ probeReports declared trials) := by
  intro declared trials run
  have missing : (normalizedRegion.cache state).known declared.identity = none := unrecorded
  let asked := normalizedRegion.asked 0 declared.identity state
  have tellsAsked : ∀ failures, session.Tells state failures → session.Tells asked failures :=
    fun failures told => told.logged [normalizedRegion.miss] (by simp [Region.miss, Log.debug]) rfl rfl
  obtain ⟨answers, sent, told⟩ := session.probeOrReport_tries declared asked
  change (session.probeOrReport declared asked).1 = .ok ((trials.find? Trial.answered).map _) at answers
  have same : run = _ := normalize_apply unknown
  rw [same]
  dsimp only
  rw [Region.compute_asked missing]
  cases probes : session.probeOrReport declared asked with
  | mk result after =>
    rw [probes] at answers sent told
    dsimp only at answers
    subst answers
    refine ⟨?_, sent, fun failures before => told failures (tellsAsked failures before)⟩
    exact Option.map_map _ _ _

end

/-! Sequences of calls. -/

section

variable {own : List (Path × Pom)} {earlier : List (Repository × Option Pom)}

/-- Whatever is normalized, what is recorded stays. -/
theorem extends_normalizing (session : Session) (calls : List (Repository × Option Pom))
    (idle : state.normalized.Idle) :
    let after := calls.foldl (fun state call => (session.normalize call.1 call.2 state).2) state
    after.normalized.Idle ∧ state.normalized.Extends after.normalized := by
  induction calls generalizing state with
  | nil => exact ⟨idle, .refl _⟩
  | cons call rest ih =>
    obtain ⟨-, idleNow, extendsNow⟩ := normalize_remembers session call.1 call.2 idle
    obtain ⟨idleThen, extendsThen⟩ := ih idleNow
    exact ⟨idleThen, extendsNow.trans extendsThen⟩

theorem tells_normalize (session : Session) (repository : Repository) (containing : Option Pom)
    (idle : state.normalized.Idle) (told : ∃ failures, session.Tells state failures) :
    ∃ failures, session.Tells (session.normalize repository containing state).2 failures := by
  obtain ⟨failures, tells⟩ := told
  cases known : (session.declared repository containing).knownToExist with
  | true =>
    rw [normalize_of_known known]
    exact ⟨failures, tells⟩
  | false =>
    cases recorded : state.normalized.known (session.declared repository containing).identity with
    | some flight =>
      obtain ⟨found, rfl⟩ := idle _ flight recorded
      obtain ⟨cache, same⟩ := normalize_of_recorded known recorded
      rw [same]
      exact ⟨failures, tells⟩
    | none =>
      obtain ⟨-, -, later⟩ := normalize_of_unrecorded known recorded
      exact ⟨_, later failures tells⟩

/-- In every session there is something that has been told. -/
theorem exists_tells (session : Session) (own : List (Path × Pom))
    (earlier : List (Repository × Option Pom)) :
    ∃ failures, session.Tells (session.afterNormalizing own earlier) failures := by
  induction earlier using List.reverseRecOn with
  | nil =>
    refine ⟨[], ?_⟩
    unfold Tells
    cases session.reporting <;> rfl
  | append_singleton earlier call ih =>
    have idle := (recalls_afterNormalizing session own earlier).idle
    have next : session.afterNormalizing own (earlier ++ [call]) =
        (session.normalize call.1 call.2 (session.afterNormalizing own earlier)).2 := by
      simp only [afterNormalizing, List.foldl_append, List.foldl_cons, List.foldl_nil]
    rw [next]
    exact session.tells_normalize call.1 call.2 idle ih

/-- Probing leaves the URL as it is, or puts https in place of http. -/
theorem ProbedAs.uri_cases {form : Repository} (probedAs : ProbedAs repository form) :
    form.uri = repository.uri ∨ ∃ rest, Repository.IsPlain repository.uri rest ∧
      form.uri = String.ofList ("https://".toList ++ rest) := by
  rcases probedAs with rfl | rfl
  · exact .inl rfl
  · exact Repository.secureUri_cases repository.uri

/-- Whoever is probed on behalf of a repository has its URL. -/
theorem uri_probedAmong (session : Session) (earlier : List (Repository × Option Pom))
    (declared : Repository) :
    ((session.probedAmong earlier declared.identity).getD declared).uri = declared.uri := by
  cases probed : session.probedAmong earlier declared.identity with
  | none => rfl
  | some first =>
    have matching := List.find?_some probed
    rw [Bool.and_eq_true, beq_iff_eq] at matching
    exact congrArg Repository.Identity.uri matching.2.symm

/-- What becomes of the first repository of its identity: all trials that there are, and their answer. What is
reported is the fault that ended them, if one did, and then nothing answers. -/
structure Probes (session : Session) (declared : Repository) (state : State)
    (run : Option Repository × State) : Prop where
  answer : run.1 = ((session.trials declared state.requests).find? Trial.answered).map
    fun trial => session.applyCredentials (declared.withUri trial.uri)
  requests : run.2.requests = state.requests ++
    (session.trials declared state.requests).flatMap (·.exchange.requests)
  tells : ∀ failures, session.Tells state failures →
    session.Tells run.2 (failures ++ probeReports declared (session.trials declared state.requests))
  ended : ((session.trials declared state.requests).findSome? Trial.fatal).isSome → run.1 = none

theorem normalize_probes {repository : Repository} {containing : Option Pom}
    (unknown : (session.declared repository containing).knownToExist = false)
    (unrecorded : state.normalized.known (session.declared repository containing).identity = none) :
    session.Probes (session.declared repository containing) state
      (session.normalize repository containing state) := by
  obtain ⟨answer, requests, tells⟩ := normalize_of_unrecorded unknown unrecorded
  refine ⟨answer, requests, tells, fun ended => ?_⟩
  obtain ⟨fault, same⟩ := Option.isSome_iff_exists.mp ended
  rw [answer, find?_answered_of_fatal same]
  rfl

/-- The request of a repository that is declared again is answered by what was found before. -/
theorem normalize_again {repository other : Repository} {containing within : Option Pom}
    {front back : List (Repository × Option Pom)} (split : earlier = front ++ (other, within) :: back)
    (unknown : (session.declared repository containing).knownToExist = false)
    (unknownBefore : (session.declared other within).knownToExist = false)
    (same : (session.declared other within).identity =
      (session.declared repository containing).identity) :
    ∃ cache, session.normalize repository containing (session.afterNormalizing own earlier) =
      ((session.normalize other within (session.afterNormalizing own front)).1,
        { session.afterNormalizing own earlier with normalized := cache }) := by
  have idle := (recalls_afterNormalizing session own front).idle
  obtain ⟨remembers, idleThen, -⟩ := normalize_remembers session other within idle
  obtain ⟨-, extended⟩ := session.extends_normalizing back idleThen
  have later : session.afterNormalizing own earlier =
      back.foldl (fun state call => (session.normalize call.1 call.2 state).2)
        (session.normalize other within (session.afterNormalizing own front)).2 := by
    rw [split, afterNormalizing, List.foldl_append, List.foldl_cons]
    rfl
  rw [← later] at extended
  unfold Remembers at remembers
  dsimp only at remembers
  rw [if_neg (by simp [unknownBefore])] at remembers
  obtain ⟨found, recorded, gave⟩ := remembers
  rw [same] at recorded
  rw [gave]
  exact normalize_of_recorded unknown (extended _ _ recorded)

/-- There are two trials at most, all of them HEAD requests, and the first one is of the https URL. -/
theorem trials_shape (session : Session) (repository : Repository) (before : List Http.Request) :
    let trials := session.trials repository before
    trials.length ≤ 2 ∧ trials.head?.map (·.uri) = some (Repository.secureUri repository.uri) ∧
      ∀ trial ∈ trials,
        (trial.uri = Repository.secureUri repository.uri ∨ trial.uri = repository.uri) ∧
          ∀ request ∈ trial.exchange.requests, request.method = .head ∧ request.url = trial.uri := by
  have heads (uri : String) (before : List Http.Request) :
      ∀ request ∈ (session.headTrial repository uri before).exchange.requests,
        request.method = .head ∧ request.url = uri := by
    intro request sent
    rw [Http.Transport.send_requests session.server _ _ session.transport before request sent]
    exact ⟨rfl, rfl⟩
  rcases session.trials_cases repository before with alone | ⟨-, next, both⟩
  · rw [alone]
    refine ⟨Nat.le_succ 1, rfl, ?_⟩
    rw [List.forall_mem_singleton]
    exact ⟨.inl rfl, heads _ _⟩
  · rw [both]
    refine ⟨Nat.le_refl 2, rfl, ?_⟩
    rw [List.forall_mem_cons, List.forall_mem_singleton]
    exact ⟨⟨.inl rfl, heads _ _⟩, .inr rfl, heads _ _⟩

/-- A repository that is known to exist is normalized without a probe. Any other one is probed when the first of its
identity is normalized, by two HEAD requests at most, the https URL first; later ones get what that one got, and
nothing is sent or logged for them. The normalized URL is the declared one, or its https URL. -/
theorem normalize_probes_once (session : Session) (own : List (Path × Pom))
    (earlier : List (Repository × Option Pom)) (repository : Repository) (containing : Option Pom) :
    let state := session.afterNormalizing own earlier
    let declared := session.declared repository containing
    let run := session.normalize repository containing state
    let trials := session.trials declared state.requests
    (∃ failures, session.Tells state failures) ∧
      (declared.knownToExist = true → run = (some declared, state)) ∧
      (declared.knownToExist = false → (∀ call ∈ earlier,
        (session.declared call.1 call.2).knownToExist = false →
          (session.declared call.1 call.2).identity ≠ declared.identity) →
        session.Probes declared state run) ∧
      (declared.knownToExist = false → ∀ front other within back,
        earlier = front ++ (other, within) :: back →
        (session.declared other within).knownToExist = false →
        (session.declared other within).identity = declared.identity →
        ∃ cache, run = ((session.normalize other within (session.afterNormalizing own front)).1,
          { state with normalized := cache })) ∧
      (trials.length ≤ 2 ∧ trials.head?.map (·.uri) = some (Repository.secureUri declared.uri) ∧
        ∀ trial ∈ trials,
          (trial.uri = Repository.secureUri declared.uri ∨ trial.uri = declared.uri) ∧
            ∀ request ∈ trial.exchange.requests, request.method = .head ∧ request.url = trial.uri) ∧
      ∀ found ∈ run.1, found.uri = declared.uri ∨ ∃ rest, Repository.IsPlain declared.uri rest ∧
        found.uri = String.ofList ("https://".toList ++ rest) := by
  intro state declared run trials
  refine ⟨session.exists_tells own earlier, fun known => normalize_of_known known,
    fun unknown first => ?_, fun unknown front other within back split unknownBefore same =>
      normalize_again split unknown unknownBefore same, session.trials_shape declared state.requests, ?_⟩
  · have unprobed : session.probedAmong earlier declared.identity = none := by
      rw [probedAmong, List.find?_eq_none, List.forall_mem_map]
      intro call member
      cases known : (session.declared call.1 call.2).knownToExist with
      | true => simp
      | false => simpa [known] using (first call member known).symm
    exact normalize_probes unknown ((recalls_afterNormalizing session own earlier).unprobed _ unprobed)
  · intro found answers
    cases known : declared.knownToExist with
    | true =>
      rw [show run = _ from normalize_of_known known] at answers
      cases answers
      exact .inl rfl
    | false =>
      obtain ⟨form, rfl, probedAs⟩ := normalize_afterNormalizing known answers
      have sameUri : (session.applyCredentials form).uri = form.uri :=
        congrArg Repository.Identity.uri (Repository.identity_apply _ form)
      rw [sameUri, ← session.uri_probedAmong earlier declared]
      exact probedAs.uri_cases

/-- A server that answers at http URLs only: they are found on the second trial, and not probed again. -/
example :
    let session : Session :=
      { transport := Http.Transport.ofConfiguration {}
        server := fun _ request =>
          if request.url = "http://corp.example/m2" then .ok { status := 404 }
          else .error ⟨.connection, "refused"⟩ }
    let plain : Repository := { id := some "corp", uri := "http://corp.example/m2" }
    let once := session.normalize plain none {}
    let again := session.normalize plain none once.2
    once.1 = some plain ∧ again.1 = some plain ∧
      again.2.requests.map (·.url) = ["https://corp.example/m2", "http://corp.example/m2"] := by
  decide

end

end Session
end MavenResolution
