import MavenResolution.Proofs.Http.Exchange
import MavenResolution.Proofs.Metadata.Merge
import MavenResolution.Proofs.Session.Independence
import MavenResolution.Proofs.Session.Remembered

/-! What becomes of the replies of all repositories about a module, whatever the server answers and
whatever it answered before. A reply that is of no use is complained about and passed over, unless its
document declares an encoding that is not known. -/
namespace MavenResolution.Session

variable {session : Session} {state after last : State} {coordinate : Coordinate}
  {repository : Repository} {outcome : Http.Outcome} {failures : List Failure}

/-- All that fails is requests, and no wait between their attempts is refused. -/
structure FailsByRequest (session : Session) : Prop where
  server : session.server.FailsByRequest
  waits : session.transport.Waits

theorem FailsByRequest.isRequest (failsByRequest : session.FailsByRequest)
    (earlier : List Http.Request) (context : Option String) (request : Http.Request)
    {fault : Http.Fault} (failed :
      (session.transport.send session.server earlier context request).outcome = .error fault) :
    fault.kind.isRequest = true :=
  Http.Transport.isRequest_of_send _ _ failsByRequest.waits failsByRequest.server _ failed

/-! Single replies. -/

/-- The metadata in a reply, if there are any. -/
def documentOf (session : Session) : Http.Outcome → Option Metadata
  | .error _ => none
  | .ok response =>
    if response.status = 200 then
      (Metadata.read (.octets response.content) session.xml).toOption
    else none

/-- What there is to report about a reply. That a repository knows nothing is no reason to. -/
def complaint (session : Session) (coordinate : Coordinate) (repository : Repository) :
    Http.Outcome → Option Failure
  | .error fault => some (.metadataUnavailable coordinate repository fault.message)
  | .ok response =>
    if response.status ≠ 200 then none
    else match Metadata.read (.octets response.content) session.xml with
      | .ok _ => none
      | .error fault => some
        (.metadataUnavailable coordinate repository ("unparseable metadata: " ++ fault.message))

/-- Where the reply is read, its document is read or is no XML: a `ParseError` is all that is caught
there. -/
def Legible (session : Session) (outcome : Http.Outcome) : Prop :=
  ∀ response fault, outcome = .ok response → response.status = 200 →
    session.xml (.octets response.content) = .error fault → fault = .malformed

/-- What reading raises is raised for metadata. -/
theorem read_metadata_eq_error_iff {content : List UInt8} {reader : Xml.Reader} {fault : Xml.Fault} :
    Metadata.read (.octets content) reader = .error fault ↔
      reader (.octets content) = .error fault := by
  unfold Metadata.read
  cases reader (.octets content) with
  | ok root => exact ⟨nofun, nofun⟩
  | error raised => exact ⟨fun same => Except.error.inj same ▸ rfl, fun same => same ▸ rfl⟩

/-- An exception about a document that nothing catches. -/
def Escapes (result : Except Failure α) : Prop :=
  ∃ fault, fault ≠ .malformed ∧ result = .error (.document fault)

theorem Escapes.map {result : Except Failure α} (escapes : Escapes result) (f : α → β) :
    Escapes (result.map f) := by
  obtain ⟨fault, uncaught, rfl⟩ := escapes
  exact ⟨fault, uncaught, rfl⟩

/-- The request for metadata, with the credentials of the repository that is asked. -/
def metadataRequest (coordinate : Coordinate) (repository : Repository) : Http.Request :=
  { method := .get, url := Layout.metadata repository coordinate, auth := repository.auth }

/-! Replies that come one after another. -/

/-- What sending the request for metadata gives. -/
def metadataExchange (session : Session) (coordinate : Coordinate) (repository : Repository)
    (earlier : List Http.Request) : Http.Transport.Exchange :=
  session.transport.send session.server earlier (some Http.defaultContext)
    (metadataRequest coordinate repository)

/-- The first repository at every URL, but for those that have been asked. -/
def unasked (asked : List String) : List Repository → List Repository
  | [] => []
  | repository :: rest =>
    if repository.uri ∈ asked then unasked asked rest
    else repository :: unasked (asked ++ [repository.uri]) rest

/-- The replies of repositories that are asked in turn, after other requests. -/
def replies (session : Session) (coordinate : Coordinate) (earlier : List Http.Request) :
    List Repository → List (Repository × Http.Outcome)
  | [] => []
  | repository :: rest =>
    let exchange := session.metadataExchange coordinate repository earlier
    (repository, exchange.outcome) ::
      session.replies coordinate (earlier ++ exchange.requests) rest

/-- The reply that came from a URL. -/
def replyAt (replies : List (Repository × Http.Outcome)) (uri : String) : Option Http.Outcome :=
  (replies.find? (·.1.uri == uri)).map (·.2)

variable {before later : List (Repository × Http.Outcome)} {uri : String}

theorem replyAt_append (before later : List (Repository × Http.Outcome)) (uri : String) :
    replyAt (before ++ later) uri = (replyAt before uri).or (replyAt later uri) := by
  unfold replyAt
  rw [List.find?_append]
  cases before.find? (·.1.uri == uri) <;> rfl

theorem replyAt_singleton (repository : Repository) (outcome : Http.Outcome) (uri : String) :
    replyAt [(repository, outcome)] uri =
      if uri == repository.uri then some outcome else none := by
  unfold replyAt
  rw [List.find?_singleton, BEq.comm]
  split <;> rfl

theorem isSome_replyAt : (replyAt before uri).isSome ↔ uri ∈ before.map (·.1.uri) := by
  unfold replyAt
  rw [Option.isSome_map, List.find?_isSome, List.mem_map]
  simp

/-! What is told. -/

/-- All that whoever runs a session has been told of. -/
def Tells (session : Session) (state : State) (failures : List Failure) : Prop :=
  match session.reporting with
  | .collected => state.reports = failures
  | .toLog => state.log.filter (·.source = .session) =
      failures.map fun failure => Log.warning .session failure.message

/-- All that whoever runs a session is told of between two states. -/
def TellsMeanwhile (session : Session) (state after : State) (failures : List Failure) : Prop :=
  match session.reporting with
  | .collected => after.reports = state.reports ++ failures
  | .toLog => after.log.filter (·.source = .session) =
      state.log.filter (·.source = .session) ++ failures.map fun failure => Log.warning .session failure.message

theorem TellsMeanwhile.refl (session : Session) (state : State) : session.TellsMeanwhile state state [] := by
  unfold TellsMeanwhile
  split <;> exact (List.append_nil _).symm

theorem TellsMeanwhile.logged (tells : session.TellsMeanwhile state after failures) (entries : List Log.Entry)
    (others : ∀ entry ∈ entries, entry.source ≠ .session) (reports : last.reports = after.reports)
    (log : last.log = after.log ++ entries) : session.TellsMeanwhile state last failures := by
  unfold TellsMeanwhile at *
  split at tells
  · exact reports.trans tells
  · have silent : entries.filter (·.source = .session) = [] := by
      simpa [List.filter_eq_nil_iff] using others
    rw [log, List.filter_append, silent, List.append_nil]
    exact tells

theorem TellsMeanwhile.report (tells : session.TellsMeanwhile state after failures) (failure : Failure) :
    session.TellsMeanwhile state (session.report failure after).2 (failures ++ [failure]) := by
  unfold TellsMeanwhile Session.report at *
  cases reporting : session.reporting with
  | collected =>
    rw [reporting] at tells
    change after.reports ++ [failure] = _
    rw [tells, List.append_assoc]
  | toLog =>
    rw [reporting] at tells
    change (after.log ++ [_]).filter _ = _
    rw [List.filter_append, tells, List.map_append, List.append_assoc]
    rfl

/-- What has been told is what is told from the start on. -/
theorem tells_iff : session.Tells state failures ↔ session.TellsMeanwhile {} state failures := by
  unfold Tells TellsMeanwhile
  cases session.reporting <;> exact .rfl

theorem Tells.logged (tells : session.Tells state failures) (entries : List Log.Entry)
    (others : ∀ entry ∈ entries, entry.source ≠ .session) (reports : after.reports = state.reports)
    (log : after.log = state.log ++ entries) : session.Tells after failures :=
  tells_iff.mpr ((tells_iff.mp tells).logged entries others reports log)

theorem Tells.report (tells : session.Tells state failures) (failure : Failure) :
    session.Tells (session.report failure state).2 (failures ++ [failure]) :=
  tells_iff.mpr ((tells_iff.mp tells).report failure)

theorem report_requests (session : Session) (failure : Failure) (state : State) :
    (session.report failure state).2.requests = state.requests := by
  unfold Session.report
  cases session.reporting <;> rfl

/-- Nothing is told, and nothing is found out about any module. -/
structure Silent (session : Session) (state after : State) : Prop where
  metadata : after.metadata = state.metadata
  tells : ∀ failures, session.Tells state failures → session.Tells after failures

theorem frame_silent (session : Session) : session.Frame session.Silent where
  refl _ := ⟨rfl, fun _ tells => tells⟩
  trans first second := ⟨second.metadata.trans first.metadata,
    fun failures tells => second.tells failures (first.tells failures tells)⟩
  noted entry other state := by
    refine ⟨rfl, fun failures tells => tells.logged [entry] ?_ rfl rfl⟩
    exact List.forall_mem_singleton.mpr other
  sent context request state := by
    refine ⟨rfl, fun failures tells => tells.logged _ ?_ rfl rfl⟩
    intro entry member
    rw [Http.Transport.send_log session.server (some context) request session.transport
      state.requests entry member]
    exact nofun

/-! Computations that give something in every state. -/

def Succeeds (m : ExceptT ε (StateM State) α) : Prop := ∀ state, ∃ a, (m.run state).1 = .ok a

theorem succeeds_pure (a : α) : Succeeds (pure a : ExceptT ε (StateM State) α) :=
  fun _ => ⟨a, rfl⟩

theorem Succeeds.bind {m : ExceptT ε (StateM State) α} {f : α → ExceptT ε (StateM State) β}
    (first : Succeeds m) (next : ∀ a, Succeeds (f a)) : Succeeds (m >>= f) := by
  intro state
  obtain ⟨a, gives⟩ := first state
  rw [run_bind_apply]
  cases run : m.run state with
  | mk result after =>
    obtain rfl : result = .ok a := by rw [← gives, run]
    exact next a after

theorem succeeds_lift (m : StateM State α) : Succeeds (liftM m : ExceptT ε (StateM State) α) :=
  fun state => ⟨(m state).1, rfl⟩

section

variable (failsByRequest : session.FailsByRequest)

include failsByRequest

/-! A search tells nothing if all that fails is requests. -/

theorem succeeds_isReachable (repository : Repository) (uri : String) :
    Succeeds (ExceptT.mk (session.isReachable repository uri)) := by
  intro state
  cases replied : (session.send Http.defaultContext
      { method := .head, url := uri, auth := repository.auth } state).1 with
  | ok response =>
    refine ⟨true, ?_⟩
    change (session.isReachable repository uri state).1 = _
    rw [isReachable, bind_apply, replied]
    rfl
  | error fault =>
    have request := failsByRequest.isRequest _ _ _ replied
    refine ⟨false, ?_⟩
    change (session.isReachable repository uri state).1 = _
    rw [isReachable, bind_apply, replied]
    dsimp only
    rw [if_pos request]
    rfl

theorem succeeds_probe (repository : Repository) : Succeeds (session.probe repository) := by
  have answeringForm : Succeeds (session.answeringForm repository) := by
    refine (succeeds_isReachable failsByRequest repository _).bind fun secured => ?_
    split
    · exact succeeds_pure _
    · split
      · exact succeeds_pure _
      · refine (succeeds_isReachable failsByRequest repository _).bind fun plain => ?_
        split <;> exact succeeds_pure _
  refine answeringForm.bind fun found => ?_
  cases found <;> exact (succeeds_lift _).bind fun _ => succeeds_pure _

theorem probeOrReport_silent (repository : Repository) :
    Keeps session.Silent (session.probeOrReport repository) := by
  intro state
  obtain ⟨found, probed⟩ := succeeds_probe failsByRequest repository state
  have silent := session.frame_silent.probe repository state
  unfold probeOrReport
  rw [bind_apply, probed]
  exact silent

theorem searched_silent (repositories : List Repository) (containing : Option Pom)
    (version : Option String) :
    Keeps session.Silent (session.searched repositories containing version) :=
  session.frame_silent.searched (fun _ _ => ⟨rfl, fun _ tells => tells⟩)
    (probeOrReport_silent failsByRequest) repositories containing version

/-! One repository. -/

/-- What a session does with the reply of a repository. -/
structure Takes (session : Session) (coordinate : Coordinate) (repository : Repository)
    (exchange : Http.Transport.Exchange) (state : State)
    (run : Except Failure (Option Metadata) × State) : Prop where
  requests : run.2.requests = state.requests ++ exchange.requests
  document : session.Legible exchange.outcome → run.1 = .ok (session.documentOf exchange.outcome)
  tells : ∀ failures, session.Legible exchange.outcome → session.Tells state failures →
    session.Tells run.2 (failures ++ (session.complaint coordinate repository exchange.outcome).toList)
  fails : ¬session.Legible exchange.outcome →
    Escapes run.1

omit failsByRequest in
theorem Takes.of_legible {exchange : Http.Transport.Exchange}
    {run : Except Failure (Option Metadata) × State} (legible : session.Legible exchange.outcome)
    (requests : run.2.requests = state.requests ++ exchange.requests)
    (document : run.1 = .ok (session.documentOf exchange.outcome))
    (tells : ∀ failures, session.Tells state failures →
      session.Tells run.2 (failures ++ (session.complaint coordinate repository exchange.outcome).toList)) :
    session.Takes coordinate repository exchange state run where
  requests := requests
  document _ := document
  tells failures _ := tells failures
  fails illegible := absurd legible illegible

theorem fetchMetadata_takes (coordinate : Coordinate) (repository : Repository) (state : State) :
    session.Takes coordinate repository
      (session.metadataExchange coordinate repository state.requests) state
      ((session.fetchMetadata coordinate repository).run state) := by
  let request := metadataRequest coordinate repository
  have same : (session.send Http.defaultContext request state).1 =
      (session.metadataExchange coordinate repository state.requests).outcome := rfl
  have requests : (session.send Http.defaultContext request state).2.requests = state.requests ++
      (session.metadataExchange coordinate repository state.requests).requests := rfl
  have failed : ∀ fault,
      (session.metadataExchange coordinate repository state.requests).outcome = .error fault →
        fault.kind.isRequest = true :=
    fun fault => failsByRequest.isRequest _ _ _
  have silent := (session.frame_silent.sent Http.defaultContext request state).tells
  have asked : { method := .get, url := Layout.metadata repository coordinate,
                 auth := repository.auth } = request := rfl
  unfold fetchMetadata
  dsimp only
  rw [run_bind_apply, run_lift_apply, asked]
  dsimp only
  generalize session.metadataExchange coordinate repository state.requests = exchange at *
  obtain ⟨outcome, sent, log⟩ := exchange
  generalize session.send Http.defaultContext request state = run at *
  obtain ⟨received, after⟩ := run
  dsimp only at same requests silent failed ⊢
  subst same
  cases received with
  | error fault =>
    dsimp only
    rw [if_pos (failed fault rfl)]
    refine .of_legible nofun ((report_requests session _ after).trans requests) rfl ?_
    exact fun failures tells => (silent failures tells).report _
  | ok response =>
    dsimp only
    split
    · rename_i other
      have legible : session.Legible (.ok response) := by
        rintro _ fault ⟨⟩ success
        exact absurd success other
      refine .of_legible legible requests ?_ fun failures tells => ?_
      · rw [documentOf, if_neg other]
        rfl
      · rw [complaint, if_pos other, Option.toList_none, List.append_nil]
        refine (silent failures tells).logged [_] ?_ rfl rfl
        exact List.forall_mem_singleton.mpr nofun
    · rename_i success
      rw [ne_eq, Decidable.not_not] at success
      cases read : session.xml (.octets response.content) with
      | ok root =>
        have metadata : Metadata.read (.octets response.content) session.xml =
            .ok (Metadata.ofElement root) := by rw [Metadata.read, read]; rfl
        have legible : session.Legible (.ok response) := by
          rintro _ fault ⟨⟩ - raised
          cases read.symm.trans raised
        rw [metadata]
        refine .of_legible legible requests ?_ fun failures tells => ?_
        · rw [documentOf, if_pos success, metadata]
          rfl
        · rw [complaint, if_neg (not_not_intro success), metadata, Option.toList_none,
            List.append_nil]
          exact silent failures tells
      | error fault =>
        have raised : Metadata.read (.octets response.content) session.xml = .error fault :=
          read_metadata_eq_error_iff.mpr read
        rw [raised]
        by_cases malformed : fault = .malformed
        · subst malformed
          have legible : session.Legible (.ok response) := by
            rintro _ fault ⟨⟩ - again
            exact (Except.error.inj (read.symm.trans again)).symm
          refine .of_legible legible ((report_requests session _ after).trans requests) ?_
            fun failures tells => ?_
          · rw [documentOf, if_pos success, raised]
            rfl
          · rw [complaint, if_neg (not_not_intro success), raised]
            exact (silent failures tells).report _
        · have illegible : ¬session.Legible (.ok response) :=
            fun legible => malformed (legible response fault rfl success read)
          cases fault with
          | malformed => exact absurd rfl malformed
          | unknownEncoding | unsupportedEncoding =>
            exact
              { requests := requests
                document := fun legible => absurd legible illegible
                tells := fun _ legible => absurd legible illegible
                fails := fun _ => ⟨_, malformed, rfl⟩ }

/-! All repositories in turn. -/

omit failsByRequest in
theorem ask_apply (session : Session) (coordinate : Coordinate) (repository : Repository)
    (state : State) : (session.ask coordinate repository).run state =
      let computed := metadataRegion.compute (repository.uri, coordinate) id
        (session.fetchMetadata coordinate repository).run 0 state
      (computed.1.outcome, computed.2) := rfl

/-- After some replies a session knows what their documents say, and it has told what there was to
complain about. -/
structure Heard (session : Session) (coordinate : Coordinate)
    (replies : List (Repository × Http.Outcome)) (state : State) : Prop where
  known : ∀ uri, state.metadata.known (uri, coordinate) =
    (replyAt replies uri).map fun outcome => .done (session.documentOf outcome)
  tells : session.Tells state
    (replies.filterMap fun reply => session.complaint coordinate reply.1 reply.2)

omit failsByRequest in
/-- A URL that has replied is not asked again. -/
theorem Heard.ask_again (heard : session.Heard coordinate before state)
    (replied : replyAt before repository.uri = some outcome) :
    let run := (session.ask coordinate repository).run state
    run.1 = .ok (session.documentOf outcome) ∧ session.Heard coordinate before run.2 ∧
      run.2.requests = state.requests := by
  have done : (metadataRegion.cache state).known (repository.uri, coordinate) =
      some (.done (session.documentOf outcome)) := by
    refine (heard.known repository.uri).trans ?_
    rw [replied]
    rfl
  rw [ask_apply, Region.compute_done id _ 0 done]
  exact ⟨rfl, ⟨heard.known, heard.tells⟩, rfl⟩

theorem Heard.ask_first (heard : session.Heard coordinate before state)
    (unreplied : replyAt before repository.uri = none) :
    let exchange := session.metadataExchange coordinate repository state.requests
    let run := (session.ask coordinate repository).run state
    (session.Legible exchange.outcome → run.1 = .ok (session.documentOf exchange.outcome) ∧
      session.Heard coordinate (before ++ [(repository, exchange.outcome)]) run.2 ∧
      run.2.requests = state.requests ++ exchange.requests) ∧
    (¬session.Legible exchange.outcome →
      Escapes run.1) := by
  intro exchange run
  let key := (repository.uri, coordinate)
  let asked := metadataRegion.asked 0 key state
  let fetch := (session.fetchMetadata coordinate repository).run
  have unknown : (metadataRegion.cache state).known key = none := by
    refine (heard.known repository.uri).trans ?_
    rw [unreplied]
    rfl
  have tells : session.Tells asked
      (before.filterMap fun reply => session.complaint coordinate reply.1 reply.2) :=
    heard.tells.logged [metadataRegion.miss] (List.forall_mem_singleton.mpr nofun) rfl rfl
  have kept : metadataRegion.cache (fetch asked).2 = metadataRegion.cache asked :=
    congrArg Memory.metadata
      ((session.frame_memory id).fetchMetadata (fun _ => report_memory session _) asked)
  have takes : session.Takes coordinate repository exchange asked (fetch asked) :=
    fetchMetadata_takes failsByRequest coordinate repository asked
  obtain ⟨-, learns, -⟩ := Region.compute_learns metadataRegion_beside id unknown kept
  have computed : metadataRegion.compute key id fetch 0 state = _ := Region.compute_asked unknown
  have same : run = _ := ask_apply session coordinate repository state
  cases fetched : fetch asked with
  | mk result after =>
    rw [fetched] at takes computed learns
    dsimp only at computed learns
    constructor
    · intro legible
      obtain rfl : result = .ok (session.documentOf exchange.outcome) := takes.document legible
      rw [same]
      dsimp only
      rw [computed] at learns ⊢
      refine ⟨rfl, ⟨fun uri => (learns (uri, coordinate)).trans ?_, ?_⟩, takes.requests⟩
      · have sameKey : ((uri, coordinate) == key) = (uri == repository.uri) := by
          rw [Bool.eq_iff_iff, beq_iff_eq, beq_iff_eq, Prod.mk.injEq, and_iff_left rfl]
        unfold Region.learned
        dsimp only
        rw [replyAt_append, replyAt_singleton, sameKey]
        cases here : uri == repository.uri with
        | true =>
          rw [eq_of_beq here, unreplied]
          rfl
        | false =>
          rw [if_neg Bool.false_ne_true, if_neg Bool.false_ne_true, Option.or_none]
          exact heard.known uri
      · have complains := takes.tells _ legible tells
        rw [List.filterMap_append, List.filterMap_cons]
        cases reason : session.complaint coordinate repository exchange.outcome with
        | none => rwa [reason] at complains
        | some failure => rwa [reason] at complains
    · intro illegible
      obtain ⟨fault, uncaught, failed⟩ := takes.fails illegible
      obtain rfl : result = _ := failed
      refine ⟨fault, uncaught, ?_⟩
      rw [same]
      dsimp only
      rw [computed]
      rfl

omit failsByRequest in
theorem replyAt_of_replied (before later : List (Repository × Http.Outcome))
    (replied : replyAt before uri = some outcome) :
    replyAt (before ++ later) uri = some outcome := by
  rw [replyAt_append, replied]
  rfl

/-- What comes of asking repositories in turn, of which some had replied before. -/
structure Hears (session : Session) (coordinate : Coordinate)
    (before replies : List (Repository × Http.Outcome)) (repositories : List Repository)
    (run : Except Failure (List (Option Metadata)) × State) : Prop where
  legible : (∀ reply ∈ replies, session.Legible reply.2) →
    run.1 = .ok (repositories.map fun repository =>
      (replyAt (before ++ replies) repository.uri).bind session.documentOf) ∧
    session.Heard coordinate (before ++ replies) run.2
  illegible : ¬(∀ reply ∈ replies, session.Legible reply.2) →
    Escapes run.1

section

variable {replies : List (Repository × Http.Outcome)} {rest : List Repository}
  {results : Except Failure (List (Option Metadata))}

omit failsByRequest

theorem Hears.nil (heard : session.Heard coordinate before state) :
    session.Hears coordinate before [] [] (.ok [], state) where
  legible _ := ⟨rfl, by rw [List.append_nil]; exact heard⟩
  illegible notAll := absurd (fun _ member => nomatch member) notAll

theorem Hears.cons_again (replied : replyAt before repository.uri = some outcome)
    (others : session.Hears coordinate before replies rest (results, last)) :
    session.Hears coordinate before replies (repository :: rest)
      (results.map (session.documentOf outcome :: ·), last) where
  legible all := by
    obtain ⟨documents, heard⟩ := others.legible all
    dsimp only at documents
    subst documents
    rw [List.map_cons, replyAt_of_replied before _ replied]
    exact ⟨rfl, heard⟩
  illegible notAll := (others.illegible notAll).map _

theorem Hears.cons_first (unreplied : replyAt before repository.uri = none)
    (legible : session.Legible outcome)
    (others : session.Hears coordinate (before ++ [(repository, outcome)]) replies rest
      (results, last)) :
    session.Hears coordinate before ((repository, outcome) :: replies) (repository :: rest)
      (results.map (session.documentOf outcome :: ·), last) where
  legible all := by
    obtain ⟨documents, heard⟩ := others.legible (List.forall_mem_cons.mp all).2
    dsimp only at documents heard
    subst documents
    rw [← List.append_cons] at heard
    have replied : replyAt (before ++ (repository, outcome) :: replies) repository.uri =
        some outcome := by
      rw [List.append_cons]
      refine replyAt_of_replied _ _ ?_
      rw [replyAt_append, unreplied, replyAt_singleton, beq_self_eq_true]
      rfl
    rw [List.map_cons, replied, ← List.append_cons]
    exact ⟨rfl, heard⟩
  illegible notAll := by
    refine Escapes.map (others.illegible fun all => ?_) _
    exact notAll (List.forall_mem_cons.mpr ⟨legible, all⟩)

theorem Hears.cons_illegible {repositories : List Repository} (illegible : ¬session.Legible outcome)
    (fails : Escapes results) :
    session.Hears coordinate before ((repository, outcome) :: replies) repositories
      (results, last) where
  legible all := absurd (all _ List.mem_cons_self) illegible
  illegible _ := fails

end

theorem Heard.askAll (rest : List Repository) (heard : session.Heard coordinate before state) :
    session.Hears coordinate before
      (session.replies coordinate state.requests (unasked (before.map (·.1.uri)) rest)) rest
      ((rest.mapM (session.ask coordinate)).run state) := by
  -- Who has replied before decides who is asked, and grows from step to step.
  induction rest generalizing before state with
  | nil => exact .nil heard
  | cons repository rest ih =>
    rw [run_mapM_cons]
    cases replied : replyAt before repository.uri with
    | some outcome =>
      have again : repository.uri ∈ before.map (·.1.uri) :=
        isSome_replyAt.mp (Option.isSome_of_eq_some replied)
      obtain ⟨gives, heardNow, unsent⟩ := heard.ask_again replied
      have others := ih heardNow
      rw [unasked, if_pos again]
      rw [unsent] at others
      generalize (session.ask coordinate repository).run state = first at *
      obtain ⟨result, after⟩ := first
      dsimp only at gives others ⊢
      subst gives
      exact .cons_again replied others
    | none =>
      have first : repository.uri ∉ before.map (·.1.uri) := by
        rw [← isSome_replyAt, replied]
        exact Bool.false_ne_true
      obtain ⟨hears, illegibly⟩ := heard.ask_first failsByRequest replied
      rw [unasked, if_neg first, Session.replies]
      dsimp only
      generalize session.metadataExchange coordinate repository state.requests = exchange at *
      generalize (session.ask coordinate repository).run state = run at *
      obtain ⟨result, after⟩ := run
      dsimp only at hears illegibly ⊢
      by_cases legible : session.Legible exchange.outcome
      · obtain ⟨gives, heardNow, sent⟩ := hears legible
        have others := ih heardNow
        rw [sent, List.map_append, List.map_singleton] at others
        subst gives
        exact .cons_first replied legible others
      · obtain ⟨fault, uncaught, rfl⟩ := illegibly legible
        exact .cons_illegible legible ⟨fault, uncaught, rfl⟩

omit failsByRequest in
theorem tells_fresh (session : Session) (own : List (Path × Pom)) :
    session.Tells (fresh own) [] := by
  unfold Tells
  split <;> rfl

/-- A session that has searched only has heard no reply yet. -/
theorem heard_searched (own : List (Path × Pom)) (coordinate : Coordinate)
    (repositories : List Repository) (containing : Option Pom) (version : Option String) :
    session.Heard coordinate []
      (session.searched repositories containing version (fresh own)).2 := by
  have silent := searched_silent failsByRequest repositories containing version (fresh own)
  constructor
  · intro uri
    rw [silent.metadata]
    rfl
  · exact silent.tells [] (session.tells_fresh own)

theorem metadata_hears (own : List (Path × Pom)) {coordinate : Coordinate}
    (grouped : (coordinate.group.getD "").isEmpty = false) (repositories : List Repository)
    (containing : Option Pom) :
    let searching := session.searched repositories containing none (fresh own)
    let replies := session.replies coordinate searching.2.requests (unasked [] searching.1)
    let run := (session.metadata coordinate repositories containing).run (fresh own)
    ((∀ reply ∈ replies, session.Legible reply.2) →
      run.1 = .ok ((searching.1.map fun repository =>
        (replyAt replies repository.uri).bind session.documentOf).foldl .merge none) ∧
      session.Heard coordinate replies run.2) ∧
    (¬(∀ reply ∈ replies, session.Legible reply.2) →
      Escapes run.1) := by
  have heard := heard_searched failsByRequest own coordinate repositories containing none
  rw [metadata_run session grouped]
  generalize session.searched repositories containing none (fresh own) = searching at *
  obtain ⟨searched, after⟩ := searching
  obtain ⟨hears, fails⟩ := heard.askAll failsByRequest searched
  dsimp only
  constructor
  · intro legible
    obtain ⟨found, heardAll⟩ := hears legible
    rw [found]
    exact ⟨rfl, heardAll⟩
  · intro illegible
    obtain ⟨fault, uncaught, failed⟩ := fails illegible
    rw [failed]
    exact ⟨fault, uncaught, rfl⟩

/-- `download_metadata` returns the merged metadata if and only if every document that is read is XML or raises a
`ParseError`; another exception ends it. Repositories whose replies are of no use add nothing to it; they go to
`on_error`, each once. -/
theorem metadata_of_replies (own : List (Path × Pom)) {coordinate : Coordinate}
    (grouped : (coordinate.group.getD "").isEmpty = false) (repositories : List Repository)
    (containing : Option Pom) :
    let searching := session.searched repositories containing none (fresh own)
    let replies := session.replies coordinate searching.2.requests (unasked [] searching.1)
    let run := (session.metadata coordinate repositories containing).run (fresh own)
    ((∃ known, run.1 = .ok known) ↔ ∀ reply ∈ replies, session.Legible reply.2) ∧
      (∀ failure, run.1 = .error failure →
        ∃ fault, fault ≠ .malformed ∧ failure = .document fault) ∧
      ∀ known, run.1 = .ok known →
        let documents := searching.1.filterMap fun repository =>
          (replyAt replies repository.uri).bind session.documentOf
        known.metadata.versions = documents.flatMap (·.versions) ∧
          known.metadata.snapshotVersions = documents.flatMap (·.snapshotVersions) ∧
          known.metadata.snapshot = documents.findSome? (·.snapshot) ∧
          session.Tells run.2
            (replies.filterMap fun reply => session.complaint coordinate reply.1 reply.2) := by
  intro searching replies run
  obtain ⟨hears, fails⟩ := metadata_hears failsByRequest own grouped repositories containing
  by_cases legible : ∀ reply ∈ replies, session.Legible reply.2
  · obtain ⟨ran, heard⟩ := hears legible
    refine ⟨iff_of_true ⟨_, ran⟩ legible, fun failure failed => ?_, fun known same => ?_⟩
    · cases ran.symm.trans failed
    obtain rfl := Except.ok.inj (ran.symm.trans same)
    have documents : (searching.1.map fun repository =>
        (replyAt replies repository.uri).bind session.documentOf).filterMap id =
          searching.1.filterMap fun repository =>
            (replyAt replies repository.uri).bind session.documentOf := by
      rw [List.filterMap_map]
      rfl
    rw [Metadata.Known.versions_foldl_merge, Metadata.Known.snapshotVersions_foldl_merge,
      Metadata.Known.snapshot_foldl_merge, documents]
    exact ⟨rfl, rfl, rfl, heard.tells⟩
  · obtain ⟨fault, uncaught, raised⟩ := fails legible
    refine ⟨iff_of_false ?_ legible, fun failure failed => ?_, fun known same => ?_⟩
    · rintro ⟨known, same⟩
      cases raised.symm.trans same
    · exact ⟨fault, uncaught, Except.error.inj (failed.symm.trans raised)⟩
    · cases raised.symm.trans same

end

theorem metadata_of_replies_refused :
    let session : Session :=
      { transport := Http.Transport.ofConfiguration {}
        server := fun _ _ => .error ⟨.connection, "refused"⟩ }
    let coordinate : Coordinate := ⟨some "org.example", some "lib", none⟩
    let repositories : List Repository :=
      [{ id := some "a", uri := "https://a.example", knownToExist := true }]
    let searching := session.searched repositories none none (fresh [])
    let replies := session.replies coordinate searching.2.requests (unasked [] searching.1)
    let run := (session.metadata coordinate repositories none).run (fresh [])
    session.FailsByRequest ∧ (coordinate.group.getD "").isEmpty = false ∧
      (∀ reply ∈ replies, session.Legible reply.2) ∧
      ∃ known, run.1 = .ok known ∧ session.Tells run.2
        (replies.filterMap fun reply => session.complaint coordinate reply.1 reply.2) := by
  intro session coordinate repositories searching replies run
  have failsByRequest : session.FailsByRequest := by
    refine ⟨?_, fun _ => by rfl⟩
    rintro earlier request fault ⟨⟩
    rfl
  have grouped : (coordinate.group.getD "").isEmpty = false := by decide
  have refused : replies.all (!·.2.isOk) := by decide +kernel
  have legible : ∀ reply ∈ replies, session.Legible reply.2 := by
    intro reply member response fault replied
    have failed := List.all_eq_true.mp refused reply member
    rw [replied] at failed
    cases failed
  obtain ⟨gives, -, reports⟩ := metadata_of_replies failsByRequest [] grouped repositories none
  obtain ⟨known, ran⟩ := gives.mpr legible
  obtain ⟨-, -, -, tells⟩ := reports known ran
  exact ⟨failsByRequest, grouped, legible, known, ran, tells⟩

/-- One document in an unknown encoding keeps all that other repositories say from being found out. -/
theorem exists_metadata_lost :
    let foreign := "<?xml version='1.0' encoding='bogus'?><metadata/>"
    let published := "<metadata><versioning><versions><version>1.0</version></versions></versioning>" ++
      "</metadata>"
    let session : Session :=
      { transport := Http.Transport.ofConfiguration {}
        includesCentral := false
        server := fun _ request =>
          if request.url = "https://a.example/org/example/lib/maven-metadata.xml" then
            .ok { status := 200, content := Text.Utf8.encode foreign.toList }
          else .ok { status := 200, content := Text.Utf8.encode published.toList } }
    let coordinate : Coordinate := ⟨some "org.example", some "lib", none⟩
    let repositories : List Repository :=
      [{ id := some "a", uri := "https://a.example", knownToExist := true },
        { id := some "b", uri := "https://b.example", knownToExist := true }]
    session.FailsByRequest ∧ (coordinate.group.getD "").isEmpty = false ∧
      ((session.metadata coordinate repositories).run (fresh [])).1 matches
        .error (.document (.unknownEncoding "bogus")) := by
  intro foreign published session coordinate repositories
  refine ⟨⟨?_, fun _ => by rfl⟩, by decide, by decide +kernel⟩
  intro earlier request fault failed
  dsimp only [session] at failed
  split at failed <;> cases failed

end MavenResolution.Session
