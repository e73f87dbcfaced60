import MavenResolution.Proofs.Session.Sending

/-! Turns: the points at which a session wants the metadata or a POM from a repository. What has been answered is
not requested again, and looks the same at every later turn. Only a request for a POM that failed is made again. -/
namespace MavenResolution

/-- What is known of a key, its outcome seen in another way. -/
def Flight.map (f : ν → μ) : Flight ν → Flight μ
  | .pending ticket => .pending ticket
  | .done outcome => .done (outcome.map f)

namespace Session

variable {session : Session} {state : State}

/-! Single questions. -/

section

variable {repository : Repository} (failsByRequest : session.FailsByRequest)
  (catches : session.CatchesFaults)

/-- What is recorded of a module is not asked for again. -/
theorem ask_of_done {coordinate : Coordinate} {found : Option Metadata}
    (done : state.metadata.known (repository.uri, coordinate) = some (.done found)) :
    ∃ cache, (session.ask coordinate repository).run state =
      (.ok found, { state with metadata := cache }) ∧
        ∀ key, cache.known key = state.metadata.known key := by
  have recorded : (metadataRegion.cache state).known (repository.uri, coordinate) =
      some (.done found) := done
  rw [ask_apply, Region.compute_done id _ 0 recorded]
  exact ⟨_, rfl, fun _ => rfl⟩

theorem pomFrom_of_done {key : ResolvedCoordinate} {found : Option Pom}
    (done : state.poms.known key = some (.done found)) :
    ∃ cache, session.pomFrom key repository state =
      (pomResult (.known found), { state with poms := cache }) ∧
        ∀ other, cache.known other = state.poms.known other := by
  have recorded : (pomRegion.cache state).known key = some (.done found) := done
  rw [pomFrom_apply, Region.compute_done Except.toOption _ 0 recorded]
  exact ⟨_, rfl, fun _ => rfl⟩

include failsByRequest catches

/-- What is not recorded is asked for, and recorded whatever the reply is. -/
theorem ask_of_unknown {coordinate : Coordinate}
    (unknown : state.metadata.known (repository.uri, coordinate) = none) :
    let exchange := session.metadataExchange coordinate repository state.requests
    let run := (session.ask coordinate repository).run state
    run.1 = .ok (session.documentOf exchange.outcome) ∧
      run.2.requests = state.requests ++ exchange.requests ∧ run.2.poms = state.poms ∧
      ∀ key, run.2.metadata.known key = if key == (repository.uri, coordinate)
        then some (.done (session.documentOf exchange.outcome)) else state.metadata.known key := by
  intro exchange run
  let key := (repository.uri, coordinate)
  let fetch := (session.fetchMetadata coordinate repository).run
  let asked := metadataRegion.asked 0 key state
  have missing : (metadataRegion.cache state).known key = none := unknown
  have beside : metadataRegion.Beside fun state : State => (state.requests, state.poms) :=
    ⟨fun _ _ => rfl, fun _ _ => rfl, fun _ _ => rfl, fun _ _ => rfl⟩
  have remembered : (fetch asked).2.memory = asked.memory :=
    (session.frame_memory id).fetchMetadata (fun _ => report_memory session _) asked
  have kept : metadataRegion.cache (fetch asked).2 = metadataRegion.cache asked :=
    congrArg Memory.metadata remembered
  have legible : session.Legible exchange.outcome :=
    catches.legible coordinate repository state.requests
  have takes : session.Takes coordinate repository exchange asked (fetch asked) :=
    fetchMetadata_takes failsByRequest coordinate repository asked
  obtain ⟨gives, learns, beyond⟩ := Region.compute_learns beside id missing kept
  obtain ⟨requests, poms⟩ := Prod.mk.inj beyond
  have document : (fetch asked).1 = .ok (session.documentOf exchange.outcome) := takes.document legible
  rw [document] at gives learns
  refine ⟨congrArg Computed.outcome gives, requests.trans takes.requests, ?_, learns⟩
  exact poms.trans (congrArg Memory.poms remembered)

omit failsByRequest in
/-- A request for a POM fails, or its answer is taken for what it is. -/
theorem fetchPom_answers (coordinate : ResolvedCoordinate) (repository : Repository) (state : State) :
    let exchange := session.pomExchange coordinate repository state.requests
    let result :=
      (session.fetchPom { coordinate with repository := some repository.uri } repository state).1
    (∃ fault, exchange.outcome = .error fault ∧ result = .error (.request fault)) ∨
      exchange.outcome.isOk = true ∧ ∃ answer, result = .ok answer ∧
        answer.toOption = session.modelIn coordinate repository exchange.outcome := by
  intro exchange result
  have replied : (session.send Http.defaultContext (pomRequest coordinate repository) state).1 =
      exchange.outcome := rfl
  have taken := session.fetchPom_of_reply coordinate repository state
  dsimp only at taken
  rw [replied] at taken
  cases outcome : exchange.outcome with
  | error fault =>
    rw [outcome] at taken
    exact .inl ⟨fault, rfl, taken⟩
  | ok response =>
    refine .inr ⟨rfl, ?_⟩
    rw [outcome] at taken replied
    dsimp only at taken
    cases provided : session.modelIn coordinate repository (.ok response) with
    | some pom =>
      rw [provided] at taken
      exact ⟨.ok pom, taken, rfl⟩
    | none =>
      obtain ⟨fault, useless⟩ := exists_fetchPom_fault catches replied provided
      exact ⟨.error fault, useless, rfl⟩

omit failsByRequest in
/-- What a repository provides is asked for until there is an answer, which is recorded. -/
theorem pomFrom_of_unknown (coordinate : ResolvedCoordinate)
    (unknown : state.poms.known { coordinate with repository := some repository.uri } = none) :
    let key : ResolvedCoordinate := { coordinate with repository := some repository.uri }
    let exchange := session.pomExchange coordinate repository state.requests
    let run := session.pomFrom key repository state
    run.1.toOption.bind Except.toOption = session.modelIn coordinate repository exchange.outcome ∧
      run.2.requests = state.requests ++ exchange.requests ∧ run.2.metadata = state.metadata ∧
      ∀ other, run.2.poms.known other = if other == key && exchange.outcome.isOk
        then some (.done (session.modelIn coordinate repository exchange.outcome))
        else state.poms.known other := by
  intro key exchange run
  let fetch := session.fetchPom key repository
  let asked := pomRegion.asked 0 key state
  have missing : (pomRegion.cache state).known key = none := unknown
  have beside : pomRegion.Beside fun state : State => (state.requests, state.metadata) :=
    ⟨fun _ _ => rfl, fun _ _ => rfl, fun _ _ => rfl, fun _ _ => rfl⟩
  have remembered : (fetch asked).2.memory = asked.memory :=
    (session.frame_memory id).fetchPom key repository asked
  have kept : pomRegion.cache (fetch asked).2 = pomRegion.cache asked :=
    congrArg Memory.poms remembered
  have sent : (fetch asked).2.requests = state.requests ++ exchange.requests :=
    session.fetchPom_requests coordinate repository asked
  have answers := fetchPom_answers catches coordinate repository asked
  obtain ⟨gives, learns, beyond⟩ := Region.compute_learns beside Except.toOption missing kept
  obtain ⟨requests, metadata⟩ := Prod.mk.inj beyond
  have ran : run = _ := pomFrom_apply session key repository state
  rw [ran]
  dsimp only
  rw [gives]
  refine ⟨?_, requests.trans sent, metadata.trans (congrArg Memory.metadata remembered),
    fun other => (learns other).trans ?_⟩
  · rcases answers with ⟨fault, failed, result⟩ | ⟨-, answer, result, taken⟩
    · rw [show (fetch asked).1 = _ from result, show exchange.outcome = _ from failed, pomResult]
      cases fault.kind.isRequest <;> rfl
    · rw [show (fetch asked).1 = _ from result]
      exact taken
  · rcases answers with ⟨fault, failed, result⟩ | ⟨answered, answer, result, taken⟩
    · rw [show (fetch asked).1 = _ from result, show exchange.outcome = _ from failed]
      exact (if_neg (by simp [Except.isOk, Except.toBool])).symm
    · rw [show (fetch asked).1 = _ from result, show exchange.outcome.isOk = _ from answered,
        Bool.and_true, show session.modelIn coordinate repository exchange.outcome = _ from taken.symm]
      rfl

end

/-! Turns. -/

/-- What a session wants to know of a repository. -/
inductive Question where
  | metadata (coordinate : Coordinate)
  | pom (coordinate : ResolvedCoordinate)

/-- What an answer is recorded for. -/
inductive Subject where
  | metadata (uri : String) (coordinate : Coordinate)
  | pom (key : ResolvedCoordinate)
  deriving DecidableEq

/-- What is recorded for a subject. -/
def Subject.entry : Subject → State → Option (Flight (Metadata ⊕ Pom))
  | .metadata uri coordinate, state => (state.metadata.known (uri, coordinate)).map (.map .inl)
  | .pom key, state => (state.poms.known key).map (.map .inr)

/-- A moment at which a session turns to a repository. -/
structure Turn where
  state : State
  repository : Repository
  question : Question

namespace Turn

def subject (turn : Turn) : Subject :=
  match turn.question with
  | .metadata coordinate => .metadata turn.repository.uri coordinate
  | .pom coordinate => .pom { coordinate with repository := some turn.repository.uri }

def request (turn : Turn) : Http.Request :=
  match turn.question with
  | .metadata coordinate => metadataRequest coordinate turn.repository
  | .pom coordinate => pomRequest coordinate turn.repository

/-- What fetching the answer would give: a request, and the same request again while it times out. -/
def fetch (session : Session) (turn : Turn) : Http.Transport.Exchange :=
  session.transport.send session.server turn.state.requests (some Http.defaultContext) turn.request

/-- What a session gets to see, and its state afterwards. -/
def run (session : Session) (turn : Turn) : Option (Metadata ⊕ Pom) × State :=
  match turn.question with
  | .metadata coordinate =>
    let run := (session.ask coordinate turn.repository).run turn.state
    ((run.1.toOption.bind id).map .inl, run.2)
  | .pom coordinate =>
    let run := session.pomFrom { coordinate with repository := some turn.repository.uri }
      turn.repository turn.state
    ((run.1.toOption.bind Except.toOption).map .inr, run.2)

def saw (session : Session) (turn : Turn) : Option (Metadata ⊕ Pom) := (turn.run session).1

def after (session : Session) (turn : Turn) : State := (turn.run session).2

/-- The requests that go out. -/
def sent (session : Session) (turn : Turn) : List Http.Request :=
  (turn.after session).requests.drop turn.state.requests.length

/-- What comes of a fetch is recorded: anything about metadata, but only a reply about a POM. -/
def Lasts (session : Session) (turn : Turn) : Prop :=
  match turn.question with
  | .metadata _ => True
  | .pom _ => (turn.fetch session).outcome.isOk = true

/-- The turn makes a fetch of which something is recorded. -/
def Settles (session : Session) (turn : Turn) : Prop :=
  turn.sent session ≠ [] ∧ turn.Lasts session

variable {turn : Turn} {found : Option (Metadata ⊕ Pom)}

theorem sent_of_requests {requests : List Http.Request}
    (sends : (turn.after session).requests = turn.state.requests ++ requests) :
    turn.sent session = requests := by
  rw [sent, sends, List.drop_left]

/-- What is recorded for a subject is seen again, and nothing is sent for it. -/
theorem again (recorded : turn.subject.entry turn.state = some (.done found)) :
    (turn.after session).requests = turn.state.requests ∧ turn.saw session = found ∧
      ∀ other : Subject, other.entry (turn.after session) = other.entry turn.state := by
  obtain ⟨state, repository, question⟩ := turn
  cases question with
  | metadata coordinate =>
    obtain ⟨flight, known, same⟩ := Option.map_eq_some_iff.mp recorded
    cases flight with
    | pending ticket => cases same
    | done outcome =>
      cases same
      obtain ⟨cache, gives, unchanged⟩ := @ask_of_done session state repository _ _ known
      have reached : Turn.after session ⟨state, repository, .metadata coordinate⟩ =
          { state with metadata := cache } := congrArg Prod.snd gives
      rw [reached]
      refine ⟨rfl, ?_, fun other => ?_⟩
      · simp only [saw, run, gives]
        rfl
      · cases other with
        | metadata uri module => exact congrArg (Option.map _) (unchanged _)
        | pom key => rfl
  | pom coordinate =>
    obtain ⟨flight, known, same⟩ := Option.map_eq_some_iff.mp recorded
    cases flight with
    | pending ticket => cases same
    | done outcome =>
      cases same
      obtain ⟨cache, gives, unchanged⟩ := @pomFrom_of_done session state repository _ _ known
      have reached : Turn.after session ⟨state, repository, .pom coordinate⟩ =
          { state with poms := cache } := congrArg Prod.snd gives
      rw [reached]
      refine ⟨rfl, ?_, fun other => ?_⟩
      · simp only [saw, run, gives]
        cases outcome <;> rfl
      · cases other with
        | metadata uri module => rfl
        | pom key => exact congrArg (Option.map _) (unchanged _)

/-- For a subject of which nothing is recorded the session makes a fetch, and what it gets to see is
recorded if it lasts. -/
theorem first (failsByRequest : session.FailsByRequest)
    (catches : session.CatchesFaults)
    (unknown : turn.subject.entry turn.state = none) :
    (turn.after session).requests = turn.state.requests ++ (turn.fetch session).requests ∧
      (turn.Lasts session →
        turn.subject.entry (turn.after session) = some (.done (turn.saw session))) ∧
      (¬turn.Lasts session → turn.subject.entry (turn.after session) = none) ∧
      ∀ other : Subject, other ≠ turn.subject →
        other.entry (turn.after session) = other.entry turn.state := by
  obtain ⟨state, repository, question⟩ := turn
  cases question with
  | metadata coordinate =>
    obtain ⟨gives, requests, poms, known⟩ := ask_of_unknown failsByRequest catches
      (Option.map_eq_none_iff.mp unknown)
    refine ⟨requests, fun _ => ?_, fun fleeting => absurd trivial fleeting, fun other apart => ?_⟩
    · simp only [subject, Subject.entry, after, saw, run, gives, known, beq_self_eq_true, if_true]
      rfl
    · cases other with
      | metadata uri module =>
        have differs : ((uri, module) == (repository.uri, coordinate)) = false := by
          rw [beq_eq_false_iff_ne]
          rintro ⟨⟩
          exact apart rfl
        simp only [Subject.entry, after, run, known, differs, Bool.false_eq_true, if_false]
      | pom key => simp only [Subject.entry, after, run, poms]
  | pom coordinate =>
    obtain ⟨gives, requests, metadata, known⟩ := pomFrom_of_unknown catches coordinate
      (Option.map_eq_none_iff.mp unknown)
    refine ⟨requests, fun answered => ?_, fun failed => ?_, fun other apart => ?_⟩
    · have answered : (session.pomExchange coordinate repository state.requests).outcome.isOk = true :=
        answered
      simp only [subject, Subject.entry, after, saw, run, gives, known, beq_self_eq_true, answered,
        Bool.and_self, if_true]
      rfl
    · have failed : (session.pomExchange coordinate repository state.requests).outcome.isOk = false :=
        Bool.eq_false_iff.mpr failed
      simp only [subject, Subject.entry, after, run, known, failed, Bool.and_false,
        Bool.false_eq_true, if_false]
      exact unknown
    · cases other with
      | metadata uri module => simp only [Subject.entry, after, run, metadata]
      | pom key =>
        have differs : (key == { coordinate with repository := some repository.uri }) = false := by
          rw [beq_eq_false_iff_ne]
          rintro rfl
          exact apart rfl
        simp only [Subject.entry, after, run, known, differs, Bool.false_and, Bool.false_eq_true,
          if_false]

end Turn

/-! Turns that follow one another. -/

/-- What is recorded after some turns is what they have settled. -/
structure Remembered (session : Session) (turns : List Turn) (state : State) : Prop where
  recorded : ∀ turn ∈ turns, turn.Settles session →
    turn.subject.entry state = some (.done (turn.saw session))
  unknown : ∀ subject : Subject,
    (∀ turn ∈ turns, turn.Settles session → turn.subject ≠ subject) → subject.entry state = none

/-- What a turn does behind others. What one of them has settled is seen again without a request. What
none has settled is fetched, and if this does not last either, nothing is recorded. -/
structure Turn.Lawful (session : Session) (before : List Turn) (turn : Turn) : Prop where
  settled : ∀ earlier ∈ before, earlier.Settles session → earlier.subject = turn.subject →
    turn.sent session = [] ∧ turn.saw session = earlier.saw session
  unsettled : (∀ earlier ∈ before, earlier.Settles session → earlier.subject ≠ turn.subject) →
    turn.sent session = (turn.fetch session).requests ∧
      (¬turn.Lasts session → turn.subject.entry (turn.after session) = none)

/-- The requests for documents, in their order. -/
def State.gets (state : State) : List Http.Request :=
  state.requests.filter fun request => request.method = .get

/-- Nothing is recorded from one state to another, and no document is asked for. -/
structure Quiet (state after : State) : Prop where
  metadata : after.metadata = state.metadata
  poms : after.poms = state.poms
  gets : after.gets = state.gets

theorem Quiet.entry {after : State} (quiet : Quiet state after) (subject : Subject) :
    subject.entry after = subject.entry state := by
  cases subject with
  | metadata uri coordinate => simp only [Subject.entry, quiet.metadata]
  | pom key => simp only [Subject.entry, quiet.poms]

theorem noting_quiet : Noting Quiet where
  refl _ := ⟨rfl, rfl, rfl⟩
  trans first second := ⟨second.metadata.trans first.metadata, second.poms.trans first.poms,
    second.gets.trans first.gets⟩
  noted _ _ _ := ⟨rfl, rfl, rfl⟩

theorem quiet_head (session : Session) (uri : String) (repository : Repository) :
    Keeps Quiet (session.send Http.defaultContext
      { method := .head, url := uri, auth := repository.auth }) := by
  intro state
  refine ⟨rfl, rfl, ?_⟩
  change (state.requests ++ _).filter _ = state.requests.filter _
  rw [List.filter_append]
  refine (congrArg (_ ++ ·) (List.filter_eq_nil_iff.mpr ?_)).trans (List.append_nil _)
  intro request member
  rw [Http.Transport.send_requests _ _ _ _ _ request member]
  exact Bool.false_ne_true

theorem quiet_searched (session : Session) (repositories : List Repository)
    (containing : Option Pom) (version : Option String) :
    Keeps Quiet (session.searched repositories containing version) := by
  have reported (failure : Failure) : Keeps Quiet (session.report failure) := by
    intro state
    have remembered := report_memory session failure state
    refine ⟨congrArg Memory.metadata remembered, congrArg Memory.poms remembered, ?_⟩
    exact congrArg (List.filter _) (report_requests session failure state)
  have probed (repository : Repository) : Keeps Quiet (session.probeOrReport repository) :=
    noting_quiet.probeOrReport (quiet_head session · repository) fun _ => reported _
  exact noting_quiet.searched (fun _ _ => ⟨rfl, rfl, rfl⟩) probed repositories containing version

/-- A session gets from one state to another by some turns. In between it is quiet. -/
inductive Visits (session : Session) : List Turn → State → State → Prop
  | nil {state after : State} (quiet : Quiet state after) : Visits session [] state after
  | cons {state after : State} {turn : Turn} {turns : List Turn} (quiet : Quiet state turn.state)
      (rest : Visits session turns (turn.after session) after) :
      Visits session (turn :: turns) state after

namespace Visits

variable {turns others : List Turn} {after last : State}

theorem refl (session : Session) (state : State) : session.Visits [] state state :=
  .nil (noting_quiet.refl state)

theorem turn {turn : Turn} (rest : Visits session turns (turn.after session) after) :
    Visits session (turn :: turns) turn.state after :=
  .cons (noting_quiet.refl turn.state) rest

theorem of_quiet (quiet : Quiet state after) (visits : Visits session turns after last) :
    Visits session turns state last := by
  cases visits with
  | nil quietThen => exact .nil (noting_quiet.trans quiet quietThen)
  | cons quietThen rest => exact .cons (noting_quiet.trans quiet quietThen) rest

theorem append (visits : Visits session turns state after)
    (further : Visits session others after last) : Visits session (turns ++ others) state last := by
  induction visits with
  | nil quiet => exact further.of_quiet quiet
  | cons quiet rest ih => exact .cons quiet (ih further)

end Visits

section

variable (failsByRequest : session.FailsByRequest)
  (catches : session.CatchesFaults) {turn : Turn} {turns before : List Turn}
  {after : State}

theorem Remembered.of_quiet (remembered : Remembered session before state)
    (quiet : Quiet state after) : Remembered session before after where
  recorded turn member settles := (quiet.entry _).trans (remembered.recorded turn member settles)
  unknown subject apart := (quiet.entry _).trans (remembered.unknown subject apart)

/-- What a turn comes to behind others: it does what it has to, and is remembered with them. -/
structure Turn.Conduct (session : Session) (before : List Turn) (turn : Turn) : Prop where
  lawful : turn.Lawful session before
  remembered : Remembered session (before ++ [turn]) (turn.after session)
  requests : (turn.after session).requests = turn.state.requests ++ turn.sent session
  fetched : turn.sent session = [] ∨ turn.sent session = (turn.fetch session).requests

/-- All that goes out in a turn is for a document. -/
theorem Turn.Conduct.gets (conduct : turn.Conduct session before) :
    (turn.after session).gets = turn.state.gets ++ turn.sent session := by
  have documents : (turn.sent session).filter (fun request => request.method = .get) =
      turn.sent session := by
    rw [List.filter_eq_self]
    intro request member
    rcases conduct.fetched with silent | sent
    · rw [silent] at member
      cases member
    · rw [sent] at member
      rw [Http.Transport.send_requests _ _ _ _ _ request member]
      unfold Turn.request
      split <;> rfl
  rw [State.gets, conduct.requests, List.filter_append, documents]
  rfl

theorem Remembered.conduct_settled (remembered : Remembered session before turn.state) {earlier : Turn}
    (member : earlier ∈ before) (settles : earlier.Settles session)
    (same : earlier.subject = turn.subject) : turn.Conduct session before := by
  have recorded := remembered.recorded earlier member settles
  rw [same] at recorded
  obtain ⟨requests, seen, unchanged⟩ := @Turn.again session _ _ recorded
  have silent : turn.sent session = [] :=
    Turn.sent_of_requests (requests.trans (List.append_nil _).symm)
  have lawful : turn.Lawful session before := by
    constructor
    · intro other member settles same
      have also := remembered.recorded other member settles
      rw [same, recorded] at also
      rw [seen]
      exact ⟨silent, Flight.done.inj (Option.some.inj also)⟩
    · intro apart
      exact absurd same (apart earlier member settles)
  have rememberedNow : Remembered session (before ++ [turn]) (turn.after session) := by
    constructor
    · intro other member settles
      rcases List.mem_append.mp member with earlierMember | here
      · exact (unchanged _).trans (remembered.recorded other earlierMember settles)
      · rw [List.mem_singleton.mp here] at settles
        exact absurd silent settles.1
    · intro subject apart
      refine (unchanged _).trans (remembered.unknown subject fun other member => ?_)
      exact apart other (List.mem_append_left _ member)
  exact ⟨lawful, rememberedNow, by rw [silent, List.append_nil, requests], .inl silent⟩

include failsByRequest catches

theorem Remembered.conduct_unsettled (remembered : Remembered session before turn.state)
    (apart : ∀ earlier ∈ before, earlier.Settles session → earlier.subject ≠ turn.subject) :
    turn.Conduct session before := by
  obtain ⟨requests, lasting, fleeting, others⟩ :=
    Turn.first failsByRequest catches (remembered.unknown _ apart)
  have sent := Turn.sent_of_requests requests
  have nonempty : turn.sent session ≠ [] := by
    rw [sent]
    exact Http.Transport.send_requests_ne_nil _ _ _ _ _
  have lawful : turn.Lawful session before := by
    constructor
    · intro earlier member settles same
      exact absurd same (apart earlier member settles)
    · intro _
      exact ⟨sent, fleeting⟩
  have rememberedNow : Remembered session (before ++ [turn]) (turn.after session) := by
    constructor
    · intro other member settles
      rcases List.mem_append.mp member with earlierMember | here
      · exact (others _ (apart other earlierMember settles)).trans
          (remembered.recorded other earlierMember settles)
      · rw [List.mem_singleton.mp here] at settles ⊢
        exact lasting settles.2
    · intro subject apartNow
      by_cases here : subject = turn.subject
      · -- The turn was about this subject, and settled nothing.
        rw [here]
        refine fleeting fun lasts => ?_
        exact apartNow turn (List.mem_append_right _ List.mem_cons_self) ⟨nonempty, lasts⟩ here.symm
      · refine (others subject here).trans (remembered.unknown subject fun other member => ?_)
        exact apartNow other (List.mem_append_left _ member)
  exact ⟨lawful, rememberedNow, by rw [sent, requests], .inr sent⟩

theorem Remembered.conduct (remembered : Remembered session before turn.state) :
    turn.Conduct session before := by
  by_cases settled : ∃ earlier ∈ before, earlier.Settles session ∧ earlier.subject = turn.subject
  · obtain ⟨earlier, member, settles, same⟩ := settled
    exact remembered.conduct_settled member settles same
  · refine remembered.conduct_unsettled failsByRequest catches fun earlier member settles same => ?_
    exact settled ⟨earlier, member, settles, same⟩

/-- Documents are asked for in turns only, and every turn does what those before it call for. -/
theorem Visits.lawful (visits : Visits session turns state after)
    (remembered : Remembered session before state) :
    after.gets = state.gets ++ turns.flatMap (·.sent session) ∧
      ∀ front turn behind, turns = front ++ turn :: behind →
        turn.Lawful session (before ++ front) := by
  induction visits generalizing before with
  | nil quiet =>
    refine ⟨by rw [quiet.gets, List.flatMap_nil, List.append_nil], fun front turn behind split => ?_⟩
    cases front <;> cases split
  | @cons state after first turns quiet rest ih =>
    have conduct := (remembered.of_quiet quiet).conduct failsByRequest catches
    obtain ⟨gets, later⟩ := ih conduct.remembered
    constructor
    · rw [gets, conduct.gets, quiet.gets, List.flatMap_cons, List.append_assoc]
    · intro front turn behind split
      cases front with
      | nil =>
        cases split
        rw [List.append_nil]
        exact conduct.lawful
      | cons other front =>
        obtain ⟨rfl, splitThen⟩ := List.cons.inj split
        rw [List.append_cons]
        exact later front turn behind splitThen

end

end Session
end MavenResolution
