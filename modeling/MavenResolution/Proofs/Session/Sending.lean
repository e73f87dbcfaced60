import MavenResolution.Proofs.Session.Requests

/-! Requests of one kind, and requests at all: what a computation sends is what its parts send. A cache
that has recorded a key sends nothing for it, and one that has not sends what the fetch sends. -/
namespace MavenResolution

namespace Region

variable {σ κ ν ε α τ : Type} [BEq κ] {region : Region σ κ ν} {rest : σ → τ} {state : σ} {key : κ}

/-- A caller that asks for a recorded key, be it only one that is being fetched, fetches nothing. -/
theorem compute_recorded (beside : region.Beside rest) (outcome : α → Option ν)
    (fetch : StateM σ (Except ε α)) (waiters : Nat)
    (recorded : ((region.cache state).known key).isSome) :
    let run := region.compute key outcome fetch waiters state
    (∃ found, run.1 = .known found) ∧
      (∀ other, (region.cache run.2).known other = (region.cache state).known other) ∧
      rest run.2 = rest state := by
  obtain ⟨flight, entry⟩ := Option.isSome_iff_exists.mp recorded
  rw [compute_apply]
  cases flight with
  | done found =>
    rw [SingleFlight.claim_known entry]
    refine ⟨⟨found, rfl⟩, fun other => ?_, beside.rest_withCache _ _⟩
    dsimp only
    rw [beside.cache_withCache]
    rfl
  | pending ticket =>
    have claimed : (region.cache state).claim key = (.waiting ticket,
        { region.cache state with hits := (region.cache state).hits + 1 }) := by
      simp only [SingleFlight.known] at entry
      simp only [SingleFlight.claim, entry]
    rw [claimed]
    refine ⟨⟨none, rfl⟩, fun other => ?_, beside.rest_withCache _ _⟩
    dsimp only
    rw [beside.cache_withCache]
    rfl

end Region

/-- Nothing is both the metadata and the POM of something. -/
theorem Layout.metadata_ne_pom (repository other : Repository) (coordinate : Coordinate)
    (key : ResolvedCoordinate) : Layout.metadata repository coordinate ≠ Layout.pom other key := by
  have metadata (front : String) :
      (front ++ "maven-metadata.xml").toList.getLast? = some 'l' := by simp
  have pom (front name : String) : (front ++ (name ++ "." ++ "pom")).toList.getLast? = some 'm' := by
    simp
  intro same
  have last := (metadata _).symm.trans
    ((congrArg (fun url : String => url.toList.getLast?) same).trans (pom _ _))
  cases last

namespace Session

variable {session : Session} {state after last : State} {kind : Http.Request → Prop}

/-- All that is sent from one state to another is of one kind. -/
def Sent (kind : Http.Request → Prop) (state after : State) : Prop :=
  ∃ sent, after.requests = state.requests ++ sent ∧ ∀ request ∈ sent, kind request

theorem Sent.of_same (same : after.requests = state.requests) : Sent kind state after :=
  ⟨[], by rw [same, List.append_nil], fun _ member => nomatch member⟩

theorem Sent.mono {wider : Http.Request → Prop} (sent : Sent kind state after)
    (included : ∀ request, kind request → wider request) : Sent wider state after := by
  obtain ⟨requests, same, all⟩ := sent
  exact ⟨requests, same, fun request member => included request (all request member)⟩

theorem composes_sent (kind : Http.Request → Prop) : Composes (Sent kind) where
  refl _ := .of_same rfl
  trans first second := by
    obtain ⟨earlier, same, all⟩ := first
    obtain ⟨later, sameThen, allThen⟩ := second
    refine ⟨earlier ++ later, ?_, fun request member => ?_⟩
    · rw [sameThen, same, List.append_assoc]
    · rcases List.mem_append.mp member with before | behind
      · exact all request before
      · exact allThen request behind

/-- What goes out for a request is that request, as it is prepared. -/
theorem sent_send (session : Session) (context : String) (request : Http.Request) :
    Keeps (Sent (· = session.transport.prepare request)) (session.send context request) :=
  fun state => ⟨_, rfl, Http.Transport.send_requests session.server (some context) request
    session.transport state.requests⟩

theorem noting_sent (kind : Http.Request → Prop) : Noting (Sent kind) where
  toComposes := composes_sent kind
  noted _ _ _ := .of_same rfl

theorem report_sent (session : Session) (failure : Failure) :
    Keeps (Sent kind) (session.report failure) :=
  fun state => .of_same (report_requests session failure state)

theorem normalizedRegion_besideRequests : normalizedRegion.Beside State.requests :=
  ⟨fun _ _ => rfl, fun _ _ => rfl, fun _ _ => rfl, fun _ _ => rfl⟩

theorem metadataRegion_besideRequests : metadataRegion.Beside State.requests :=
  ⟨fun _ _ => rfl, fun _ _ => rfl, fun _ _ => rfl, fun _ _ => rfl⟩

/-- What has been sent remains, whatever is sent after it. -/
abbrev Continues : State → State → Prop := Sent fun _ => True

theorem Continues.isPrefix (continues : Continues state after) : state.requests <+: after.requests := by
  obtain ⟨later, same, -⟩ := continues
  rw [same]
  exact List.prefix_append _ _

/-- Whatever is sent, all that was sent before remains. -/
theorem continues_of_sent {m : StateM State α} (sent : Keeps (Sent kind) m) : Keeps Continues m :=
  fun state => (sent state).mono fun _ _ => trivial

theorem frame_continues (session : Session) : session.Frame Continues where
  toNoting := noting_sent _
  sent context request state := (session.sent_send context request state).mono fun _ _ => trivial

/-! Complete coordinates. -/

section

variable {coordinate : Coordinate} {complete : ResolvedCoordinate}
  (completed : complete? coordinate = some complete)

include completed

theorem coordinate_of_complete? : complete.coordinate = coordinate := by
  simp only [complete?, Option.bind_eq_bind, Option.bind_eq_some_iff, Option.filter_eq_some_iff]
    at completed
  obtain ⟨group, ⟨grouped, -⟩, artifact, ⟨named, -⟩, version, ⟨versioned, -⟩, same⟩ := completed
  cases same
  cases coordinate
  simp_all [ResolvedCoordinate.coordinate]

theorem repository_of_complete? : complete.repository = none := by
  simp only [complete?, Option.bind_eq_bind, Option.bind_eq_some_iff] at completed
  obtain ⟨group, -, artifact, -, version, -, same⟩ := completed
  cases same
  rfl

theorem grouped_of_complete? : (coordinate.group.getD "").isEmpty = false := by
  simp only [complete?, Option.bind_eq_bind, Option.bind_eq_some_iff, Option.filter_eq_some_iff]
    at completed
  obtain ⟨group, ⟨grouped, filled⟩, -⟩ := completed
  rw [grouped]
  simpa using filled

end

/-! What the operations of a session send. -/

/-- Repositories are probed by their heads alone. -/
def IsProbe (request : Http.Request) : Prop := request.method = .head

theorem probeOrReport_sent (session : Session) (repository : Repository) :
    Keeps (Sent IsProbe) (session.probeOrReport repository) := by
  refine (noting_sent IsProbe).probeOrReport (fun uri state => ?_) fun _ => session.report_sent _
  refine (session.sent_send Http.defaultContext _ state).mono ?_
  rintro request rfl
  rfl

theorem normalize_sent (session : Session) (repository : Repository) (containing : Option Pom) :
    Keeps (Sent IsProbe) (session.normalize repository containing) :=
  (noting_sent IsProbe).normalize (fun _ _ => .of_same rfl) session.probeOrReport_sent repository
    containing

theorem searched_sent (session : Session) (repositories : List Repository)
    (containing : Option Pom) (version : Option String) :
    Keeps (Sent IsProbe) (session.searched repositories containing version) :=
  (noting_sent IsProbe).searched (fun _ _ => .of_same rfl) session.probeOrReport_sent repositories
    containing version

/-- The request is a probe of a repository, or one for metadata. -/
def Inquires (session : Session) (coordinate : Coordinate) (request : Http.Request) : Prop :=
  IsProbe request ∨
    ∃ repository, request = session.transport.prepare (metadataRequest coordinate repository)

/-- No such request is one for a POM. -/
theorem Inquires.ne_pomRequest {coordinate : Coordinate} {request : Http.Request}
    (inquires : session.Inquires coordinate request) (key : ResolvedCoordinate)
    (repository : Repository) : request ≠ session.transport.prepare (pomRequest key repository) := by
  rintro rfl
  rcases inquires with probe | ⟨other, same⟩
  · cases probe
  · exact Layout.metadata_ne_pom other repository coordinate key
      (congrArg Http.Request.url same).symm

theorem ask_sent (session : Session) (coordinate : Coordinate) (repository : Repository) :
    Keeps (Sent (session.Inquires coordinate)) (session.ask coordinate repository).run := by
  have noting := noting_sent (session.Inquires coordinate)
  refine noting.ask (fun _ _ => .of_same rfl) ?_
  refine noting.fetchMetadata (fun state => ?_) fun _ => session.report_sent _
  refine (session.sent_send Http.defaultContext _ state).mono ?_
  rintro request rfl
  exact .inr ⟨repository, rfl⟩

theorem metadata_sent (session : Session) (coordinate : Coordinate)
    (repositories : List Repository) (containing : Option Pom) :
    Keeps (Sent (session.Inquires coordinate))
      (session.metadata coordinate repositories containing).run :=
  (noting_sent _).metadata (fun _ _ => .of_same rfl)
    (fun repository state => (session.probeOrReport_sent repository state).mono fun _ => .inl)
    (session.ask_sent coordinate) repositories containing

theorem datedVersion_sent (session : Session) (coordinate : Coordinate)
    (repositories : List Repository) (containing : Option Pom) :
    Keeps (Sent (session.Inquires coordinate))
      (session.datedVersion coordinate repositories containing).run :=
  (noting_sent _).datedVersion (session.metadata_sent coordinate repositories containing)

/-! Whether anything is sent. -/

/-- Something is sent from one state to another. -/
def Asks (state after : State) : Prop := state.requests.length < after.requests.length

theorem Asks.requests_ne (asks : Asks state after) : after.requests ≠ state.requests := by
  intro same
  unfold Asks at asks
  rw [same] at asks
  exact Nat.lt_irrefl _ asks

theorem Asks.then (asks : Asks state after) (continues : Continues after last) :
    Asks state last := by
  obtain ⟨later, same, -⟩ := continues
  unfold Asks at *
  rw [same, List.length_append]
  omega

theorem Asks.behind (asks : Asks after last) (continues : Continues state after) :
    Asks state last := by
  obtain ⟨earlier, same, -⟩ := continues
  unfold Asks at *
  rw [same, List.length_append] at asks
  omega

theorem Asks.bind {m : StateM State α} {f : α → StateM State β} (asks : Keeps Asks m)
    (next : ∀ a, Keeps Continues (f a)) : Keeps Asks (m >>= f) :=
  fun state => (asks state).then (next (m state).1 (m state).2)

theorem Asks.run_bind {m : ExceptT ε (StateM State) α} {f : α → ExceptT ε (StateM State) β}
    (asks : Keeps Asks m.run) (next : ∀ a, Keeps Continues (f a).run) : Keeps Asks (m >>= f).run := by
  change Keeps Asks (m.run >>= ExceptT.bindCont f)
  refine Asks.bind asks fun result => ?_
  cases result with
  | ok a => exact next a
  | error fault => exact (composes_sent _).pure _

theorem asks_send (session : Session) (context : String) (request : Http.Request) :
    Keeps Asks (session.send context request) := by
  intro state
  have nonempty := List.length_pos_iff.mpr (Http.Transport.send_requests_ne_nil session.server
    (some context) request session.transport state.requests)
  change state.requests.length < (state.requests ++ _).length
  rw [List.length_append]
  omega

end Session
end MavenResolution
