import MavenResolution.Proofs.Session.Sending

/-! Which repositories are asked for a POM. A search leaves out those that do not accept the version, but for Maven
Central, which is asked for any version. -/
namespace MavenResolution

namespace Repository

variable {repositories : List Repository} {repository other : Repository}

/-- Repositories that are the same one publish the same versions. -/
theorem accepts_eq_of_same (same : repository.same other = true) (version : String) :
    repository.accepts version = other.accepts version := by
  have identities : repository.identity = other.identity := eq_of_beq same
  simp only [identity, Identity.mk.injEq] at identities
  obtain ⟨-, uri, releases, snapshots⟩ := identities
  simp only [accepts, uri, releases, snapshots]

/-- The repositories with another one behind them, unless they hold one that is the same. -/
def add (repositories : List Repository) (repository : Repository) : List Repository :=
  if repositories.any (·.same repository) then repositories else repositories ++ [repository]

theorem mem_add_of_mem (member : repository ∈ repositories) : repository ∈ add repositories other := by
  unfold add
  split
  · exact member
  · exact List.mem_append_left _ member

theorem exists_mem_add (repositories : List Repository) (repository : Repository) :
    ∃ kept ∈ add repositories repository, kept.same repository = true := by
  unfold add
  split
  · rename_i present
    obtain ⟨kept, member, same⟩ := List.any_eq_true.mp present
    exact ⟨kept, member, same⟩
  · exact ⟨repository, by simp, beq_self_eq_true _⟩

theorem mem_foldl_add_of_mem (rest : List Repository) (member : repository ∈ repositories) :
    repository ∈ rest.foldl add repositories := by
  induction rest generalizing repositories with
  | nil => exact member
  | cons first rest ih => exact ih (mem_add_of_mem member)

theorem exists_mem_foldl_add (repositories : List Repository) {rest : List Repository}
    (member : repository ∈ rest) :
    ∃ kept ∈ rest.foldl add repositories, kept.same repository = true := by
  induction rest generalizing repositories with
  | nil => cases member
  | cons first rest ih =>
    rcases List.mem_cons.mp member with rfl | later
    · obtain ⟨kept, here, same⟩ := exists_mem_add repositories repository
      exact ⟨kept, mem_foldl_add_of_mem rest here, same⟩
    · exact ih (add repositories first) later

/-- For every repository one that is the same remains. -/
theorem exists_mem_distinct (member : repository ∈ repositories) :
    ∃ kept ∈ distinct repositories, kept.same repository = true :=
  exists_mem_foldl_add [] member

end Repository

namespace Session

variable {session : Session} {state : State} {repositories : List Repository}
  {containing : Option Pom} {repository : Repository} {version : String}

/-- Maven Central as normalized, which a search finds after all others. -/
def centralForm (session : Session) (repositories : List Repository) (containing : Option Pom)
    (state : State) : Option Repository :=
  if session.includesCentral then
    let forms := (repositories.mapM (session.normalize · containing) state).2
    (session.normalize session.configuration.central containing forms).1
  else none

theorem searched_eq (session : Session) (repositories : List Repository) (containing : Option Pom)
    (version : String) (state : State) :
    (session.searched repositories containing (some version) state).1 =
      let forms := (repositories.mapM (session.normalize · containing) state).1.filterMap id
      Repository.distinct (forms.filter (·.accepts version) ++
        (session.centralForm repositories containing state).toList) := by
  rw [searched_apply, centralForm]
  cases session.includesCentral <;> rfl

theorem accepts_of_mem_searched
    (member : repository ∈ (session.searched repositories containing (some version) state).1) :
    repository.accepts version = true ∨
      session.centralForm repositories containing state = some repository := by
  rw [searched_eq] at member
  rcases List.mem_append.mp (Repository.mem_of_mem_distinct member) with listed | last
  · exact .inl (List.mem_filter.mp listed).2
  · exact .inr (Option.mem_toList.mp last)

theorem searched_accepts_iff (session : Session) (repositories : List Repository)
    (containing : Option Pom) (version : String) (state : State) :
    (∀ repository ∈ (session.searched repositories containing (some version) state).1,
        repository.accepts version = true) ↔
      ∀ form ∈ session.centralForm repositories containing state, form.accepts version = true := by
  constructor
  · intro accepting form central
    -- The repository may be left out of the list, but then one that is the same stands before it.
    rw [searched_eq] at accepting
    obtain ⟨kept, member, same⟩ := Repository.exists_mem_distinct
      (List.mem_append_right _ (Option.mem_toList.mpr central))
    rw [← Repository.accepts_eq_of_same same]
    exact accepting kept member
  · intro central repository member
    rcases accepts_of_mem_searched member with accepting | last
    · exact accepting
    · exact central repository last

/-! Requests for POMs. -/

theorem pomFrom_sent (session : Session) (coordinate : ResolvedCoordinate)
    (repository : Repository) :
    Keeps (Sent (· = session.transport.prepare (pomRequest coordinate repository)))
      (session.pomFrom coordinate repository) := by
  have noting := noting_sent (· = session.transport.prepare (pomRequest coordinate repository))
  exact noting.pomFrom (fun _ _ => .of_same rfl) (noting.fetchPom (session.sent_send Http.defaultContext _))

theorem downloadFrom_sent (session : Session) (coordinate : ResolvedCoordinate)
    (faults : DownloadFaults) (repositories : List Repository) (state : State) :
    Sent (fun request => ∃ repository ∈ repositories,
        request = session.transport.prepare (pomRequest coordinate repository))
      state (session.downloadFrom coordinate faults repositories state).2 := by
  induction repositories generalizing faults state with
  | nil => exact .of_same rfl
  | cons repository rest ih =>
    have asked := session.pomFrom_sent { coordinate with repository := some repository.uri }
      repository state
    rw [downloadFrom_cons]
    generalize session.pomFrom _ repository state = run at asked ⊢
    obtain ⟨result, after⟩ := run
    have here := asked.mono fun request same => (⟨repository, List.mem_cons_self, same⟩ :
      ∃ other ∈ repository :: rest, request = session.transport.prepare (pomRequest coordinate other))
    match result with
    | .ok (.ok pom) => exact here
    | .error failure => exact here
    | .ok (.error fault) =>
      refine (composes_sent _).trans here ((ih _ after).mono ?_)
      rintro request ⟨other, member, same⟩
      exact ⟨other, List.mem_cons_of_mem _ member, same⟩

/-- A download asks the repositories that it searches for the POM, and no other one. -/
theorem download_sent {coordinate : Coordinate} {complete : ResolvedCoordinate} {after : State}
    {result : Except Failure (Option String)} (completed : complete? coordinate = some complete)
    (dating : (session.datedVersion coordinate repositories containing).run state = (result, after))
    (relativePath : Option String) :
    Sent (fun request => session.Inquires coordinate request ∨
        ∃ key, key.coordinate = coordinate ∧
          ∃ repository ∈
            (session.searched repositories containing (some complete.version) after).1,
            request = session.transport.prepare (pomRequest key repository))
      state (session.download coordinate relativePath containing repositories state).2 := by
  have inquired := session.datedVersion_sent coordinate repositories containing state
  have probed := session.searched_sent repositories containing (some complete.version) after
  rw [dating] at inquired
  rw [download_apply completed, dating]
  cases result with
  | error failure => exact inquired.mono fun _ => .inl
  | ok found =>
    dsimp only
    cases after.ownPom? coordinate relativePath containing with
    | some pom => exact inquired.mono fun _ => .inl
    | none =>
      let dated := found.filter fun dated => !dated.isEmpty && dated != complete.version
      have asked := session.downloadFrom_sent { complete with dated } []
        (session.searched repositories containing (some complete.version) after).1
        (session.searched repositories containing (some complete.version) after).2
      have composes := composes_sent (fun request => session.Inquires coordinate request ∨
        ∃ key, key.coordinate = coordinate ∧
          ∃ repository ∈
            (session.searched repositories containing (some complete.version) after).1,
            request = session.transport.prepare (pomRequest key repository))
      refine composes.trans (inquired.mono fun _ => .inl) ?_
      refine composes.trans (probed.mono fun _ probe => .inl (.inl probe)) (asked.mono ?_)
      have whole := coordinate_of_complete? completed
      exact fun request asking => .inr ⟨{ complete with dated }, whole, asking⟩

/-- Whatever is searched publishes the version, but for Maven Central, and all
of it does if and only if that one does, where there is one. No others are asked for a POM: all else that
a download sends are probes and requests for metadata. -/
theorem download_asks_accepting (session : Session) (repositories : List Repository)
    (containing : Option Pom) (version : String) :
    (∀ state,
      let searched := (session.searched repositories containing (some version) state).1
      let last := session.centralForm repositories containing state
      (∀ repository ∈ searched, repository.accepts version = true ∨ last = some repository) ∧
        ((∀ repository ∈ searched, repository.accepts version = true) ↔
          ∀ form ∈ last, form.accepts version = true)) ∧
    ∀ group artifact relativePath state,
      let coordinate : Coordinate := ⟨group, artifact, some version⟩
      let dated := ((session.datedVersion coordinate repositories containing).run state).2
      Sent (fun request =>
          (session.Inquires coordinate request ∧
            ∀ key repository, request ≠ session.transport.prepare (pomRequest key repository)) ∨
          ∃ key repository, key.coordinate = coordinate ∧
            request = session.transport.prepare (pomRequest key repository) ∧
            (repository.accepts version = true ∨
              session.centralForm repositories containing dated = some repository))
        state (session.download coordinate relativePath containing repositories state).2 := by
  constructor
  · intro state
    exact ⟨fun _ => accepts_of_mem_searched,
      searched_accepts_iff session repositories containing version state⟩
  · intro group artifact relativePath state coordinate dated
    cases completed : complete? coordinate with
    | none =>
      unfold download
      rw [completed]
      exact .of_same rfl
    | some complete =>
      obtain rfl : version = complete.version :=
        (Option.some.inj (congrArg Coordinate.version (coordinate_of_complete? completed))).symm
      refine (download_sent completed rfl relativePath).mono ?_
      rintro request (inquires | ⟨key, whole, repository, member, asking⟩)
      · exact .inl ⟨inquires, inquires.ne_pomRequest⟩
      · exact .inr ⟨key, repository, whole, asking, accepts_of_mem_searched member⟩

theorem exists_download_unaccepted :
    let session : Session :=
      { transport := Http.Transport.ofConfiguration {}, server := fun _ _ => .ok { status := 404 } }
    let run := session.download ⟨some "org.example", some "lib", some "1.0-SNAPSHOT"⟩ none none []
      (fresh [])
    (session.searched [] none (some "1.0-SNAPSHOT") (fresh [])).1.map
        (fun repository => (repository.uri, repository.accepts "1.0-SNAPSHOT")) =
        [("https://repo.maven.apache.org/maven2", false)] ∧
      (.get, "https://repo.maven.apache.org/maven2/org/example/lib/1.0-SNAPSHOT/lib-1.0-SNAPSHOT.pom") ∈
        run.2.requests.map fun request => (request.method, request.url) := by
  constructor <;> decide +kernel

end Session
end MavenResolution
