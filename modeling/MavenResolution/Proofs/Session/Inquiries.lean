import MavenResolution.Proofs.Session.Turns

/-! Inquiries: what a session is asked from outside, one thing after another. Each comes to a number of
turns, and all turns of all inquiries together obey one law: every answer is asked for once. -/
namespace MavenResolution.Session

variable {session : Session} {state : State}

/-! The turns of single operations. -/

/-- Repositories are asked about a module in turn, up to the first failure. -/
def askingTurns (session : Session) (coordinate : Coordinate) : List Repository → State → List Turn
  | [], _ => []
  | repository :: rest, state =>
    ⟨state, repository, .metadata coordinate⟩ ::
      match (session.ask coordinate repository).run state with
      | (.ok _, after) => session.askingTurns coordinate rest after
      | (.error _, _) => []

def metadataTurns (session : Session) (coordinate : Coordinate) (repositories : List Repository)
    (containing : Option Pom) (state : State) : List Turn :=
  if (coordinate.group.getD "").isEmpty then []
  else
    let searching := session.searched repositories containing none state
    session.askingTurns coordinate searching.1 searching.2

/-- Only a snapshot that is not pinned takes any. -/
def datingTurns (session : Session) (coordinate : Coordinate) (repositories : List Repository)
    (containing : Option Pom) (state : State) : List Turn :=
  match coordinate.version with
  | none => []
  | some version =>
    if !Snapshot.isSnapshot version then []
    else match session.pinnedVersion? coordinate with
      | some _ => []
      | none => session.metadataTurns coordinate repositories containing state

/-- Repositories are searched in turn, up to the one that provides the POM. -/
def searchTurns (session : Session) (coordinate : ResolvedCoordinate) :
    List Repository → State → List Turn
  | [], _ => []
  | repository :: rest, state =>
    ⟨state, repository, .pom coordinate⟩ ::
      match session.pomFrom { coordinate with repository := some repository.uri } repository state with
      | (.ok (.error _), after) => session.searchTurns coordinate rest after
      | (.ok (.ok _), _) | (.error _, _) => []

def downloadTurns (session : Session) (coordinate : Coordinate) (relativePath : Option String)
    (containing : Option Pom) (repositories : List Repository) (state : State) : List Turn :=
  match complete? coordinate with
  | none => []
  | some complete =>
    session.datingTurns coordinate repositories containing state ++
      match (session.datedVersion coordinate repositories containing).run state with
      | (.error _, _) => []
      | (.ok dated, after) => match after.ownPom? coordinate relativePath containing with
        | some _ => []
        | none =>
          let searching := session.searched repositories containing (some complete.version) after
          let dated := dated.filter fun dated => !dated.isEmpty && dated != complete.version
          session.searchTurns { complete with dated } searching.1 searching.2

theorem visits_askAll (session : Session) (coordinate : Coordinate) (repositories : List Repository)
    (state : State) : session.Visits (session.askingTurns coordinate repositories state) state
      ((repositories.mapM (session.ask coordinate)).run state).2 := by
  induction repositories generalizing state with
  | nil => exact .refl _ _
  | cons repository rest ih =>
    refine .turn ?_
    rw [run_mapM_cons]
    have reached : Turn.after session ⟨state, repository, .metadata coordinate⟩ =
        ((session.ask coordinate repository).run state).2 := rfl
    rw [reached]
    cases (session.ask coordinate repository).run state with
    | mk result after =>
      cases result with
      | error failure => exact .refl _ _
      | ok found => exact ih after

theorem visits_metadata (session : Session) (coordinate : Coordinate)
    (repositories : List Repository) (containing : Option Pom) (state : State) :
    session.Visits (session.metadataTurns coordinate repositories containing state) state
      ((session.metadata coordinate repositories containing).run state).2 := by
  unfold metadataTurns
  split
  · rename_i ungrouped
    rw [metadata_eq, if_pos ungrouped]
    exact .refl session state
  · rename_i grouped
    rw [metadata_run session (Bool.eq_false_iff.mpr grouped)]
    exact (session.visits_askAll coordinate _ _).of_quiet
      (session.quiet_searched repositories containing none state)

theorem visits_datedVersion (session : Session) (coordinate : Coordinate)
    (repositories : List Repository) (containing : Option Pom) (state : State) :
    session.Visits (session.datingTurns coordinate repositories containing state) state
      ((session.datedVersion coordinate repositories containing).run state).2 := by
  unfold datingTurns datedVersion
  cases coordinate.version with
  | none => exact .refl _ _
  | some version =>
    dsimp only
    split
    · exact .refl _ _
    · cases session.pinnedVersion? coordinate with
      | some dated => exact .refl _ _
      | none =>
        dsimp only
        rw [run_bind_pure]
        exact session.visits_metadata coordinate repositories containing state

theorem visits_downloadFrom (session : Session) (coordinate : ResolvedCoordinate)
    (faults : DownloadFaults) (repositories : List Repository) (state : State) :
    session.Visits (session.searchTurns coordinate repositories state) state
      (session.downloadFrom coordinate faults repositories state).2 := by
  induction repositories generalizing faults state with
  | nil => exact .refl _ _
  | cons repository rest ih =>
    refine .turn ?_
    rw [downloadFrom_cons]
    have reached : Turn.after session ⟨state, repository, .pom coordinate⟩ = (session.pomFrom
        { coordinate with repository := some repository.uri } repository state).2 := rfl
    rw [reached]
    cases session.pomFrom { coordinate with repository := some repository.uri } repository state with
    | mk result after =>
      cases result with
      | error failure => exact .refl _ _
      | ok answer =>
        cases answer with
        | ok pom => exact .refl _ _
        | error fault => exact ih _ after

theorem visits_download (session : Session) (coordinate : Coordinate) (relativePath : Option String)
    (containing : Option Pom) (repositories : List Repository) (state : State) :
    session.Visits
      (session.downloadTurns coordinate relativePath containing repositories state) state
      (session.download coordinate relativePath containing repositories state).2 := by
  unfold downloadTurns
  cases completed : complete? coordinate with
  | none =>
    unfold Session.download
    rw [completed]
    exact .refl _ _
  | some complete =>
    have visits := session.visits_datedVersion coordinate repositories containing state
    rw [download_apply completed]
    refine visits.append ?_
    generalize (session.datedVersion coordinate repositories containing).run state = dating
    obtain ⟨result, dated⟩ := dating
    cases result with
    | error failure => exact .refl _ _
    | ok version =>
      dsimp only
      cases dated.ownPom? coordinate relativePath containing with
      | some pom => exact .refl _ _
      | none =>
        exact (session.visits_downloadFrom _ [] _ _).of_quiet
          (session.quiet_searched repositories containing (some complete.version) dated)

/-! All inquiries of a session. -/

/-- What a session may be asked for. -/
inductive Inquiry where
  | download (coordinate : Coordinate) (relativePath : Option String) (containing : Option Pom)
    (repositories : List Repository)
  | metadata (coordinate : Coordinate) (repositories : List Repository) (containing : Option Pom)
  | datedVersion (coordinate : Coordinate) (repositories : List Repository)
    (containing : Option Pom)

namespace Inquiry

def after (session : Session) : Inquiry → State → State
  | .download coordinate relativePath containing repositories, state =>
    (session.download coordinate relativePath containing repositories state).2
  | .metadata coordinate repositories containing, state =>
    ((session.metadata coordinate repositories containing).run state).2
  | .datedVersion coordinate repositories containing, state =>
    ((session.datedVersion coordinate repositories containing).run state).2

def turns (session : Session) : Inquiry → State → List Turn
  | .download coordinate relativePath containing repositories, state =>
    session.downloadTurns coordinate relativePath containing repositories state
  | .metadata coordinate repositories containing, state =>
    session.metadataTurns coordinate repositories containing state
  | .datedVersion coordinate repositories containing, state =>
    session.datingTurns coordinate repositories containing state

theorem visits (session : Session) (inquiry : Inquiry) (state : State) :
    session.Visits (inquiry.turns session state) state (inquiry.after session state) := by
  cases inquiry with
  | download coordinate relativePath containing repositories =>
    exact session.visits_download coordinate relativePath containing repositories state
  | metadata coordinate repositories containing =>
    exact session.visits_metadata coordinate repositories containing state
  | datedVersion coordinate repositories containing =>
    exact session.visits_datedVersion coordinate repositories containing state

end Inquiry

def inquireAll (session : Session) : List Inquiry → State → State
  | [], state => state
  | inquiry :: rest, state => session.inquireAll rest (inquiry.after session state)

def turnsOf (session : Session) : List Inquiry → State → List Turn
  | [], _ => []
  | inquiry :: rest, state =>
    inquiry.turns session state ++ session.turnsOf rest (inquiry.after session state)

theorem visits_inquireAll (session : Session) (inquiries : List Inquiry) (state : State) :
    session.Visits (session.turnsOf inquiries state) state (session.inquireAll inquiries state) := by
  induction inquiries generalizing state with
  | nil => exact .refl _ _
  | cons inquiry rest ih => exact (inquiry.visits session state).append (ih _)

/-- If nothing of a kind comes behind another of this kind, there is one of them at most. -/
theorem countP_le_one {kind : Turn → Bool} {turns : List Turn}
    (alone : ∀ front turn behind, turns = front ++ turn :: behind → kind turn = true →
      ∀ earlier ∈ front, kind earlier = false) : turns.countP kind ≤ 1 := by
  induction turns with
  | nil => exact Nat.zero_le 1
  | cons first rest ih =>
    rw [List.countP_cons]
    split
    · rename_i here
      have none : rest.countP kind = 0 := by
        refine List.countP_eq_zero.mpr fun turn member there => ?_
        obtain ⟨front, behind, split⟩ := List.append_of_mem member
        have before := alone (first :: front) turn behind (congrArg (first :: ·) split) there
        exact Bool.false_ne_true ((before first List.mem_cons_self).symm.trans here)
      exact Nat.le_of_eq (congrArg (· + 1) none)
    · refine ih fun front turn behind split there earlier member => ?_
      have before := alone (first :: front) turn behind (congrArg (first :: ·) split) there
      exact before earlier (List.mem_cons_of_mem _ member)

/-- The turn fetches the metadata of a repository. -/
def Turn.fetchesMetadata (session : Session) (uri : String) (coordinate : Coordinate) (turn : Turn) :
    Bool :=
  turn.subject = .metadata uri coordinate ∧ turn.sent session ≠ []

theorem Turn.lasts_of_metadata {turn : Turn} {uri : String} {coordinate : Coordinate}
    (about : turn.subject = .metadata uri coordinate) : turn.Lasts session := by
  obtain ⟨state, repository, question⟩ := turn
  cases question with
  | metadata module => trivial
  | pom key => cases about

/-- Whatever a session is asked for, it gets there by turns, and asks for documents in these alone. The metadata of
a repository are fetched once at most for a coordinate. Once a repository has answered a request for a POM, every
later turn finds the same without a request; until then every turn makes the request, and leaves nothing in the
cache if it fails. -/
theorem inquireAll_asksOnce (failsByRequest : session.FailsByRequest)
    (catches : session.CatchesFaults) (own : List (Path × Pom))
    (inquiries : List Inquiry) :
    let turns := session.turnsOf inquiries (fresh own)
    let after := session.inquireAll inquiries (fresh own)
    session.Visits turns (fresh own) after ∧
      after.gets = turns.flatMap (·.sent session) ∧
      (∀ turn ∈ turns, ∃ retries ≤ session.transport.attempts - 1,
        (turn.fetch session).Retried session.server (session.transport.prepare turn.request)
          turn.state.requests retries) ∧
      (∀ uri coordinate, turns.countP (·.fetchesMetadata session uri coordinate) ≤ 1) ∧
      ∀ front turn behind, turns = front ++ turn :: behind → turn.Lawful session front := by
  intro turns after
  have visits : session.Visits turns (fresh own) after :=
    session.visits_inquireAll inquiries (fresh own)
  have remembered : session.Remembered [] (fresh own) := by
    refine ⟨fun turn member => absurd member List.not_mem_nil, fun subject _ => ?_⟩
    cases subject <;> rfl
  obtain ⟨gets, lawful⟩ := visits.lawful failsByRequest catches remembered
  refine ⟨visits, gets, fun turn _ => ?_, fun uri coordinate => ?_, lawful⟩
  · exact Http.Transport.exists_retried_send _ _ _ failsByRequest.waits _
  · refine countP_le_one fun front turn behind split fetches earlier member => ?_
    obtain ⟨about, sent⟩ := of_decide_eq_true fetches
    refine decide_eq_false fun both => ?_
    have settles : earlier.Settles session := ⟨both.2, Turn.lasts_of_metadata both.1⟩
    exact sent ((lawful front turn behind split).settled earlier member settles
      (both.1.trans about.symm)).1

/-- A refused connection is tried again, and the confirmed absence then holds. The metadata are requested but once.
-/
theorem inquireAll_asksOnce_refused :
    let server : Http.Server := fun earlier _ =>
      if earlier.isEmpty then .error ⟨.connection, "refused"⟩ else .ok { status := 404 }
    let session : Session :=
      { transport := Http.Transport.ofConfiguration {}, includesCentral := false, server }
    let coordinate : Coordinate := ⟨some "org.example", some "lib", some "1.0"⟩
    let repositories : List Repository :=
      [{ id := some "a", uri := "https://a.example", knownToExist := true }]
    let download := Inquiry.download coordinate none none repositories
    let metadata := Inquiry.metadata coordinate repositories none
    let inquiries := [download, metadata, download, metadata, download]
    let turns := session.turnsOf inquiries (fresh [])
    session.FailsByRequest ∧ session.CatchesFaults ∧
      (turns.map fun turn => (turn.sent session).length) = [1, 1, 1, 0, 0] ∧
      (session.inquireAll inquiries (fresh [])).gets.length = 3 ∧
      ∀ front turn behind, turns = front ++ turn :: behind → turn.Lawful session front := by
  intro server session coordinate repositories download metadata inquiries turns
  have failsByRequest : session.FailsByRequest := by
    refine ⟨?_, fun _ => by rfl⟩
    intro earlier request fault failed
    dsimp only [session, server] at failed
    split at failed <;> cases failed
    rfl
  have catches : session.CatchesFaults := by
    refine .of_undeclared rfl fun earlier request response replied => ?_
    dsimp only [session, server] at replied
    split at replied <;> cases replied
    rintro declaration behind ⟨⟩
    rfl
  have lengths : (turns.map fun turn => (turn.sent session).length) = [1, 1, 1, 0, 0] := by
    decide +kernel
  obtain ⟨-, gets, -, -, lawful⟩ :=
    @inquireAll_asksOnce session failsByRequest catches [] inquiries
  refine ⟨failsByRequest, catches, lengths, ?_, lawful⟩
  rw [gets, List.length_flatMap]
  exact congrArg List.sum lengths

end MavenResolution.Session
