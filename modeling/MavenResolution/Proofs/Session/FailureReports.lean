import MavenResolution.Proofs.Session.Distinct
import MavenResolution.Proofs.Session.Turns

/-! The failures of a download that no repository served. Every repository that was tried is named once, in search
order, with the reason that its own turn gave. -/
namespace MavenResolution.Session

variable {session : Session} {state after last : State} {repository : Repository} {fault : DownloadFault}
  {coordinate : ResolvedCoordinate} {faults : DownloadFaults} {containing : Option Pom}

/-! One turn. -/

/-- The reason that a reply to a request for a POM gives for there being none. -/
def reasonIn (session : Session) (repository : Repository) : Http.Outcome → Option DownloadFault
  | .error fault => if fault.kind.isRequest then some (.request fault) else none
  | .ok response =>
    if response.isSuccess then
      match Pom.read (.octets response.content) none (some repository) session.xml with
      | .ok _ | .error (.document (.unknownEncoding _)) => none
      | .error fault => some (.unreadable fault)
    else some (.status response.status)

/-- The reason why the turn of a repository brings no POM: the reply it gives now, or that its absence is
known already. -/
def reason (session : Session) (coordinate : ResolvedCoordinate) (repository : Repository) (state : State) :
    Option DownloadFault :=
  match state.poms.known { coordinate with repository := some repository.uri } with
  | some (.done none) => some .knownAbsent
  | some _ => none
  | none => session.reasonIn repository (session.pomExchange coordinate repository state.requests).outcome

theorem fetchPom_reason (state : State) :
    pomResult (.fetched (session.fetchPom { coordinate with repository := some repository.uri } repository state).1)
        = .ok (.error fault) ↔
      session.reasonIn repository (session.pomExchange coordinate repository state.requests).outcome = some fault := by
  have asked : { method := .get,
                 url := Layout.pom repository { coordinate with repository := some repository.uri },
                 auth := repository.auth } = pomRequest coordinate repository := rfl
  obtain ⟨after, sends⟩ : ∃ after, session.send Http.defaultContext (pomRequest coordinate repository) state =
      ((session.pomExchange coordinate repository state.requests).outcome, after) := ⟨_, rfl⟩
  unfold fetchPom
  dsimp only
  rw [bind_apply, asked, sends]
  cases (session.pomExchange coordinate repository state.requests).outcome with
  | error failed =>
    change (if failed.kind.isRequest then Except.ok (Except.error (DownloadFault.request failed))
      else Except.error (Failure.request failed)) = _ ↔ _
    cases request : failed.kind.isRequest <;> simp [reasonIn, request]
  | ok response =>
    dsimp only [reasonIn]
    cases success : response.isSuccess with
    | false =>
      change Except.ok (Except.error (DownloadFault.status response.status)) = _ ↔ _
      simp
    | true =>
      simp only [Bool.not_true, Bool.false_eq_true, if_false, if_true]
      cases Pom.read (.octets response.content) none (some repository) session.xml with
      | ok pom => constructor <;> intro same <;> cases same
      | error unread =>
        cases unread with
        | noArtifact =>
          change Except.ok (Except.error (DownloadFault.unreadable _)) = _ ↔ _
          simp
        | document raised =>
          cases raised with
          | malformed | unsupportedEncoding =>
            change Except.ok (Except.error (DownloadFault.unreadable _)) = _ ↔ _
            simp
          | unknownEncoding name => constructor <;> intro same <;> cases same

theorem pomFrom_reason (idle : state.poms.Idle) :
    (session.pomFrom { coordinate with repository := some repository.uri } repository state).1 = .ok (.error fault) ↔
      session.reason coordinate repository state = some fault := by
  cases known : state.poms.known { coordinate with repository := some repository.uri } with
  | some flight =>
    obtain ⟨found, rfl⟩ := idle _ _ known
    obtain ⟨_, gives, -⟩ := @pomFrom_of_done session state repository _ _ known
    rw [gives, reason, known]
    cases found <;> simp [pomResult]
  | none =>
    rw [reason, known, pomFrom_apply]
    dsimp only
    have missing : (pomRegion.cache state).known { coordinate with repository := some repository.uri } = none := known
    have kept := session.fetchPom_keeps { coordinate with repository := some repository.uri } repository
    obtain ⟨gives, -, -⟩ := Region.compute_learns pomRegion_besideRequests Except.toOption missing (kept _)
    rw [gives]
    exact fetchPom_reason _

/-! Whose failures say that a POM is missing. -/

/-- Whatever fails, it does not say that a POM is missing. -/
def Spares (m : StateM State (Except Failure α)) : Prop :=
  ∀ state coordinate faults, (m state).1 ≠ .error (.pomUnavailable coordinate faults)

theorem Spares.run_bind {m : Run α} {f : α → Run β} (first : Spares m.run) (next : ∀ a, Spares (f a).run) :
    Spares (m >>= f).run := by
  intro state coordinate faults
  rw [run_bind_apply]
  have spared := first state coordinate faults
  generalize m.run state = run at spared ⊢
  obtain ⟨result, after⟩ := run
  cases result with
  | ok a => exact next a after coordinate faults
  | error failure => exact fun same => spared (congrArg Except.error (Except.error.inj same))

theorem spares_pure (a : α) : Spares (pure a : Run α).run := fun _ _ _ => nofun

theorem spares_lift (m : StateM State α) : Spares (liftM m : Run α).run := fun _ _ _ => nofun

theorem spares_fetchMetadata (session : Session) (coordinate : Coordinate) (repository : Repository) :
    Spares (session.fetchMetadata coordinate repository).run := by
  unfold fetchMetadata
  refine (spares_lift _).run_bind fun outcome => ?_
  cases outcome with
  | error fault =>
    dsimp only
    split
    · exact (spares_lift _).run_bind fun _ => spares_pure _
    · exact fun _ _ _ => nofun
  | ok response =>
    dsimp only
    split
    · exact (spares_lift _).run_bind fun _ => spares_pure _
    · split
      · exact spares_pure _
      · exact (spares_lift _).run_bind fun _ => spares_pure _
      · exact fun _ _ _ => nofun

theorem spares_ask (session : Session) (coordinate : Coordinate) (repository : Repository) :
    Spares (session.ask coordinate repository).run := by
  intro state other faults
  rw [ask_apply]
  dsimp only
  rcases Region.compute_cases metadataRegion_besideRequests (repository.uri, coordinate) id
    (session.fetchMetadata coordinate repository).run 0 state with ⟨found, known, -⟩ | ⟨before, -, fetched, -⟩
  · rw [known]
    exact nofun
  · rw [fetched]
    exact session.spares_fetchMetadata coordinate repository before other faults

theorem Spares.run_mapM {f : α → Run β} (each : ∀ a, Spares (f a).run) (list : List α) :
    Spares (list.mapM f).run := by
  induction list with
  | nil => exact spares_pure _
  | cons a rest ih =>
    rw [List.mapM_cons]
    exact (each a).run_bind fun _ => ih.run_bind fun _ => spares_pure _

theorem spares_metadata (session : Session) (coordinate : Coordinate) (repositories : List Repository)
    (containing : Option Pom) : Spares (session.metadata coordinate repositories containing).run := by
  rw [metadata_eq]
  split
  · exact fun _ _ _ => nofun
  · exact (spares_lift _).run_bind fun _ =>
      (Spares.run_mapM (session.spares_ask coordinate) _).run_bind fun _ => spares_pure _

theorem spares_datedVersion (session : Session) (coordinate : Coordinate) (repositories : List Repository)
    (containing : Option Pom) : Spares (session.datedVersion coordinate repositories containing).run := by
  unfold datedVersion
  split
  · exact spares_pure _
  · split
    · exact spares_pure _
    · split
      · exact spares_pure _
      · exact (session.spares_metadata coordinate repositories containing).run_bind fun _ => spares_pure _

theorem spares_pomResult {result : Except Failure (Except DownloadFault Pom)} {coordinate : Coordinate}
    (spared : result ≠ .error (.pomUnavailable coordinate faults)) :
    pomResult (.fetched result) ≠ .error (.pomUnavailable coordinate faults) := by
  intro same
  unfold pomResult at same
  split at same
  · cases same
  · cases same
  · split at same <;> cases same
  · rename_i fetched
    exact spared (Computed.fetched.inj fetched ▸ same)

theorem spares_pomFrom (session : Session) (coordinate : ResolvedCoordinate) (repository : Repository) :
    Spares (session.pomFrom { coordinate with repository := some repository.uri } repository) := by
  intro state other faults
  rw [pomFrom_apply]
  dsimp only
  rcases Region.compute_cases pomRegion_besideRequests { coordinate with repository := some repository.uri }
    Except.toOption (session.fetchPom { coordinate with repository := some repository.uri } repository) 0 state
    with ⟨found, known, -⟩ | ⟨before, -, fetched, -⟩
  · rw [known]
    cases found <;> exact nofun
  · rw [fetched]
    refine spares_pomResult ?_
    have replied := session.fetchPom_of_reply coordinate repository before
    dsimp only at replied
    split at replied
    · rw [replied]
      exact nofun
    · split at replied
      · rw [replied]
        exact nofun
      · rcases replied with ⟨fault, faulty⟩ | ⟨-, name, -, failed⟩
        · rw [faulty]
          exact nofun
        · rw [failed]
          exact nofun

/-! A search. -/

/-- Repositories that are asked in turn and bring no POM, each for its reason. -/
inductive Failed (session : Session) (coordinate : ResolvedCoordinate) : State → DownloadFaults → State → Prop
  | start (state : State) : Failed session coordinate state [] state
  | turn {state last : State} {repository : Repository} {fault : DownloadFault} {faults : DownloadFaults}
    (reason : session.reason coordinate repository state = some fault)
    (rest : Failed session coordinate
      (session.pomFrom { coordinate with repository := some repository.uri } repository state).2 faults last) :
    Failed session coordinate state ((repository, fault) :: faults) last

/-- A search asks repositories until one of them does not just fail. If none is left, it says what became of
all of them. -/
theorem downloadFrom_failed (idle : state.poms.Idle) (earlier : DownloadFaults) (repositories : List Repository) :
    let run := session.downloadFrom coordinate earlier repositories state
    ∃ faults reached, session.Failed coordinate state faults reached ∧ run.1.faults = earlier ++ faults ∧
      (faults.map Prod.fst = repositories ∧
          run.1.outcome = .error (.pomUnavailable coordinate.coordinate (earlier ++ faults)) ∨
        ∃ repository rest, repositories = faults.map Prod.fst ++ repository :: rest ∧
          let turn := session.pomFrom { coordinate with repository := some repository.uri } repository reached
          ((∃ pom, turn.1 = .ok (.ok pom) ∧ run.1.outcome = .ok pom) ∨
            ∃ failure, turn.1 = .error failure ∧ run.1.outcome = .error failure)) := by
  induction repositories generalizing earlier state with
  | nil =>
    refine ⟨[], state, .start state, (List.append_nil _).symm, .inl ⟨rfl, ?_⟩⟩
    rw [List.append_nil]
    rfl
  | cons repository rest ih =>
    have reasoned (fault : DownloadFault) := @pomFrom_reason session state repository fault coordinate idle
    obtain ⟨idleNow, -⟩ :=
      session.pomFrom_extends { coordinate with repository := some repository.uri } repository idle
    rw [downloadFrom_cons]
    cases turn : session.pomFrom { coordinate with repository := some repository.uri } repository state with
    | mk result after =>
      match result with
      | .ok (.ok pom) =>
        refine ⟨[], state, .start state, (List.append_nil _).symm, .inr ⟨repository, rest, rfl, ?_⟩⟩
        exact .inl ⟨pom, by rw [turn], rfl⟩
      | .error failure =>
        refine ⟨[], state, .start state, (List.append_nil _).symm, .inr ⟨repository, rest, rfl, ?_⟩⟩
        exact .inr ⟨failure, by rw [turn], rfl⟩
      | .ok (.error fault) =>
        rw [turn] at reasoned idleNow
        obtain ⟨faults, reached, failed, collected, ends⟩ := ih idleNow (earlier ++ [(repository, fault)])
        have here := (reasoned fault).mp rfl
        refine ⟨(repository, fault) :: faults, reached, .turn here (turn ▸ failed), ?_, ?_⟩
        · rw [collected, List.append_assoc, List.singleton_append]
        · rcases ends with ⟨all, unavailable⟩ | ⟨provider, behind, split, ends⟩
          · refine .inl ⟨by rw [List.map_cons, all], ?_⟩
            rw [unavailable, List.append_assoc, List.singleton_append]
          · exact .inr ⟨provider, behind, by rw [List.map_cons, List.cons_append, ← split], ends⟩

/-! Whole calls. -/

theorem searched_nodup (session : Session) (repositories : List Repository) (containing : Option Pom)
    (version : Option String) (state : State) :
    ((session.searched repositories containing version state).1.map Repository.identity).Nodup := by
  rw [searched_distinct]
  exact (Repository.firsts_distinct _).nodup

theorem message_pomUnavailable (coordinate : Coordinate) {faults : DownloadFaults} {repositories : List Repository}
    {reasons : List DownloadFault} (paired : faults = repositories.zip reasons) :
    (Failure.pomUnavailable coordinate faults).message =
      "Unable to download dependency " ++ coordinate.text ++ " from any of these repositories: \n" ++
        "\n".intercalate (repositories.zipWith (fun repository reason => "    Id: " ++ Text.shown repository.id ++
          ", URL: " ++ repository.uri ++ ", cause: " ++ reason.message) reasons) := by
  subst paired
  refine congrArg (fun lines => _ ++ "\n".intercalate lines) ?_
  rw [List.map_zip_eq_zipWith]
  rfl

/-- A call that comes to no search notes nothing; one that searches ends as its search does. -/
theorem download_failed (orderly : session.Orderly state) (coordinate : Coordinate) (relativePath : Option String)
    (repositories : List Repository) :
    let run := session.download coordinate relativePath containing repositories state
    let dating := (session.datedVersion coordinate repositories containing).run state
    let searching := session.searched repositories containing coordinate.version dating.2
    let own := dating.2.ownPom? coordinate relativePath containing
    (run.1.faults = [] ∧ (∀ named faults, run.1.outcome ≠ .error (.pomUnavailable named faults)) ∧
      ∀ pom, run.1.outcome = .ok pom → own = some pom) ∨
    own = none ∧ ∃ asked reached, asked.coordinate = coordinate ∧
      session.Failed asked searching.2 run.1.faults reached ∧
      (run.1.faults.map Prod.fst = searching.1 ∧
          run.1.outcome = .error (.pomUnavailable coordinate run.1.faults) ∨
        ∃ provider behind, searching.1 = run.1.faults.map Prod.fst ++ provider :: behind ∧
          let turn := session.pomFrom { asked with repository := some provider.uri } provider reached
          ((∃ pom, turn.1 = .ok (.ok pom) ∧ run.1.outcome = .ok pom) ∨
            ∃ failure, turn.1 = .error failure ∧ run.1.outcome = .error failure)) := by
  intro run dating searching own
  cases completed : complete? coordinate with
  | none =>
    have refused : run = ({ outcome := .error (.missingCoordinate coordinate) }, state) := by
      unfold run download
      rw [completed]
      rfl
    rw [refused]
    exact .inl ⟨rfl, fun _ _ => nofun, fun _ => nofun⟩
  | some complete =>
    have whole : complete.coordinate = coordinate := coordinate_of_complete? completed
    have versioned : coordinate.version = some complete.version := by rw [← whole]; rfl
    have applied : run = _ := download_apply completed relativePath containing repositories state
    have spared := session.spares_datedVersion coordinate repositories containing state
    have grows := session.serving_grows
    have orderlyNow := (grows.datedVersion coordinate repositories containing state).orderly orderly
    have orderlyThen := (grows.searched repositories containing coordinate.version dating.2).orderly orderlyNow
    clear_value run
    subst run
    dsimp only [searching, own, dating] at orderlyThen ⊢
    rw [versioned] at orderlyThen ⊢
    generalize (session.datedVersion coordinate repositories containing).run state = dated at *
    obtain ⟨result, after⟩ := dated
    cases result with
    | error failure =>
      refine .inl ⟨rfl, fun named faults same => ?_, fun _ => nofun⟩
      exact spared named faults (congrArg Except.error (Except.error.inj same))
    | ok dated =>
      dsimp only at orderlyThen ⊢
      cases after.ownPom? coordinate relativePath containing with
      | some pom => exact .inl ⟨rfl, fun _ _ => nofun, fun other same => congrArg some (Except.ok.inj same)⟩
      | none =>
        dsimp only
        let asked := { complete with dated := dated.filter fun dated => !dated.isEmpty && dated != complete.version }
        obtain ⟨faults, reached, failed, noted, ends⟩ :=
          @downloadFrom_failed session _ asked orderlyThen.poms []
            (session.searched repositories containing (some complete.version) after).1
        rw [List.nil_append] at noted ends
        refine .inr ⟨rfl, asked, reached, whole, ?_, ?_⟩
        · exact noted ▸ failed
        · rw [noted]
          refine ends.imp_left fun ⟨all, unavailable⟩ => ⟨all, ?_⟩
          rw [← whole]
          exact unavailable

/-- Whatever a session has been asked for before, a call that finds no POM names every repository that it has
searched, once and in order, each with the reason that its own turn gave; a call that gets a POM from a
repository has noted those that were asked before it; and a call that gets a POM of the project has noted
none. -/
theorem download_reports (session : Session) (own : List (Path × Pom)) (files : Files) (operations : List Operation)
    (coordinate : Coordinate) (relativePath : Option String) (containing : Option Pom)
    (repositories : List Repository) :
    let state := session.reached { fresh own with files } operations
    let run := session.download coordinate relativePath containing repositories state
    let dating := (session.datedVersion coordinate repositories containing).run state
    let searching := session.searched repositories containing coordinate.version dating.2
    (searching.1.map Repository.identity).Nodup ∧
    (∀ named faults, run.1.outcome = .error (.pomUnavailable named faults) →
      named = coordinate ∧ run.1.faults = faults ∧ ∃ asked reached reasons,
        asked.coordinate = coordinate ∧ session.Failed asked searching.2 faults reached ∧
        reasons.length = searching.1.length ∧ faults = searching.1.zip reasons ∧
        (Failure.pomUnavailable named faults).message =
          "Unable to download dependency " ++ coordinate.text ++ " from any of these repositories: \n" ++
            "\n".intercalate (searching.1.zipWith (fun repository reason => "    Id: " ++
              Text.shown repository.id ++ ", URL: " ++ repository.uri ++ ", cause: " ++ reason.message) reasons)) ∧
    ∀ pom, run.1.outcome = .ok pom →
      dating.2.ownPom? coordinate relativePath containing = some pom ∧ run.1.faults = [] ∨
      dating.2.ownPom? coordinate relativePath containing = none ∧ ∃ asked reached provider behind,
        asked.coordinate = coordinate ∧ session.Failed asked searching.2 run.1.faults reached ∧
        searching.1 = run.1.faults.map Prod.fst ++ provider :: behind ∧
        (session.pomFrom { asked with repository := some provider.uri } provider reached).1 = .ok (.ok pom) := by
  intro state run dating searching
  refine ⟨session.searched_nodup repositories containing coordinate.version dating.2, ?_⟩
  have orderly : session.Orderly state := (session.orderly_fresh own files).reached operations
  obtain ⟨none, spared, own⟩ | ⟨unowned, asked, reached, whole, failed, ends⟩ :=
    @download_failed session state containing orderly coordinate relativePath repositories
  · exact ⟨fun named faults same => absurd same (spared named faults),
      fun pom provides => .inl ⟨own pom provides, none⟩⟩
  · refine ⟨fun named faults same => ?_, fun pom provides => .inr ⟨unowned, ?_⟩⟩
    · rcases ends with ⟨all, unavailable⟩ | ⟨provider, behind, -, ⟨pom, -, other⟩ | ⟨failure, turn, other⟩⟩
      · obtain ⟨rfl, rfl⟩ := Failure.pomUnavailable.inj (Except.error.inj (unavailable.symm.trans same))
        have paired : run.1.faults = searching.1.zip (run.1.faults.map Prod.snd) := List.zip_of_prod all rfl
        refine ⟨rfl, rfl, asked, reached, run.1.faults.map Prod.snd, whole, failed, ?_, paired, ?_⟩
        · rw [← all, List.length_map, List.length_map]
        · exact message_pomUnavailable coordinate paired
      · cases other.symm.trans same
      · refine absurd ?_ (session.spares_pomFrom asked provider reached named faults)
        exact turn.trans (congrArg Except.error (Except.error.inj (other.symm.trans same)))
    · rcases ends with ⟨-, unavailable⟩ | ⟨provider, behind, split, ⟨found, turn, other⟩ | ⟨failure, -, other⟩⟩
      · cases unavailable.symm.trans provides
      · obtain rfl := Except.ok.inj (other.symm.trans provides)
        exact ⟨asked, reached, provider, behind, whole, failed, split, turn⟩
      · cases other.symm.trans provides

/-- Of two repositories that have no POM the first was asked before. -/
theorem download_reports_again :
    let session : Session :=
      { transport := Http.Transport.ofConfiguration {}, includesCentral := false
        server := fun _ _ => .ok { status := 404 } }
    let coordinate : Coordinate := ⟨some "org.example", some "lib", some "1.0"⟩
    let first : Repository := { id := some "a", uri := "https://a.example", knownToExist := true }
    let second : Repository := { id := some "b", uri := "https://b.example", knownToExist := true }
    let state := session.reached { fresh [] with files := {} } [.download coordinate none none [first]]
    let run := session.download coordinate none none [first, second] state
    run.1.outcome matches .error (.pomUnavailable _ _) ∧
      ∀ named faults, run.1.outcome = .error (.pomUnavailable named faults) →
        faults = [(first, .knownAbsent), (second, .status 404)] ∧
        ∃ asked start reached, asked.coordinate = coordinate ∧ session.Failed asked start faults reached := by
  intro session coordinate first second state run
  have noted : run.1.faults = [(first, .knownAbsent), (second, .status 404)] := by decide +kernel
  refine ⟨by decide +kernel, fun named faults unavailable => ?_⟩
  obtain ⟨-, reports, -⟩ := session.download_reports [] {} [.download coordinate none none [first]] coordinate
    none none [first, second]
  -- Nothing needs to be evaluated from here on.
  clear_value session
  obtain ⟨rfl, same, asked, reached, -, whole, failed, -⟩ := reports named faults unavailable
  exact ⟨same.symm.trans noted, asked, _, reached, whole, failed⟩

end MavenResolution.Session
