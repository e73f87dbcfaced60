import MavenResolution.Proofs.Session.Acceptance
import MavenResolution.Proofs.Session.ParallelSearch

/-! Alike sessions search side by side for POMs. -/
namespace MavenResolution.Session

variable {change : UserChange} {session session' : Session}

section

variable {containing containing' : Option Pom}
  (models : Option.Rel (Pom.Declares change) containing containing')

include models

theorem ownPom?_alike {state state' : State} (states : state.Alike change state')
    (coordinate : Coordinate) (relativePath : Option String) :
    Option.Rel (Pom.Alike change) (state.ownPom? coordinate relativePath containing)
      (state'.ownPom? coordinate relativePath containing') := by
  have same (entry entry' : Path × Pom) (alike : PairRel Eq (Pom.Alike change) entry entry') :=
    alike.2.isFor_eq coordinate
  have looked (path : Path) :
      Option.Rel (Pom.Alike change) (state.projectPom? path) (state'.projectPom? path) :=
    lookup_rel .eq states.projectPoms rfl
  have scanned := option_rel_map (find?_rel same states.projectPoms) fun _ _ alike => alike.2
  refine option_rel_orElse scanned (option_rel_bind models fun model model' declares => ?_)
  refine option_rel_bind (option_rel_eq_iff.mpr rfl) ?_
  rintro text _ rfl
  have place : referredPath model text = referredPath model' text := by
    rw [referredPath, referredPath, declares.sourcePath]
  refine option_rel_bind (option_rel_eq_iff.mpr place) ?_
  rintro path _ rfl
  refine option_rel_bind (looked path) fun pom pom' alike => ?_
  rw [alike.isFor_eq]
  exact option_rel_bind (option_rel_eq_iff.mpr rfl) fun _ _ _ => .some alike

end

/-- The project POM of a coordinate, or the one that repositories serve. -/
def ownOrProvided (session : Session) (key : ResolvedCoordinate) (containing : Option Pom)
    (repositories : List Repository) : Option Pom → StateM State Download
  | some pom => return { outcome := .ok pom }
  | none => do
    let searched ← session.searched repositories containing (some key.version)
    session.downloadFrom key [] searched

/-- What becomes of a download once the version has been dated, or could not be. -/
def concludeDownload (session : Session) (coordinate : Coordinate) (complete : ResolvedCoordinate)
    (relativePath : Option String) (containing : Option Pom) (repositories : List Repository) :
    Except Failure (Option String) → StateM State Download
  | .error failure => return { outcome := .error failure }
  | .ok found => do
    let dated := found.filter fun dated => !dated.isEmpty && dated != complete.version
    let own := (← get).ownPom? coordinate relativePath containing
    session.ownOrProvided { complete with dated } containing repositories own

theorem download_eq_bind (session : Session) {coordinate : Coordinate} {complete : ResolvedCoordinate}
    (completed : complete? coordinate = some complete) (relativePath : Option String)
    (containing : Option Pom) (repositories : List Repository) :
    session.download coordinate relativePath containing repositories = (do
      let found ← (session.datedVersion coordinate repositories containing).run
      session.concludeDownload coordinate complete relativePath containing repositories found) := by
  funext state
  rw [download_apply completed, bind_apply]
  generalize (session.datedVersion coordinate repositories containing).run state = dating
  obtain ⟨result, after⟩ := dating
  cases result with
  | error failure => rfl
  | ok found =>
    dsimp only [concludeDownload]
    rw [bind_apply]
    change _ = session.ownOrProvided _ containing repositories
      (after.ownPom? coordinate relativePath containing) after
    cases after.ownPom? coordinate relativePath containing with
    | some pom => rfl
    | none => rfl

theorem ownOrProvided_continues (session : Session) (key : ResolvedCoordinate)
    (containing : Option Pom) (repositories : List Repository) (own : Option Pom) :
    Keeps Continues (session.ownOrProvided key containing repositories own) := by
  have composes := composes_sent fun _ => True
  cases own with
  | some pom => exact composes.pure _
  | none =>
    exact composes.bind (continues_of_sent (session.searched_sent repositories containing _))
      fun searched => continues_of_sent (session.downloadFrom_sent key [] searched)

theorem concludeDownload_continues (session : Session) (coordinate : Coordinate)
    (complete : ResolvedCoordinate) (relativePath : Option String) (containing : Option Pom)
    (repositories : List Repository) (result : Except Failure (Option String)) :
    Keeps Continues (session.concludeDownload coordinate complete relativePath containing repositories
      result) := by
  have composes := composes_sent fun _ => True
  cases result with
  | error failure => exact composes.pure _
  | ok found =>
    exact composes.bind (fun _ => .of_same rfl) fun _ =>
      session.ownOrProvided_continues _ containing repositories _

theorem pomResult_alike {computed computed' : Computed Failure (Except DownloadFault Pom) Pom}
    (related : ComputedRel (Pom.Alike change)
      (ExceptRel (Failure.Alike change) (ExceptRel Eq (Pom.Alike change))) computed computed') :
    ExceptRel (Failure.Alike change) (ExceptRel Eq (Pom.Alike change)) (pomResult computed)
      (pomResult computed') := by
  cases related with
  | known outcomes =>
    cases outcomes with
    | none => exact .ok (.error rfl)
    | some poms => exact .ok (.ok poms)
  | fetched results =>
    cases results with
    | ok found => exact .ok found
    | @error failure _ failures =>
      -- Only a fault of the request is taken for an answer, and that is the same in both runs.
      have alike := failures
      cases failures with
      | same =>
        cases failure with
        | request fault =>
          rw [pomResult]
          split
          · exact .ok (.error rfl)
          · exact .error alike
        | _ => exact .error alike
      | _ => exact .error alike

variable (sessions : session.Alike change session')

include sessions

section

variable {coordinate coordinate' : ResolvedCoordinate} (coordinates : coordinate.Alike change coordinate')
  {repository repository' : Repository} (repositories : repository.Alike change repository')

include coordinates repositories

theorem parallel_fetchPom :
    Parallel change session session'
      (ExceptRel (Failure.Alike change) (ExceptRel Eq (Pom.Alike change)))
      (session.fetchPom coordinate repository) (session'.fetchPom coordinate' repository') := by
  have same : Redaction.safeUrl (Layout.pom repository coordinate) =
      Redaction.safeUrl (Layout.pom repository' coordinate') :=
    Layout.safeUrl_file_eq repositories coordinates "pom"
  have shown : Http.Request.ShownAlike
      { method := .get, url := Layout.pom repository coordinate, auth := repository.auth }
      { method := .get, url := Layout.pom repository' coordinate', auth := repository'.auth } :=
    ⟨rfl, same⟩
  unfold fetchPom
  dsimp only
  rw [same]
  refine (parallel_send sessions _ shown).bind_same fun outcome => ?_
  cases outcome with
  | error fault => exact .pure (.error (.same _))
  | ok response =>
    dsimp only
    split
    · exact (parallel_note (.same _)).bind_same fun _ => .pure (.ok (.error rfl))
    · obtain ⟨fault, read, read'⟩ | ⟨pom, pom', read, read', poms⟩ :=
        Pom.read_alike session'.xml (.octets response.content) none repositories
      · rw [sessions.xml, read, read']
        cases fault with
        | noArtifact => exact .pure (.ok (.error rfl))
        | document fault =>
          cases fault with
          | unknownEncoding name => exact .pure (.error (.same _))
          | malformed | unsupportedEncoding => exact .pure (.ok (.error rfl))
      · rw [sessions.xml, read, read']
        exact (parallel_note (.same _)).bind_same fun _ =>
          .pure (.ok (.ok { poms with coordinate := coordinates }))

theorem parallel_pomFrom :
    Parallel change session session'
      (ExceptRel (Failure.Alike change) (ExceptRel Eq (Pom.Alike change)))
      (session.pomFrom coordinate repository) (session'.pomFrom coordinate' repository') := by
  have outcomes (found found' : Except DownloadFault Pom)
      (related : ExceptRel Eq (Pom.Alike change) found found') :
      Option.Rel (Pom.Alike change) found.toOption found'.toOption := by
    cases related with
    | error faults => exact .none
    | ok poms => exact .some poms
  have computed := parallel_compute (pomRegion_alike change) coordinates outcomes
    (parallel_fetchPom sessions coordinates repositories)
  have whole (session : Session) (coordinate : ResolvedCoordinate) (repository : Repository) :
      session.pomFrom coordinate repository = pomResult <$>
        pomRegion.compute coordinate Except.toOption (session.fetchPom coordinate repository) :=
    funext fun state => pomFrom_apply session coordinate repository state
  rw [whole, whole]
  exact (computed.mono fun _ _ => pomResult_alike).map

end

/-- Searches that come to the same. -/
structure DownloadAlike (change : UserChange) (download download' : Download) : Prop where
  outcome : ExceptRel (Failure.Alike change) (Pom.Alike change) download.outcome download'.outcome
  faults : DownloadFaults.Alike change download.faults download'.faults

theorem parallel_downloadFrom {coordinate coordinate' : ResolvedCoordinate}
    (coordinates : coordinate.Alike change coordinate') {repositories repositories' : List Repository}
    (alike : List.Forall₂ (Repository.Alike change) repositories repositories')
    {faults faults' : DownloadFaults} (tried : DownloadFaults.Alike change faults faults') :
    Parallel change session session' (DownloadAlike change)
      (session.downloadFrom coordinate faults repositories)
      (session'.downloadFrom coordinate' faults' repositories') := by
  have composes := composes_sent fun _ => True
  induction alike generalizing faults faults' with
  | nil =>
    have same := coordinates.coordinate_eq
    rw [downloadFrom, downloadFrom, same]
    exact .pure ⟨.error (.pomUnavailable _ tried), tried⟩
  | @cons repository repository' rest rest' first _ ih =>
    have located : ResolvedCoordinate.Alike change
        { coordinate with repository := some repository.uri }
        { coordinate' with repository := some repository'.uri } :=
      { coordinates with repository := .some first.uri }
    rw [downloadFrom, downloadFrom]
    refine (parallel_pomFrom sessions located first).bind ?_ ?_ fun result result' results => ?_
    · intro result
      cases result with
      | error failure => exact composes.pure _
      | ok answer =>
        cases answer with
        | ok pom => exact composes.pure _
        | error fault => exact continues_of_sent (session.downloadFrom_sent coordinate _ rest)
    · intro result
      cases result with
      | error failure => exact composes.pure _
      | ok answer =>
        cases answer with
        | ok pom => exact composes.pure _
        | error fault => exact continues_of_sent (session'.downloadFrom_sent coordinate' _ rest')
    · cases results with
      | error failures => exact .pure ⟨.error failures, tried⟩
      | ok found =>
        cases found with
        | ok poms => exact .pure ⟨.ok poms, tried⟩
        | @error fault fault' same =>
          exact ih (List.rel_append tried (.cons ⟨first, same⟩ .nil))

section

variable {containing containing' : Option Pom}
  (models : Option.Rel (Pom.Declares change) containing containing')
  {repositories repositories' : List Repository}
  (alike : List.Forall₂ (Repository.Alike change) repositories repositories')

include models alike

theorem parallel_ownOrProvided {key key' : ResolvedCoordinate} (keys : key.Alike change key')
    {own own' : Option Pom} (owns : Option.Rel (Pom.Alike change) own own') :
    Parallel change session session' (DownloadAlike change)
      (session.ownOrProvided key containing repositories own)
      (session'.ownOrProvided key' containing' repositories' own') := by
  cases owns with
  | some poms => exact .pure ⟨.ok poms, .nil⟩
  | none =>
    rw [ownOrProvided, ownOrProvided, keys.version]
    exact (parallel_searched sessions models alike _).bind
      (fun searched => continues_of_sent (session.downloadFrom_sent key [] searched))
      (fun searched => continues_of_sent (session'.downloadFrom_sent key' [] searched))
      fun searched searched' same => parallel_downloadFrom sessions keys same .nil

theorem parallel_download (coordinate : Coordinate) (relativePath : Option String) :
    Parallel change session session' (DownloadAlike change)
      (session.download coordinate relativePath containing repositories)
      (session'.download coordinate relativePath containing' repositories') := by
  cases completed : complete? coordinate with
  | none =>
    unfold download
    rw [completed]
    exact .pure ⟨.error (.same _), .nil⟩
  | some complete =>
    rw [download_eq_bind session completed, download_eq_bind session' completed]
    refine (parallel_datedVersion sessions models alike coordinate).bind
      (session.concludeDownload_continues coordinate complete relativePath containing repositories)
      (session'.concludeDownload_continues coordinate complete relativePath containing' repositories')
      fun result result' results => ?_
    cases results with
    | error failures => exact .pure ⟨.error failures, .nil⟩
    | @ok found _ same =>
      subst same
      let dated := found.filter fun dated => !dated.isEmpty && dated != complete.version
      have keys : ResolvedCoordinate.Alike change { complete with dated } { complete with dated } := by
        refine ⟨?_, rfl, rfl, rfl, rfl⟩
        dsimp only
        rw [repository_of_complete? completed]
        exact .none
      exact parallel_get.bind (fun _ => session.ownOrProvided_continues _ containing repositories _)
        (fun _ => session'.ownOrProvided_continues _ containing' repositories' _) fun state state' states =>
          parallel_ownOrProvided sessions models alike keys
            (ownPom?_alike models states coordinate relativePath)

end

end MavenResolution.Session
