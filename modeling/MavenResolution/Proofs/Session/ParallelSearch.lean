import MavenResolution.Proofs.Session.Parallel

/-! Alike sessions normalize repositories and download metadata side by side. -/
namespace MavenResolution.Session

variable {change : UserChange} {session session' : Session}

/-- Maven Central as normalized, where it is searched. -/
def normalizeCentral (session : Session) (containing : Option Pom) :
    StateM State (Option Repository) :=
  if session.includesCentral then session.normalize session.configuration.central containing
  else pure none

theorem searched_eq_bind (session : Session) (repositories : List Repository)
    (containing : Option Pom) (version : Option String) :
    session.searched repositories containing version = (do
      let forms ← repositories.mapM (session.normalize · containing)
      let central ← session.normalizeCentral containing
      return Repository.distinct ((forms.filterMap id).filter (fun repository =>
        (version.map repository.accepts).getD true) ++ central.toList)) := by
  unfold searched normalizeCentral
  cases session.includesCentral <;> rfl

variable (sessions : session.Alike change session')

include sessions

/-! The region of normalized repositories; `none` is an unreachable one. -/

section

variable {repository repository' : Repository} (repositories : repository.Alike change repository')

theorem parallel_isReachable (repository repository' : Repository) {uri uri' : String}
    (related : change.relates uri uri') :
    Parallel change session session' (ExceptRel Eq Eq) (session.isReachable repository uri)
      (session'.isReachable repository' uri') := by
  have shown : Http.Request.ShownAlike { method := .head, url := uri, auth := repository.auth }
      { method := .head, url := uri', auth := repository'.auth } :=
    ⟨rfl, UserChange.safeUrl_eq related⟩
  refine (parallel_send sessions _ shown).bind_same fun outcome => ?_
  cases outcome with
  | ok response => exact .pure (.ok rfl)
  | error fault =>
    dsimp only
    split
    · exact .pure (.ok rfl)
    · exact .pure (.error rfl)

include repositories

theorem parallel_answeringForm :
    Parallel change session session' (ExceptRel Eq (Option.Rel (Repository.Alike change)))
      (session.answeringForm repository).run (session'.answeringForm repository').run := by
  have secured := change.secured repositories.uri
  refine (parallel_isReachable sessions repository repository' secured).run_bind_same fun secure => ?_
  cases secure with
  | true => exact .pure (.ok (.some (repositories.withUri secured)))
  | false =>
    -- A plain URL is left to try in both runs or in neither.
    have already := UserChange.secureUri_eq_iff repositories.uri
    by_cases same : Repository.secureUri repository.uri = repository.uri
    · rw [if_pos same, if_pos (already.mp same)]
      exact .pure (.ok .none)
    · rw [if_neg same, if_neg (fun other => same (already.mpr other))]
      have plain := parallel_isReachable sessions repository repository' repositories.uri
      refine plain.run_bind_same fun reached => ?_
      cases reached with
      | true => exact .pure (.ok (.some repositories))
      | false => exact .pure (.ok .none)

theorem parallel_probe :
    Parallel change session session' (ExceptRel Eq (Option.Rel (Repository.Alike change)))
      (session.probe repository).run (session'.probe repository').run := by
  have noting := noting_sent fun _ => True
  have told (entry : Log.Entry) (found : Option Repository) :
      Keeps Continues (do note entry; return found : ExceptT Http.Fault (StateM State) _).run :=
    noting.run_bind (fun _ => .of_same rfl) fun _ => noting.pure _
  refine (parallel_answeringForm sessions repositories).run_bind ?_ ?_ fun found found' forms => ?_
  · intro found
    cases found <;> exact told _ _
  · intro found
    cases found <;> exact told _ _
  · cases forms with
    | none =>
      have entries : probed "unreachable" repository.uri = probed "unreachable" repository'.uri := by
        rw [probed, probed, UserChange.safeUrl_eq repositories.uri]
      dsimp only
      rw [entries]
      exact (parallel_note (.same _)).run_lift.run_bind_same fun _ => .pure (.ok .none)
    | @some form form' forms =>
      have entries : probed "reachable" form.uri = probed "reachable" form'.uri := by
        rw [probed, probed, UserChange.safeUrl_eq forms.uri]
      dsimp only
      rw [entries]
      exact (parallel_note (.same _)).run_lift.run_bind_same fun _ => .pure (.ok (.some forms))

theorem parallel_probeOrReport :
    Parallel change session session' (ExceptRel Eq (Option.Rel (Repository.Alike change)))
      (session.probeOrReport repository) (session'.probeOrReport repository') := by
  have composes := composes_sent fun _ => True
  refine (parallel_probe sessions repositories).bind ?_ ?_ fun result result' results => ?_
  · intro result
    cases result with
    | ok found => exact composes.pure _
    | error fault => exact composes.bind (session.report_sent _) fun _ => composes.pure _
  · intro result
    cases result with
    | ok found => exact composes.pure _
    | error fault => exact composes.bind (session'.report_sent _) fun _ => composes.pure _
  · cases results with
    | ok forms => exact .pure (.ok forms)
    | @error fault fault' same =>
      have failures := Failure.Alike.notNormalized fault'.message repositories
      rw [same]
      exact (parallel_report sessions failures).bind_same fun _ => .pure (.ok .none)

end

section

variable {containing containing' : Option Pom}
  (models : Option.Rel (Pom.Declares change) containing containing')

include models

theorem declared_alike {repository repository' : Repository}
    (repositories : repository.Alike change repository') :
    (session.declared repository containing).Alike change (session'.declared repository' containing') :=
  ((Mirror.apply_alike sessions.mirrors repositories).withCredentials session.credentials
    session'.credentials).expand models

theorem parallel_normalize {repository repository' : Repository}
    (repositories : repository.Alike change repository') :
    Parallel change session session' (Option.Rel (Repository.Alike change))
      (session.normalize repository containing) (session'.normalize repository' containing') := by
  have composes := composes_sent fun _ => True
  have declared := declared_alike sessions models repositories
  unfold normalize
  dsimp only
  rw [← declared.knownToExist]
  split
  · exact .pure (.some declared)
  · have probed := parallel_probeOrReport sessions declared
    refine (parallel_compute (normalizedRegion_alike change) declared.identity (fun _ _ same => same)
      probed).bind ?_ ?_ fun computed computed' alike => ?_
    · intro computed
      split
      exact composes.pure _
    · intro computed
      split
      exact composes.pure _
    · have outcomes := alike.outcome
      generalize computed.outcome = outcome at outcomes ⊢
      generalize computed'.outcome = outcome' at outcomes ⊢
      cases outcomes with
      | error fault => exact nomatch fault
      | ok forms =>
        cases forms with
        | none => exact .pure .none
        | some form => exact .pure (.some (form.withCredentials _ _))

theorem parallel_searched {repositories repositories' : List Repository}
    (alike : List.Forall₂ (Repository.Alike change) repositories repositories')
    (version : Option String) :
    Parallel change session session' (List.Forall₂ (Repository.Alike change))
      (session.searched repositories containing version)
      (session'.searched repositories' containing' version) := by
  have composes := composes_sent fun _ => True
  have centralForm : Parallel change session session' (Option.Rel (Repository.Alike change))
      (session.normalizeCentral containing) (session'.normalizeCentral containing') := by
    unfold normalizeCentral
    rw [← sessions.includesCentral]
    split
    · rename_i included
      have central : session.configuration.central.Alike change session'.configuration.central :=
        ⟨rfl, sessions.centralUri included, rfl, rfl, rfl⟩
      exact parallel_normalize sessions models central
    · exact .pure .none
  have each (repository repository' : Repository) (same : repository.Alike change repository') :=
    parallel_normalize sessions models same
  have forms := Parallel.mapM each alike
  rw [searched_eq_bind, searched_eq_bind]
  refine forms.bind ?_ ?_ fun forms forms' alikeForms => ?_
  · intro forms
    exact composes.bind centralForm.continues fun _ => composes.pure _
  · intro forms
    exact composes.bind centralForm.continues' fun _ => composes.pure _
  · refine centralForm.bind (fun _ => composes.pure _) (fun _ => composes.pure _)
      fun form form' last => ?_
    have found := List.rel_filterMap (fun _ _ same => same) alikeForms
    have accepts : ∀ form form' : Repository, form.Alike change form' →
        (((version.map form.accepts).getD true) ↔ ((version.map form'.accepts).getD true)) := by
      intro form form' same
      cases version with
      | none => simp
      | some version => simp [same.accepts_eq]
    have accepting := List.rel_filter (fun form form' same => accepts form form' same) found
    have behind : List.Forall₂ (Repository.Alike change) form.toList form'.toList := by
      cases last with
      | none => exact .nil
      | some last => exact .cons last .nil
    exact .pure (Repository.distinct_alike (List.rel_append accepting behind))

end

/-! Metadata, and the dated versions that they tell. -/

theorem parallel_fetchMetadata (coordinate : Coordinate) {repository repository' : Repository}
    (repositories : repository.Alike change repository') :
    Parallel change session session' (ExceptRel (Failure.Alike change) Eq)
      (session.fetchMetadata coordinate repository).run
      (session'.fetchMetadata coordinate repository').run := by
  have same := Layout.safeUrl_metadata_eq repositories coordinate
  have shown : Http.Request.ShownAlike
      { method := .get, url := Layout.metadata repository coordinate, auth := repository.auth }
      { method := .get, url := Layout.metadata repository' coordinate, auth := repository'.auth } :=
    ⟨rfl, same⟩
  have reported (cause : String) :=
    parallel_report sessions (.metadataUnavailable coordinate cause repositories)
  refine (parallel_send sessions _ shown).run_lift.run_bind_same fun outcome => ?_
  cases outcome with
  | error fault =>
    dsimp only
    split
    · exact (reported _).run_lift.run_bind_same fun _ => .pure (.ok rfl)
    · exact .pure (.error (.same _))
  | ok response =>
    dsimp only
    split
    · rw [same]
      exact (parallel_note (.same _)).run_lift.run_bind_same fun _ => .pure (.ok rfl)
    · rw [sessions.xml]
      split
      · exact .pure (.ok rfl)
      · exact (reported _).run_lift.run_bind_same fun _ => .pure (.ok rfl)
      · exact .pure (.error (.same _))

theorem parallel_ask (coordinate : Coordinate) {repository repository' : Repository}
    (repositories : repository.Alike change repository') :
    Parallel change session session' (ExceptRel (Failure.Alike change) Eq)
      (session.ask coordinate repository).run (session'.ask coordinate repository').run := by
  have key : PairRel change.relates Eq (repository.uri, coordinate) (repository'.uri, coordinate) :=
    ⟨repositories.uri, rfl⟩
  exact parallel_outcome (metadataRegion_alike change) key
    (parallel_fetchMetadata sessions coordinate repositories)

theorem pinnedVersion?_eq (coordinate : Coordinate) :
    session.pinnedVersion? coordinate = session'.pinnedVersion? coordinate := by
  have pinned := sessions.pinned
  unfold pinnedVersion?
  generalize session.pinned = laid at pinned ⊢
  generalize session'.pinned = laid' at pinned ⊢
  induction pinned with
  | nil => rfl
  | cons first _ ih =>
    rw [List.findSome?_cons, List.findSome?_cons, first.coordinate_eq, first.dated, ih]

section

variable {containing containing' : Option Pom}
  (models : Option.Rel (Pom.Declares change) containing containing')
  {repositories repositories' : List Repository}
  (alike : List.Forall₂ (Repository.Alike change) repositories repositories')

include models alike

theorem parallel_metadata (coordinate : Coordinate) :
    Parallel change session session' (ExceptRel (Failure.Alike change) Eq)
      (session.metadata coordinate repositories containing).run
      (session'.metadata coordinate repositories' containing').run := by
  have composes := composes_sent fun _ => True
  rw [metadata_eq, metadata_eq]
  split
  · exact .pure (.error (.same _))
  · have each (repository repository' : Repository) (same : repository.Alike change repository') :=
      parallel_ask sessions coordinate same
    have asked (session : Session) (repositories : List Repository) :
        Keeps Continues (do
          let found ← repositories.mapM (session.ask coordinate)
          return found.foldl Metadata.Known.merge none : Run Metadata.Known).run :=
      composes.run_bind (composes.run_mapM (fun repository =>
        continues_of_sent (session.ask_sent coordinate repository)) repositories)
        fun _ => composes.pure _
    refine (parallel_searched sessions models alike none).run_lift.run_bind (asked session)
      (asked session') fun searched searched' found => ?_
    refine (Parallel.run_mapM each found).run_bind (fun _ => composes.pure _)
      (fun _ => composes.pure _) fun told told' same => ?_
    rw [List.forall₂_eq_eq_eq] at same
    exact .pure (.ok (by rw [same]))

theorem parallel_datedVersion (coordinate : Coordinate) :
    Parallel change session session' (ExceptRel (Failure.Alike change) Eq)
      (session.datedVersion coordinate repositories containing).run
      (session'.datedVersion coordinate repositories' containing').run := by
  have pinned := pinnedVersion?_eq sessions coordinate
  unfold datedVersion
  cases coordinate.version with
  | none => exact .pure (.ok rfl)
  | some version =>
    dsimp only
    split
    · exact .pure (.ok rfl)
    · rw [pinned]
      cases session'.pinnedVersion? coordinate with
      | some dated => exact .pure (.ok rfl)
      | none =>
        exact (parallel_metadata sessions models alike coordinate).run_bind_same fun known =>
          .pure (.ok rfl)

end

end MavenResolution.Session
