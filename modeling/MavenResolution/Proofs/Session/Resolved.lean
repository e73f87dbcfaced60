import Mathlib.Data.List.Forall2
import Mathlib.Data.Option.Basic
import MavenResolution.Proofs.Session.NearestWins
import MavenResolution.Proofs.Session.Reached
import MavenResolution.Proofs.Session.Turns

/-! What a resolved dependency has to do with its request, in whatever state the session resolved it. It is a
version of the module that is requested, one that the constraints allow. What has been said about the module is
remembered, so that the session selects this version for these constraints whenever it is asked again. -/
namespace MavenResolution

open Declarations (Added stated)
open Version (ofText)

namespace Session

variable {session : Session} {state after last : State} {repository : Repository} {coordinate : Coordinate}
  {repositories : List Repository} {containing : Option Pom} {added : Added}

/-! Asking again. -/

/-- What is recorded of a module on behalf of a repository. -/
def Recorded (state : State) (coordinate : Coordinate) (repository : Repository)
    (found : Option Metadata) : Prop :=
  state.metadata.known (repository.uri, coordinate) = some (.done found)

theorem Recorded.later {found : Option Metadata} (recorded : Recorded state coordinate repository found)
    (extended : state.metadata.Extends after.metadata) : Recorded after coordinate repository found :=
  extended _ _ recorded

theorem ask_records {found : Option Metadata} (orderly : session.Orderly state)
    (asks : (session.ask coordinate repository).run state = (.ok found, after)) :
    Recorded after coordinate repository found := by
  obtain ⟨gives, rfl⟩ := Prod.mk.inj ((session.ask_apply coordinate repository state).symm.trans asks)
  exact Region.compute_remembers metadataRegion_beside _ 0 orderly.metadata
    (session.fetchMetadata_keeps coordinate repository) gives

theorem askAll_records {found : List (Option Metadata)} (orderly : session.Orderly state)
    (asks : (repositories.mapM (session.ask coordinate)).run state = (.ok found, after)) :
    List.Forall₂ (Recorded after coordinate) repositories found := by
  induction repositories generalizing state found with
  | nil =>
    cases asks
    exact .nil
  | cons repository rest ih =>
    rw [List.mapM_cons] at asks
    obtain ⟨first, next, asked, asks⟩ := run_bind_ok asks
    obtain ⟨others, last, askedRest, ends⟩ := run_bind_ok asks
    cases ends
    have grows := (session.ask_grows coordinate repository).of_eq asked
    have growsThen := (session.frame_grows.run_mapM (session.ask_grows coordinate) rest).of_eq askedRest
    have orderlyNow := grows.orderly orderly
    exact .cons ((ask_records orderly asked).later (growsThen.metadata orderlyNow))
      (ih orderlyNow askedRest)

theorem askAll_again {found : List (Option Metadata)}
    (recorded : List.Forall₂ (Recorded state coordinate) repositories found) :
    ((repositories.mapM (session.ask coordinate)).run state).1 = .ok found := by
  induction repositories generalizing state found with
  | nil =>
    cases recorded
    rfl
  | cons repository rest ih =>
    cases recorded with
    | cons first others =>
      obtain ⟨cache, asked, same⟩ := @ask_of_done session _ _ _ _ first
      have extended : state.metadata.Extends cache := fun key outcome known => (same key).trans known
      rw [run_mapM_cons, asked]
      dsimp only
      rw [ih (others.imp fun _ _ known => known.later extended)]
      rfl

/-- What all say together is put together from what the repositories of a search say. -/
theorem metadata_steps {known : Metadata.Known}
    (tells : (session.metadata coordinate repositories containing).run state = (.ok known, after)) :
    (coordinate.group.getD "").isEmpty = false ∧ ∃ found,
      let searching := session.searched repositories containing none state
      (searching.1.mapM (session.ask coordinate)).run searching.2 = (.ok found, after) ∧
        known = found.foldl Metadata.Known.merge none := by
  cases grouped : (coordinate.group.getD "").isEmpty with
  | true =>
    rw [metadata_eq, if_pos grouped] at tells
    cases tells
  | false =>
    rw [metadata_eq, if_neg (by simp [grouped])] at tells
    obtain ⟨searched, next, searches, tells⟩ := run_bind_ok tells
    obtain ⟨found, last, asks, ends⟩ := run_bind_ok tells
    cases searches
    cases ends
    exact ⟨rfl, found, asks, rfl⟩

/-- Metadata that were downloaded are merged to the same again, and those of each repository are in the cache. -/
theorem metadata_again {known : Metadata.Known} (orderly : session.Orderly state)
    (tells : (session.metadata coordinate repositories containing).run state = (.ok known, after))
    (grows : session.Grows after last) :
    ((session.metadata coordinate repositories containing).run last).1 = .ok known ∧
      ∃ found, List.Forall₂ (Recorded last coordinate)
        (session.searched repositories containing none last).1 found ∧
          known = found.foldl Metadata.Known.merge none := by
  obtain ⟨grouped, found, asking, rfl⟩ := metadata_steps tells
  have searches := session.serving_grows.searched repositories containing none state
  obtain ⟨-, -, again⟩ := searched_again session repositories containing none none orderly.normalized
  generalize session.searched repositories containing none state = searching at asking searches again
  obtain ⟨searched, next⟩ := searching
  dsimp only at asking searches again
  have asks := (session.frame_grows.run_mapM (session.ask_grows coordinate) searched).of_eq asking
  have orderlyNow := searches.orderly orderly
  have since := asks.trans grows
  have orderlyLater := since.orderly orderlyNow
  have recorded : List.Forall₂ (Recorded last coordinate) searched found :=
    (askAll_records orderlyNow asking).imp fun _ _ known =>
      known.later (grows.metadata (asks.orderly orderlyNow))
  have same := again last orderlyLater.normalized (since.normalized orderlyNow)
  have kept := session.searched_metadata repositories containing none last
  refine ⟨?_, found, same ▸ recorded, rfl⟩
  rw [metadata_run session grouped]
  dsimp only
  rw [same, askAll_again (recorded.imp fun _ _ known => known.later (kept ▸ .refl _))]
  rfl

/-! Selecting again. -/

theorem concluded_eq_ok (session : Session) {selection : Except Text.NumeralError (Option String)}
    {selected : Option String}
    (concludes : concluded added selection state = (.ok selected, after)) :
    selection = .ok selected ∧ session.Grows state after := by
  unfold concluded at concludes
  split at concludes
  · cases concludes
  · cases concludes
    exact ⟨rfl, .of_same (List.prefix_refl _) rfl rfl rfl⟩

/-- A version that is chosen is chosen among those that metadata list. -/
theorem select_steps {selected : Option String}
    (choosing : (added.declarations.chainOf added.handle).needsAvailable = true)
    (selects : (session.select added repositories).run state = (.ok selected, after)) :
    ∃ known told, (session.metadata (.ofModule (added.declarations.ownerOf added.handle))
        repositories).run state = (.ok known, told) ∧
      (added.declarations.chainOf added.handle).select known.metadata.versions = .ok selected ∧
      session.Grows told after := by
  rw [run_select_of_needsAvailable repositories state choosing] at selects
  split at selects
  · cases selects
  · rename_i known told tells
    obtain ⟨selection, grows⟩ := concluded_eq_ok session selects
    exact ⟨known, told, tells, selection, grows⟩

/-- What has been selected once is selected again. -/
theorem select_again {selected : Option String} (orderly : session.Orderly state)
    (selects : (session.select added repositories).run state = (.ok selected, after))
    (grows : session.Grows after last) :
    ((session.select added repositories).run last).1 = .ok selected := by
  cases choosing : (added.declarations.chainOf added.handle).needsAvailable with
  | true =>
    obtain ⟨known, told, tells, selection, growsNow⟩ := select_steps choosing selects
    obtain ⟨again, -⟩ := metadata_again orderly tells (growsNow.trans grows)
    rw [run_select_of_needsAvailable repositories last choosing]
    generalize (session.metadata _ repositories).run last = telling at again
    obtain ⟨result, next⟩ := telling
    dsimp only at again
    subst again
    dsimp only
    rw [selection]
    rfl
  | false =>
    rw [run_select_of_not_needsAvailable repositories state choosing] at selects
    obtain ⟨selection, -⟩ := concluded_eq_ok session selects
    rw [run_select_of_not_needsAvailable repositories last choosing, selection]
    rfl

/-- A repository that is searched lists a version of a module: it has said so in reply to a request, and what it
said is recorded. -/
def Lists (session : Session) (state : State) (repositories : List Repository) (owner : ModuleId)
    (version : String) : Prop :=
  ∃ repository ∈ (session.searched repositories none none state).1, ∃ found,
    Recorded state (.ofModule owner) repository (some found) ∧
      session.HasSaid state.requests repository.uri (.ofModule owner) found ∧ version ∈ found.versions

theorem lists_of_mem_versions {owner : ModuleId} {known : Metadata.Known} {version : String}
    (orderly : session.Orderly state)
    (tells : (session.metadata (.ofModule owner) repositories).run state = (.ok known, after))
    (grows : session.Grows after last) (listed : version ∈ known.metadata.versions) :
    session.Lists last repositories owner version := by
  obtain ⟨-, found, recorded, rfl⟩ := metadata_again orderly tells grows
  have growsNow := (session.serving_grows.metadata (.ofModule owner) repositories none).of_eq tells
  have orderlyLast := grows.orderly (growsNow.orderly orderly)
  rw [Metadata.Known.versions_foldl_merge] at listed
  obtain ⟨said, member, within⟩ : ∃ said, some said ∈ found ∧ version ∈ said.versions := by
    simpa [Metadata.Known.metadata] using listed
  obtain ⟨index, bound, same⟩ := List.getElem_of_mem member
  obtain ⟨alike, each⟩ := List.forall₂_iff_get.mp recorded
  have here := each index (alike ▸ bound) bound
  rw [List.get_eq_getElem, List.get_eq_getElem, same] at here
  exact ⟨_, List.getElem_mem _, said, here, orderlyLast.said _ _ _ here, within⟩

/-- What is chosen is listed, and allowed by the chain. -/
theorem lists_of_select {version : String} (orderly : session.Orderly state)
    (choosing : (added.declarations.chainOf added.handle).needsAvailable = true)
    (selects : (session.select added repositories).run state = (.ok (some version), after))
    (grows : session.Grows after last) :
    session.Lists last repositories (added.declarations.ownerOf added.handle) version ∧
      (added.declarations.chainOf added.handle).Allows version := by
  obtain ⟨known, told, tells, selection, growsNow⟩ := select_steps choosing selects
  obtain ⟨-, read, -, -, -, listed, permitted⟩ := Chain.select_some choosing selection
  exact ⟨lists_of_mem_versions orderly tells (growsNow.trans grows) listed,
    Chain.allows_iff.mpr ⟨read, permitted⟩⟩

/-! POMs of the version that is asked for. -/

theorem isFor_of_ownPom? {relativePath : Option String} {pom : Pom}
    (own : state.ownPom? coordinate relativePath containing = some pom) :
    pom.coordinate.coordinate = coordinate := by
  have isFor : pom.isFor coordinate = true := by
    unfold State.ownPom? at own
    cases listed : state.projectPoms.find? fun entry => entry.2.isFor coordinate with
    | some entry =>
      rw [listed] at own
      cases own
      have found := List.find?_some listed
      exact found
    | none =>
      rw [listed, Option.map_none] at own
      change containing.bind _ = some pom at own
      obtain ⟨_, -, related⟩ := Option.bind_eq_some_iff.mp own
      obtain ⟨_, -, placed⟩ := Option.bind_eq_some_iff.mp related
      obtain ⟨_, -, present⟩ := Option.bind_eq_some_iff.mp placed
      obtain ⟨other, -, checked⟩ := Option.bind_eq_some_iff.mp present
      obtain ⟨_, guarded, ⟨⟩⟩ := Option.bind_eq_some_iff.mp checked
      exact (Option.guard_eq_some' _).mp guarded
  exact eq_of_beq isFor

theorem eq_of_pomResult_fetched {result : Except Failure (Except DownloadFault Pom)} {pom : Pom}
    (provides : pomResult (.fetched result) = .ok (.ok pom)) : result = .ok (.ok pom) := by
  match result with
  | .ok answer => exact provides
  | .error failure =>
    cases failure with
    | request fault => cases request : fault.kind.isRequest <;> simp [pomResult, request] at provides
    | _ => cases provides

/-- A POM that is served is in the cache from then on. -/
theorem pomFrom_recorded {key : ResolvedCoordinate} {pom : Pom} (orderly : session.Orderly state)
    (provides : (session.pomFrom key repository state).1 = .ok (.ok pom)) :
    (session.pomFrom key repository state).2.poms.known key = some (.done (some pom)) := by
  cases entry : state.poms.known key with
  | some flight =>
    obtain ⟨found, rfl⟩ := orderly.poms key flight entry
    obtain ⟨result, same, -⟩ := pomFrom_known session repository entry
    cases found with
    | none => cases result.symm.trans provides
    | some found =>
      cases result.symm.trans provides
      exact (same key).trans entry
  | none =>
    obtain ⟨gives, learns, -⟩ := Region.compute_learns pomRegion_besideRequests Except.toOption entry
      (session.fetchPom_keeps key repository _)
    rw [pomFrom_apply] at provides ⊢
    dsimp only at provides
    rw [gives] at provides
    refine (learns key).trans ?_
    rw [eq_of_pomResult_fetched provides, Region.learned, beq_self_eq_true, if_pos rfl]
    rfl

theorem downloadFrom_recorded {coordinate : ResolvedCoordinate} {faults : DownloadFaults}
    {download : Download} {pom : Pom} (orderly : session.Orderly state)
    (ran : session.downloadFrom coordinate faults repositories state = (download, after))
    (provided : download.outcome = .ok pom) : ∃ repository : Repository,
      after.poms.known { coordinate with repository := some repository.uri } = some (.done (some pom)) := by
  induction repositories generalizing faults state with
  | nil =>
    cases ran
    cases provided
  | cons repository rest ih =>
    have grows := session.pomFrom_grows { coordinate with repository := some repository.uri } repository state
    have recorded := fun pom => @pomFrom_recorded session state repository
      { coordinate with repository := some repository.uri } pom orderly
    rw [downloadFrom_cons] at ran
    generalize session.pomFrom _ repository state = run at ran grows recorded
    obtain ⟨result, next⟩ := run
    match result with
    | .ok (.ok found) =>
      cases ran
      cases provided
      exact ⟨repository, recorded _ rfl⟩
    | .ok (.error fault) => exact ih (grows.orderly orderly) ran
    | .error failure =>
      cases ran
      cases provided

/-- A download finds a project POM, or one that is in the cache from then on. -/
theorem download_recorded {relativePath : Option String} {download : Download} {pom : Pom}
    (orderly : session.Orderly state)
    (ran : session.download coordinate relativePath containing repositories state = (download, after))
    (provided : download.outcome = .ok pom) :
    state.ownPom? coordinate relativePath containing = some pom ∨
      ∃ key, key.coordinate = coordinate ∧ after.poms.known key = some (.done (some pom)) := by
  cases completed : complete? coordinate with
  | none =>
    unfold Session.download at ran
    rw [completed] at ran
    cases ran
    cases provided
  | some complete =>
    have grows := session.serving_grows.datedVersion coordinate repositories containing state
    have models := session.datedVersion_models coordinate repositories containing state
    rw [download_apply completed] at ran
    generalize (session.datedVersion coordinate repositories containing).run state = dating
      at ran grows models
    obtain ⟨result, dated⟩ := dating
    cases result with
    | error failure =>
      cases ran
      cases provided
    | ok version =>
      dsimp only at ran models
      rw [ownPom?_after models.projectPoms] at ran
      split at ran
      · rename_i found own
        cases ran
        cases provided
        exact .inl own
      · have searches := session.serving_grows.searched repositories containing (some complete.version) dated
        obtain ⟨repository, recorded⟩ :=
          downloadFrom_recorded (searches.orderly (grows.orderly orderly)) ran provided
        have same : complete.coordinate = coordinate := coordinate_of_complete? completed
        refine .inr ⟨_, ?_, recorded⟩
        exact same

theorem download_named {relativePath : Option String} {download : Download} {pom : Pom}
    (orderly : session.Orderly state)
    (ran : session.download coordinate relativePath containing repositories state = (download, after))
    (provided : download.outcome = .ok pom) : pom.coordinate.coordinate = coordinate := by
  have grows := (session.serving_grows.download coordinate relativePath containing repositories).of_eq ran
  rcases download_recorded orderly ran provided with own | ⟨key, same, recorded⟩
  · exact isFor_of_ownPom? own
  · rw [(grows.orderly orderly).named key pom recorded]
    exact same

/-! Requests. -/

theorem chain_of_declare {declarations : Declarations} {owner : ModuleId} {constraints : List String}
    (declares : (declare declarations owner constraints).run state = (.ok added, after)) :
    declarations.chain owner constraints = .ok added := by
  unfold declare at declares
  cases chained : declarations.chain owner constraints with
  | error fault =>
    rw [chained] at declares
    cases declares
  | ok other =>
    rw [chained] at declares
    cases declares
    rfl

theorem run_declare {declarations : Declarations} {owner : ModuleId} {constraints : List String}
    (chained : declarations.chain owner constraints = .ok added) (state : State) :
    ((declare declarations owner constraints).run state).1 = .ok added := by
  rw [declare, chained]
  rfl

/-- The dependency is what its request asks for, given what is known once it is resolved. -/
structure Faithful (session : Session) (request : Request) (repositories : List Repository)
    (resolved : Resolved) (after : State) : Prop where
  group : resolved.coordinate.group = request.group
  artifact : resolved.coordinate.artifact = request.artifact
  again : ∀ operations, .close ∉ operations →
    ((session.resolveVersion request.moduleId request.constraints repositories).run
      (session.reached after operations)).1 = .ok (some resolved.coordinate.version)
  ranges : (∀ requirement ∈ request.constraints.map stated, requirement.isRanges = true) →
    session.Lists after (session.repositories ++ repositories) request.moduleId
        resolved.coordinate.version ∧
      ∃ version, ofText resolved.coordinate.version = .ok version ∧
        ∀ set, .ranges set ∈ request.constraints.map stated → set.contains version = .ok true
  dynamic : ∀ kind, (request.constraints.map stated).head? = some (.dynamic kind) →
    session.Lists after (session.repositories ++ repositories) request.moduleId
        resolved.coordinate.version ∧
      (kind = .release → Snapshot.isSnapshot resolved.coordinate.version = false)
  exact : ∀ version, (request.constraints.map stated).head? = some (.exact version) →
    resolved.coordinate.version = version

/-- A request that is resolved has selected the version of the module for which a POM was found. -/
theorem resolve_selected {request : Request} {resolved : Resolved} (orderly : session.Orderly state)
    (resolves : (session.resolve request repositories).run state = (.ok resolved, after)) :
    ∃ added declared selected,
      Declarations.chain {} request.moduleId request.constraints = .ok added ∧
      session.Orderly declared ∧
      (session.select added (session.repositories ++ repositories)).run declared =
        (.ok (some resolved.coordinate.version), selected) ∧
      session.Grows selected after ∧ resolved.coordinate.group = request.group ∧
      resolved.coordinate.artifact = request.artifact := by
  obtain ⟨added, declared, version, selected, download, downloaded, declares, selects, ran, provided,
    sameCoordinate, -, ends⟩ := resolve_steps resolves
  have declaring := (session.serving_grows.declare {} request.moduleId request.constraints).of_eq declares
  have selecting := (session.serving_grows.select added (session.repositories ++ repositories)).of_eq selects
  have downloading := (session.serving_grows.download
    ((Coordinate.ofModule request.moduleId).withVersion (some version)) none none
    (session.repositories ++ repositories)).of_eq ran
  have grows : session.Grows selected after := by
    rcases ends with rfl | ⟨directory, repository, -, jar⟩
    · exact downloading
    · exact downloading.trans
        ((session.jar_grows directory resolved.coordinate repository request.type).of_eq jar)
  have orderlyNow := declaring.orderly orderly
  have named := download_named (selecting.orderly orderlyNow) ran provided
  rw [← sameCoordinate] at named
  simp only [ResolvedCoordinate.coordinate, Coordinate.ofModule, Coordinate.withVersion,
    Coordinate.mk.injEq, Option.some.injEq] at named
  obtain ⟨group, artifact, rfl⟩ := named
  exact ⟨added, declared, selected, chain_of_declare declares, orderlyNow, selects, grows, group,
    artifact⟩

theorem resolveVersion_again {owner : ModuleId} {constraints : List String} {selected : Option String}
    (chained : Declarations.chain {} owner constraints = .ok added) (orderly : session.Orderly state)
    (selects : (session.select added (session.repositories ++ repositories)).run state =
      (.ok selected, after)) (grows : session.Grows after last) :
    ((session.resolveVersion owner constraints repositories).run last).1 = .ok selected := by
  have declares := run_declare chained last
  have declaring := session.serving_grows.declare {} owner constraints last
  unfold resolveVersion
  rw [run_bind_apply]
  generalize (declare {} owner constraints).run last = run at declares declaring
  obtain ⟨result, declared⟩ := run
  dsimp only at declares
  subst declares
  exact select_again orderly selects (grows.trans declaring)

/-- In every state that a session can reach, whatever the server answers, a request is resolved to what it
asks for, or not at all. -/
theorem resolve_faithful (session : Session) (own : List (Path × Pom)) (files : Files)
    (operations : List Operation) {request : Request} {repositories : List Repository}
    {resolved : Resolved}
    (resolves : (session.resolve request repositories).run
      (session.reached { fresh own with files } operations) = (.ok resolved, after)) :
    session.Faithful request repositories resolved after := by
  have orderly := (session.orderly_fresh own files).reached operations
  obtain ⟨added, declared, selected, chained, orderlyNow, selects, grows, group, artifact⟩ :=
    resolve_selected orderly resolves
  have nonempty : request.constraints ≠ [] := by
    intro empty
    rw [empty] at chained
    cases chained
  obtain ⟨other, same, ends⟩ := Declarations.chain_ends {} request.moduleId nonempty
  obtain rfl : other = added := Except.ok.inj (same.symm.trans chained)
  have root : Chain.root? (other.declarations.chainOf other.handle) =
      (request.constraints.map stated).head? := by
    rw [ends.chain, Chain.root?, List.getLast?_reverse]
  have chosen := fun choosing => lists_of_select orderlyNow choosing selects grows
  rw [ends.ownerOf] at chosen
  refine ⟨group, artifact, fun later unclosed => ?_, fun ranges => ?_, fun kind nearest => ?_,
    fun version nearest => ?_⟩
  · exact resolveVersion_again chained orderlyNow selects
      (grows.trans (session.grows_reached after unclosed))
  · have isRange : Chain.isRange (other.declarations.chainOf other.handle) = true := by
      rw [Chain.isRange_iff, ends.chain]
      exact fun requirement member => ranges requirement (List.mem_reverse.mp member)
    have choosing := Chain.needsAvailable_iff.mpr (by rw [Chain.mode_of_isRange isRange]; decide)
    obtain ⟨lists, version, read, within⟩ := chosen choosing
    rw [if_pos isRange, ends.chain] at within
    exact ⟨lists, version, read, fun set member => within set (List.mem_reverse.mpr member)⟩
  · have dynamic := root.trans nearest
    have choosing := Chain.needsAvailable_iff.mpr (by rw [Chain.mode_of_dynamic dynamic]; decide)
    obtain ⟨lists, version, read, kept⟩ := chosen choosing
    rw [if_neg (by rw [Chain.isRange_of_root dynamic rfl]; decide)] at kept
    exact ⟨lists, fun release => kept (release ▸ dynamic)⟩
  · have exact := root.trans nearest
    have written : Chain.needsAvailable (other.declarations.chainOf other.handle) = false := by
      rw [Chain.needsAvailable, Chain.mode_of_exact exact]
      rfl
    rw [run_select_of_not_needsAvailable _ declared written, Chain.select_of_exact exact] at selects
    obtain ⟨selection, -⟩ := concluded_eq_ok session selects
    exact (Option.some.inj (Except.ok.inj selection)).symm

/-- Two ranges, resolved by a session that was closed before. -/
theorem resolve_faithful_ranges :
    let listing := Text.Utf8.encode ("<metadata><versioning><versions><version>1.0</version>" ++
      "<version>1.5</version><version>2.0</version></versions></versioning></metadata>").toList
    let model := Text.Utf8.encode "<project><artifactId>lib</artifactId></project>".toList
    let session : Session :=
      { repositories := [{ id := some "a", uri := "https://a.example", knownToExist := true }]
        transport := Http.Transport.ofConfiguration {}
        includesCentral := false
        server := fun _ request => .ok { status := 200, content :=
          if request.url = "https://a.example/org/example/lib/maven-metadata.xml" then listing
          else model } }
    let request : Request := ⟨"org.example", "lib", ["[1.0,2.0)", "[1.0,)"], none⟩
    let operations : List Operation :=
      [.metadata ⟨some "org.example", some "lib", none⟩ session.repositories none, .close]
    let run :=
      (session.resolve request []).run (session.reached { fresh [] with files := {} } operations)
    ∃ resolved, run.1 = .ok resolved ∧ resolved.coordinate.version = "1.5" ∧
      session.Faithful request [] resolved run.2 := by
  intro listing model session request operations run
  have selected : run.1.toOption.map (·.coordinate.version) = some "1.5" := by decide +kernel
  cases ran : run with
  | mk result after =>
    rw [ran] at selected
    cases result with
    | error failure => cases selected
    | ok resolved =>
      exact ⟨resolved, rfl, Option.some.inj selected, resolve_faithful session [] {} operations ran⟩

end Session
end MavenResolution
