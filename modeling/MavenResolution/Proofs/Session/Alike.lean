import MavenResolution.Proofs.Session.Sending
import MavenResolution.Proofs.SingleFlight.Alike
import MavenResolution.Proofs.Url.User

/-! What stands for what in two runs that differ in secrets: in the credentials of repositories and sessions, and in
the user info of URLs. -/
namespace MavenResolution

open Relator

/-- Which URLs stand for which in two runs. They are the same, or differ in their user info. -/
structure UserChange where
  relates : String → String → Prop
  hidden : ∀ {a b}, relates a b → a = b ∨ Url.SameButUser a b
  oneToOne : OneToOne relates
  secured : ∀ {a b}, relates a b → relates (Repository.secureUri a) (Repository.secureUri b)

namespace UserChange

variable {change : UserChange} {a b : String}

theorem safeUrl_eq (related : change.relates a b) : Redaction.safeUrl a = Redaction.safeUrl b := by
  rcases change.hidden related with rfl | same
  · rfl
  · exact same.safeUrl_eq

theorem isEmpty_eq (related : change.relates a b) : a.isEmpty = b.isEmpty := by
  rcases change.hidden related with rfl | same
  · rfl
  · exact same.isEmpty_eq

/-- Where a URL is its own https URL, so is the one that stands for it. -/
theorem secureUri_eq_iff (related : change.relates a b) :
    Repository.secureUri a = a ↔ Repository.secureUri b = b :=
  change.oneToOne (change.secured related) related

end UserChange

variable {change : UserChange}

/-! Repositories and mirrors. -/

namespace Repository

/-- The repositories are the same, but for their names, passwords and users. -/
structure Alike (change : UserChange) (repository repository' : Repository) : Prop where
  id : repository.id = repository'.id
  uri : change.relates repository.uri repository'.uri
  releases : repository.releases = repository'.releases
  snapshots : repository.snapshots = repository'.snapshots
  knownToExist : repository.knownToExist = repository'.knownToExist

structure Identity.Alike (change : UserChange) (identity identity' : Identity) : Prop where
  id : identity.id = identity'.id
  uri : change.relates identity.uri identity'.uri
  releases : identity.releases = identity'.releases
  snapshots : identity.snapshots = identity'.snapshots

theorem Identity.oneToOne (change : UserChange) : OneToOne (Identity.Alike change) := by
  rintro ⟨_, uri, _, _⟩ ⟨_, uri', _, _⟩ ⟨_, other, _, _⟩ ⟨_, other', _, _⟩ ⟨rfl, related, rfl, rfl⟩
    ⟨rfl, others, rfl, rfl⟩
  simp only [Identity.mk.injEq, change.oneToOne related others]

namespace Alike

variable {repository repository' other other' : Repository}
  (alike : repository.Alike change repository') (others : other.Alike change other')

include alike

theorem identity : repository.identity.Alike change repository'.identity :=
  ⟨alike.id, alike.uri, alike.releases, alike.snapshots⟩

theorem withUri {uri uri' : String} (related : change.relates uri uri') :
    (repository.withUri uri).Alike change (repository'.withUri uri') :=
  { alike with uri := related }

theorem withCredentials (credentials credentials' : List Credentials) :
    (Credentials.apply credentials repository).Alike change
      (Credentials.apply credentials' repository') := by
  unfold Credentials.apply
  split <;> split <;> exact ⟨alike.id, alike.uri, alike.releases, alike.snapshots, alike.knownToExist⟩

theorem accepts_eq (version : String) : repository.accepts version = repository'.accepts version := by
  have milestones : (Text.lowercaseText repository.uri == milestoneUri) =
      (Text.lowercaseText repository'.uri == milestoneUri) := by
    have userless : '@' ∉ milestoneUri.toList := by decide
    rcases change.hidden alike.uri with same | same
    · rw [same]
    · obtain ⟨differs, differs'⟩ := same.lowercaseText_ne userless
      rw [beq_eq_false_iff_ne.mpr differs, beq_eq_false_iff_ne.mpr differs']
  simp only [accepts, milestones, alike.releases, alike.snapshots]

theorem isExternal_eq : Mirror.isExternal repository = Mirror.isExternal repository' := by
  rcases change.hidden alike.uri with same | same
  · simp only [Mirror.isExternal, same]
  · exact same.isExternal_eq

/-- What lies below alike repositories is shown alike. -/
theorem safeUrl_below_eq (path : String) : Redaction.safeUrl (repository.root ++ ("/" ++ path)) =
    Redaction.safeUrl (repository'.root ++ ("/" ++ path)) := by
  rcases change.hidden alike.uri with same | same
  · simp only [root, same]
  · exact (same.below path).safeUrl_eq

include others in
theorem same_eq : repository.same other = repository'.same other' :=
  (Identity.oneToOne change).beq_eq alike.identity others.identity

end Alike

theorem distinct_alike {repositories repositories' : List Repository}
    (alike : List.Forall₂ (Alike change) repositories repositories') :
    List.Forall₂ (Alike change) (distinct repositories) (distinct repositories') := by
  refine List.rel_foldl ?_ .nil alike
  intro kept kept' alikeKept repository repository' alikeNext
  have present : kept.any (·.same repository) = kept'.any (·.same repository') := by
    clear alike
    induction alikeKept with
    | nil => rfl
    | cons first _ ih => rw [List.any_cons, List.any_cons, first.same_eq alikeNext, ih]
  dsimp only
  rw [present]
  split
  · exact alikeKept
  · exact List.rel_append alikeKept (.cons alikeNext .nil)

end Repository

namespace Mirror

/-- The name that a selector gives. -/
def Selector.name? : Selector → Option (List Char)
  | .excluded name => some name
  | .everything => none
  | .external => none
  | .named name => some name

/-- The mirrors are the same, but for the user info of their URLs. Their `mirrorOf` lists name ids and URLs that
stand for themselves. -/
structure Alike (change : UserChange) (mirror mirror' : Mirror) : Prop where
  id : mirror.id = mirror'.id
  url : change.relates mirror.url mirror'.url
  mirrorOf : mirror.mirrorOf = mirror'.mirrorOf
  releases : mirror.releases = mirror'.releases
  snapshots : mirror.snapshots = mirror'.snapshots
  named : ∀ name ∈ mirror.selectors.filterMap Selector.name?,
    change.relates (String.ofList name) (String.ofList name)

variable {mirror mirror' : Mirror} {repository repository' : Repository}

theorem isNamed_alike {name : List Char} (alike : repository.Alike change repository')
    (named : change.relates (String.ofList name) (String.ofList name)) :
    isNamed name repository = isNamed name repository' := by
  rw [isNamed, isNamed, alike.id, change.oneToOne.beq_eq named alike.uri]

theorem selects_alike (alike : repository.Alike change repository') {selectors : List Selector}
    (named : ∀ name ∈ selectors.filterMap Selector.name?,
      change.relates (String.ofList name) (String.ofList name)) (found : Bool) :
    selects repository found selectors = selects repository' found selectors := by
  induction selectors generalizing found with
  | nil => rfl
  | cons selector rest ih =>
    have later : ∀ name ∈ rest.filterMap Selector.name?,
        change.relates (String.ofList name) (String.ofList name) := by
      intro name member
      refine named name ?_
      rw [List.mem_filterMap] at member ⊢
      obtain ⟨other, inside, names⟩ := member
      exact ⟨other, List.mem_cons_of_mem _ inside, names⟩
    have first {name : List Char} (names : selector.name? = some name) :
        isNamed name repository = isNamed name repository' :=
      isNamed_alike alike (named name (List.mem_filterMap.mpr ⟨selector, List.mem_cons_self, names⟩))
    cases selector with
    | excluded name => rw [selects, selects, first rfl, ih later]
    | everything => exact ih later true
    | external => rw [selects, selects, alike.isExternal_eq, ih later]
    | named name => rw [selects, selects, first rfl, ih later]

theorem Alike.isFor_eq (alike : mirror.Alike change mirror')
    (repositories : repository.Alike change repository') :
    mirror.isFor repository = mirror'.isFor repository' := by
  have same : mirror.selectors = mirror'.selectors := by rw [selectors, selectors, alike.mirrorOf]
  rw [isFor, isFor, ← same]
  exact selects_alike repositories alike.named false

theorem apply_alike {mirrors mirrors' : List Mirror}
    (alike : List.Forall₂ (Alike change) mirrors mirrors')
    (repositories : repository.Alike change repository') :
    (apply mirrors repository).Alike change (apply mirrors' repository') := by
  unfold apply
  have same (mirror mirror' : Mirror) (both : mirror.Alike change mirror') :=
    both.isFor_eq repositories
  have hit := find?_rel same alike
  generalize mirrors.find? _ = found at hit ⊢
  generalize mirrors'.find? _ = found' at hit ⊢
  cases hit with
  | none => exact repositories
  | some first =>
    refine ⟨first.id, first.url, ?_, ?_, repositories.knownToExist⟩
    · simp only [replace, first.releases, repositories.releases]
    · simp only [replace, first.snapshots, repositories.snapshots]

end Mirror

/-! POMs and coordinates. -/

/-- The coordinates are the same, found at URLs that stand for each other. -/
structure ResolvedCoordinate.Alike (change : UserChange) (coordinate coordinate' : ResolvedCoordinate) :
    Prop where
  repository : Option.Rel change.relates coordinate.repository coordinate'.repository
  group : coordinate.group = coordinate'.group
  artifact : coordinate.artifact = coordinate'.artifact
  version : coordinate.version = coordinate'.version
  dated : coordinate.dated = coordinate'.dated

theorem ResolvedCoordinate.oneToOne (change : UserChange) :
    OneToOne (ResolvedCoordinate.Alike change) := by
  rintro ⟨place, _, _, _, _⟩ ⟨place', _, _, _, _⟩ ⟨other, _, _, _, _⟩ ⟨other', _, _, _, _⟩
    ⟨related, rfl, rfl, rfl, rfl⟩ ⟨others, rfl, rfl, rfl, rfl⟩
  simp only [ResolvedCoordinate.mk.injEq, change.oneToOne.option related others]

namespace ResolvedCoordinate.Alike

variable {coordinate coordinate' : ResolvedCoordinate} (alike : coordinate.Alike change coordinate')

include alike

theorem coordinate_eq : coordinate.coordinate = coordinate'.coordinate := by
  rw [ResolvedCoordinate.coordinate, ResolvedCoordinate.coordinate, alike.group, alike.artifact,
    alike.version]

theorem effectiveVersion_eq : coordinate.effectiveVersion = coordinate'.effectiveVersion := by
  rw [effectiveVersion, effectiveVersion, alike.dated, alike.version]

theorem text_eq : coordinate.text = coordinate'.text := by
  rw [text, text, alike.group, alike.artifact, alike.effectiveVersion_eq]

theorem jarPath_eq (directory : Path) :
    Layout.jarPath directory coordinate = Layout.jarPath directory coordinate' := by
  simp only [Layout.jarPath, Layout.fileName, alike.group, alike.artifact, alike.version,
    alike.effectiveVersion_eq]

end ResolvedCoordinate.Alike

/-- The POMs are the same, from repositories that are alike. -/
structure Pom.Alike (change : UserChange) (pom pom' : Pom) : Prop where
  coordinate : pom.coordinate.Alike change pom'.coordinate
  parent : pom.parent = pom'.parent
  packaging : pom.packaging = pom'.packaging
  properties : pom.properties = pom'.properties
  dependencies : pom.dependencies = pom'.dependencies
  repositories : pom.repositories = pom'.repositories
  sourcePath : pom.sourcePath = pom'.sourcePath
  repository : Option.Rel (Repository.Alike change) pom.repository pom'.repository

theorem Pom.Alike.isFor_eq {pom pom' : Pom} (alike : pom.Alike change pom') (coordinate : Coordinate) :
    pom.isFor coordinate = pom'.isFor coordinate := by
  rw [isFor, isFor, alike.coordinate.coordinate_eq]

/-- A document read for alike repositories gives alike POMs. -/
theorem Pom.read_alike (reader : Xml.Reader) (document : Xml.Document) (sourcePath : Option Path)
    {repository repository' : Repository} (alike : repository.Alike change repository') :
    (∃ fault, Pom.read document sourcePath (some repository) reader = .error fault ∧
        Pom.read document sourcePath (some repository') reader = .error fault) ∨
      ∃ pom pom', Pom.read document sourcePath (some repository) reader = .ok pom ∧
        Pom.read document sourcePath (some repository') reader = .ok pom' ∧ pom.Alike change pom' := by
  unfold Pom.read
  cases reader document with
  | error fault => exact .inl ⟨_, rfl, rfl⟩
  | ok root =>
    dsimp only [Pom.ofElement]
    cases root.withoutSpaces.childText? "artifactId" with
    | none => exact .inl ⟨_, rfl, rfl⟩
    | some artifact =>
      have coordinates (group version : String) :
          (⟨some repository.uri, group, artifact, version, none⟩ : ResolvedCoordinate).Alike change
            ⟨some repository'.uri, group, artifact, version, none⟩ :=
        ⟨.some alike.uri, rfl, rfl, rfl, rfl⟩
      exact .inr ⟨_, _, rfl, rfl, coordinates _ _, rfl, rfl, rfl, rfl, rfl, rfl, .some alike⟩

/-- POMs that refer to others in the same place, and give URLs that stand for each other values
that do so too. -/
structure Pom.Declares (change : UserChange) (pom pom' : Pom) : Prop where
  sourcePath : pom.sourcePath = pom'.sourcePath
  value : ∀ {a b}, change.relates a b → change.relates (pom.value a) (pom'.value b)

theorem Repository.Alike.expand {repository repository' : Repository} {containing containing' : Option Pom}
    (alike : repository.Alike change repository')
    (models : Option.Rel (Pom.Declares change) containing containing') :
    (repository.expand containing).Alike change (repository'.expand containing') := by
  cases models with
  | none => exact alike
  | some model =>
    have related := model.value alike.uri
    unfold Repository.expand
    dsimp only
    rw [UserChange.isEmpty_eq related]
    split
    · exact alike
    · exact alike.withUri related

/-! URLs of files. -/

theorem Layout.safeUrl_metadata_eq {repository repository' : Repository}
    (alike : repository.Alike change repository') (coordinate : Coordinate) :
    Redaction.safeUrl (Layout.metadata repository coordinate) =
      Redaction.safeUrl (Layout.metadata repository' coordinate) := by
  simp only [Layout.metadata, String.append_assoc]
  exact alike.safeUrl_below_eq _

theorem Layout.safeUrl_file_eq {repository repository' : Repository}
    (alike : repository.Alike change repository') {coordinate coordinate' : ResolvedCoordinate}
    (coordinates : coordinate.Alike change coordinate') (kind : String) :
    Redaction.safeUrl (Layout.file repository coordinate kind) =
      Redaction.safeUrl (Layout.file repository' coordinate' kind) := by
  simp only [Layout.file, Layout.fileName, coordinates.group, coordinates.artifact, coordinates.version,
    coordinates.effectiveVersion_eq, String.append_assoc]
  exact alike.safeUrl_below_eq _

/-! Failures and what the log says of them. -/

/-- Alike repositories have failed in turn, for the same reasons. -/
def DownloadFaults.Alike (change : UserChange) (faults faults' : DownloadFaults) : Prop :=
  List.Forall₂ (PairRel (Repository.Alike change) Eq) faults faults'

namespace Failure

/-- The failures are the same, but for the repositories that they name. -/
inductive Alike (change : UserChange) : Failure → Failure → Prop
  | same (failure : Failure) : Alike change failure failure
  | pomUnavailable (coordinate : Coordinate) {faults faults' : DownloadFaults}
      (tried : DownloadFaults.Alike change faults faults') :
      Alike change (.pomUnavailable coordinate faults) (.pomUnavailable coordinate faults')
  | jarUnavailable {coordinate coordinate' : ResolvedCoordinate} {repository repository' : Repository}
      (fault : DownloadFault) (coordinates : coordinate.Alike change coordinate')
      (repositories : repository.Alike change repository') :
      Alike change (.jarUnavailable coordinate repository fault)
        (.jarUnavailable coordinate' repository' fault)
  | metadataUnavailable (coordinate : Coordinate) {repository repository' : Repository} (cause : String)
      (repositories : repository.Alike change repository') :
      Alike change (.metadataUnavailable coordinate repository cause)
        (.metadataUnavailable coordinate repository' cause)
  | notNormalized {repository repository' : Repository} (cause : String)
      (repositories : repository.Alike change repository') :
      Alike change (.notNormalized repository cause) (.notNormalized repository' cause)

/-- The repositories that a failure names. -/
def repositories : Failure → List Repository
  | .pomUnavailable _ faults => faults.map (·.1)
  | .jarUnavailable _ repository _ => [repository]
  | .metadataUnavailable _ repository _ => [repository]
  | .notNormalized repository _ => [repository]
  | _ => []

/-- The URLs that a failure tells. -/
def addresses (failure : Failure) : List String := failure.repositories.map (·.uri)

theorem unavailable_eq (coordinate : String) {faults faults' : DownloadFaults}
    (tried : DownloadFaults.Alike change faults faults')
    (uris : faults.map (·.1.uri) = faults'.map (·.1.uri)) :
    unavailable coordinate faults = unavailable coordinate faults' := by
  let line (tried : Repository × DownloadFault) : String := "    Id: " ++ Text.shown tried.1.id ++
    ", URL: " ++ tried.1.uri ++ ", cause: " ++ tried.2.message
  have lines : faults.map line = faults'.map line := by
    induction tried with
    | nil => rfl
    | cons first _ ih =>
      rw [List.map_cons, List.map_cons, List.cons.injEq] at uris
      rw [List.map_cons, List.map_cons, ih uris.2]
      simp only [line, first.1.id, first.2, uris.1]
  exact congrArg (fun lines => "Unable to download dependency " ++ coordinate ++
    " from any of these repositories: \n" ++ "\n".intercalate lines) lines

theorem place_eq {repository repository' : Repository} (alike : repository.Alike change repository')
    (uri : repository.uri = repository'.uri) : place repository = place repository' := by
  rw [place, place, alike.id, uri]

/-- Alike failures that tell the same URLs tell the same. -/
theorem Alike.message_eq {failure failure' : Failure} (alike : failure.Alike change failure')
    (same : failure.addresses = failure'.addresses) : failure.message = failure'.message := by
  cases alike with
  | same failure => rfl
  | @pomUnavailable coordinate faults faults' tried =>
    have uris : faults.map (·.1.uri) = faults'.map (·.1.uri) := by
      simpa [addresses, Failure.repositories, Function.comp_def] using same
    exact unavailable_eq coordinate.text tried uris
  | @jarUnavailable coordinate coordinate' repository repository' fault coordinates repositories =>
    change unavailable coordinate.text _ = unavailable coordinate'.text _
    rw [coordinates.text_eq]
    exact unavailable_eq _ (.cons ⟨repositories, rfl⟩ .nil) same
  | @metadataUnavailable coordinate repository repository' cause repositories =>
    change "Unable to download metadata for " ++ coordinate.text ++ " from " ++ place repository ++ ": " ++
      cause = "Unable to download metadata for " ++ coordinate.text ++ " from " ++ place repository' ++
        ": " ++ cause
    rw [place_eq repositories (List.cons.inj same).1]
  | @notNormalized repository repository' cause repositories =>
    change "Unable to normalize repository " ++ place repository ++ ": " ++ cause =
      "Unable to normalize repository " ++ place repository' ++ ": " ++ cause
    rw [place_eq repositories (List.cons.inj same).1]

/-- Where no URL changes, alike failures tell the same URLs. -/
theorem Alike.addresses_eq {failure failure' : Failure} (alike : failure.Alike change failure')
    (unchanged : ∀ a b, change.relates a b → a = b) : failure.addresses = failure'.addresses := by
  cases alike with
  | same failure => rfl
  | @pomUnavailable coordinate faults faults' tried =>
    have uris : faults.map (·.1.uri) = faults'.map (·.1.uri) := by
      rw [← List.forall₂_eq_eq_eq]
      exact List.rel_map (fun _ _ same => unchanged _ _ same.1.uri) tried
    simpa [addresses, Failure.repositories, Function.comp_def] using uris
  | jarUnavailable fault coordinates repositories => exact congrArg ([·]) (unchanged _ _ repositories.uri)
  | metadataUnavailable coordinate cause repositories =>
    exact congrArg ([·]) (unchanged _ _ repositories.uri)
  | notNormalized cause repositories => exact congrArg ([·]) (unchanged _ _ repositories.uri)

end Failure

/-- The entries are the same, or tell alike failures that name repositories at different URLs. -/
inductive Log.Entry.Alike (change : UserChange) : Log.Entry → Log.Entry → Prop
  | same (entry : Log.Entry) : Alike change entry entry
  | told (source : Log.Source) (front : String) {failure failure' : Failure}
      (alike : failure.Alike change failure') (differs : failure.addresses ≠ failure'.addresses) :
      Alike change (Log.warning source (front ++ failure.message))
        (Log.warning source (front ++ failure'.message))

theorem Log.Entry.Alike.of_failures (source : Log.Source) (front : String) {failure failure' : Failure}
    (alike : failure.Alike change failure') :
    Log.Entry.Alike change (Log.warning source (front ++ failure.message))
      (Log.warning source (front ++ failure'.message)) := by
  by_cases same : failure.addresses = failure'.addresses
  · rw [alike.message_eq same]
    exact .same _
  · exact .told source front alike same

namespace Session

/-! States and sessions. -/

def OwnAlike (change : UserChange) (own own' : List (Path × Pom)) : Prop :=
  List.Forall₂ (PairRel Eq (Pom.Alike change)) own own'

/-- The states know alike things, and have come about by the same number of requests. -/
structure State.Alike (change : UserChange) (state state' : State) : Prop where
  normalized : state.normalized.Alike (Repository.Identity.Alike change) (Repository.Alike change)
    state'.normalized
  metadata : state.metadata.Alike (PairRel change.relates Eq) Eq state'.metadata
  poms : state.poms.Alike (ResolvedCoordinate.Alike change) (Pom.Alike change) state'.poms
  jars : state.jars.Alike Eq Eq state'.jars
  projectPoms : OwnAlike change state.projectPoms state'.projectPoms
  files : state.files = state'.files
  requests : state.requests.length = state'.requests.length
  log : List.Forall₂ (Log.Entry.Alike change) state.log state'.log

end Session

/-- The sessions are the same, but for names, passwords and users, and for the servers that answer. -/
structure Session.Alike (change : UserChange) (session session' : Session) : Prop where
  repositories : List.Forall₂ (Repository.Alike change) session.repositories session'.repositories
  mirrors : List.Forall₂ (Mirror.Alike change) session.mirrors session'.mirrors
  pinned : List.Forall₂ (ResolvedCoordinate.Alike change) session.pinned session'.pinned
  includesCentral : session.includesCentral = session'.includesCentral
  centralUri : session.includesCentral = true →
    change.relates session.configuration.centralUri session'.configuration.centralUri
  transport : session.transport = session'.transport
  jarDirectory : session.jarDirectory = session'.jarDirectory
  reporting : session.reporting = session'.reporting
  xml : session.xml = session'.xml
end MavenResolution
