import Mathlib.Data.List.Basic
import MavenResolution.Proofs.Session.Writing

/-! Which jars share a place. Names that are single segments can be read off the path that they are put into, so that
two coordinates have one path only if they name one jar; and getting one jar neither puts a file where another one
belongs nor tells anything about it. -/
namespace MavenResolution

namespace Path

variable {directory : Path} {name : String} {segments others : List String}

/-- The name leads one step down, wherever it stands in a path. -/
structure IsStep (name : String) : Prop where
  unslashed : '/' ∉ name.toList
  filled : name.toList ≠ []
  moves : name.toList ≠ ['.']
  down : name ≠ ".."

theorem IsStep.segments_ofText (step : IsStep name) : (ofText name).segments = [name] := by
  simp [ofText, segmentsOf, Text.pieces_of_not_mem step.unslashed, step.filled, step.moves]

theorem extend_inj : directory.extend segments = directory.extend others ↔ segments = others := by
  simp [extend]

end Path

/-- Steps down lead to a place below the one where they start. -/
theorem Files.place_extend {segments : List String} (down : ".." ∉ segments) (files : Files) (directory : Path) :
    files.place (directory.extend segments) = files.place directory ++ segments := by
  have along (location : Location) : segments.foldl stepFrom location = location ++ segments := by
    induction segments generalizing location with
    | nil => simp
    | cons segment rest ih =>
      rw [List.mem_cons, not_or] at down
      have step : stepFrom location segment = location ++ [segment] := if_neg (Ne.symm down.1)
      rw [List.foldl_cons, step, ih down.2, List.append_assoc, List.singleton_append]
  rw [← along]
  exact List.foldl_append ..

theorem Text.pieces_inj {mark : Char} {text other : List Char} :
    pieces mark text = pieces mark other ↔ text = other := by
  refine ⟨fun same => ?_, congrArg _⟩
  rw [pieces_eq_splitOn, pieces_eq_splitOn] at same
  have joined (text : List Char) : [mark].intercalate (text.splitOn mark) = text := List.intercalate_splitOn mark
  rw [← joined text, same, joined]

namespace Layout

open Text

variable {coordinate other : ResolvedCoordinate} {directory : Path}

/-- The names in a coordinate are single steps, and its group is made of such names. -/
structure Plain (coordinate : ResolvedCoordinate) : Prop where
  grouped : ∀ piece ∈ pieces '.' coordinate.group.toList, piece ≠ []
  group : '/' ∉ coordinate.group.toList
  artifact : Path.IsStep coordinate.artifact
  version : Path.IsStep coordinate.version
  effective : '/' ∉ coordinate.effectiveVersion.toList

/-- The coordinates name one jar. -/
def SameJar (coordinate other : ResolvedCoordinate) : Prop :=
  coordinate.group = other.group ∧ coordinate.artifact = other.artifact ∧ coordinate.version = other.version ∧
    coordinate.effectiveVersion = other.effectiveVersion

theorem Plain.isStep (plain : Plain coordinate) : ∀ part ∈ jarParts coordinate, Path.IsStep part := by
  intro part member
  simp only [jarParts, List.mem_append, List.mem_map, List.mem_cons, List.not_mem_nil, or_false] at member
  rcases member with ⟨piece, cut, rfl⟩ | rfl | rfl | rfl
  · -- A piece of the group has no dot in it, so that it is no step to where it stands and none upwards.
    have undotted : '.' ∉ piece := fun dot => (mem_of_mem_pieces cut dot).2 rfl
    refine ⟨fun slash => plain.group ?_, ?_, ?_, ?_⟩
    · rw [String.toList_ofList] at slash
      exact (mem_of_mem_pieces cut slash).1
    · rw [String.toList_ofList]
      exact plain.grouped piece cut
    · rw [String.toList_ofList]
      rintro rfl
      exact undotted List.mem_cons_self
    · intro up
      rw [← String.toList_ofList (l := piece), up] at undotted
      exact undotted (by decide)
  · exact plain.artifact
  · exact plain.version
  · have long (text : String) (short : text.toList.length < 4) : fileName coordinate "jar" ≠ text := by
      rintro rfl
      simp [fileName] at short
      omega
    refine ⟨?_, ?_, ?_, long ".." (by decide)⟩
    · simp [fileName, plain.artifact.unslashed, plain.effective]
    · simp [fileName]
    · intro here
      exact long "." (by decide) (String.toList_inj.mp here)

theorem Plain.down (plain : Plain coordinate) : ".." ∉ jarParts coordinate := fun up =>
  (plain.isStep _ up).down rfl

/-- The path of a jar is made of the names as they are. -/
theorem Plain.jarPath_eq (plain : Plain coordinate) (directory : Path) :
    jarPath directory coordinate = directory.extend (jarParts coordinate) := by
  have relative : ∀ part ∈ jarParts coordinate, (Path.ofText part).slashes = 0 := fun part member =>
    Path.slashes_of_unslashed (plain.isStep part member).unslashed
  have kept : (jarParts coordinate).flatMap (fun part => (Path.ofText part).segments) = jarParts coordinate := by
    rw [List.flatMap_congr fun part member => (plain.isStep part member).segments_ofText, List.flatMap_singleton']
  rw [jarPath_eq_joinAll, Path.joinAll_of_relative relative, kept]

theorem Plain.contained (plain : Plain coordinate) : Contained coordinate :=
  contained_of_unslashed plain.group plain.artifact.unslashed plain.version.unslashed plain.effective
    plain.artifact.down plain.version.down

/-- The names can be read off again: the last three are artifact, version and file, the file begins with the artifact,
and all in front of them is the group. -/
theorem jarParts_inj : jarParts coordinate = jarParts other ↔ SameJar coordinate other := by
  constructor
  · intro same
    obtain ⟨groups, names⟩ := List.append_inj' same rfl
    injection names with artifact names
    injection names with version names
    injection names with file
    have group : coordinate.group = other.group := by
      rw [List.map_inj_right fun _ _ => String.ofList_inj.mp, pieces_inj] at groups
      exact String.toList_inj.mp groups
    have effective : coordinate.effectiveVersion = other.effectiveVersion := by
      rw [fileName, fileName, artifact] at file
      simpa using file
    exact ⟨group, artifact, version, effective⟩
  · rintro ⟨group, artifact, version, effective⟩
    rw [jarParts, jarParts, fileName, fileName, group, artifact, version, effective]

theorem jarPath_inj (plain : Plain coordinate) (plain' : Plain other) :
    jarPath directory coordinate = jarPath directory other ↔ SameJar coordinate other := by
  rw [plain.jarPath_eq, plain'.jarPath_eq, Path.extend_inj, jarParts_inj]

theorem place_jarPath_inj (plain : Plain coordinate) (plain' : Plain other) (files : Files) :
    files.place (jarPath directory coordinate) = files.place (jarPath directory other) ↔
      SameJar coordinate other := by
  rw [plain.jarPath_eq, plain'.jarPath_eq, Files.place_extend plain.down, Files.place_extend plain'.down,
    List.append_cancel_left_eq, jarParts_inj]

end Layout

/-! What becomes of other jars. -/

/-- A fetch that leaves the cache alone says nothing about other keys, whether it is made or another one is waited
for. -/
theorem Region.compute_apart {σ κ ν ε α τ : Type} [BEq κ] [LawfulBEq κ] {region : Region σ κ ν} {rest : σ → τ}
    (beside : region.Beside rest) {key other : κ} (apart : other ≠ key) (outcome : α → Option ν)
    {fetch : StateM σ (Except ε α)} (kept : ∀ state, region.cache (fetch state).2 = region.cache state)
    (waiters : Nat) (state : σ) :
    (region.cache (region.compute key outcome fetch waiters state).2).known other =
      (region.cache state).known other := by
  cases known : (region.cache state).known key with
  | none =>
    have learns : ∀ other, (region.cache (region.compute key outcome fetch waiters state).2).known other =
        region.learned key outcome (fetch (region.asked waiters key state)).1 state other :=
      (compute_learns beside outcome known (kept _)).2.1
    rw [learns]
    cases (fetch (region.asked waiters key state)).1 with
    | ok found => exact if_neg fun same => apart (eq_of_beq same)
    | error fault => rfl
  | some flight =>
    have claimed : ((region.cache state).claim key).1 = (match flight with
        | .done found => .known found
        | .pending ticket => .waiting ticket) ∧
        ((region.cache state).claim key).2.entries = (region.cache state).entries := by
      rw [SingleFlight.claim, show (region.cache state).entries.lookup key = some flight from known]
      cases flight <;> exact ⟨rfl, rfl⟩
    have unchanged : (region.cache (region.compute key outcome fetch waiters state).2).entries =
        (region.cache state).entries := by
      rw [compute_apply]
      dsimp only
      rw [claimed.1]
      cases flight <;> exact (congrArg SingleFlight.entries (beside.cache_withCache _ _)).trans claimed.2
    rw [SingleFlight.known, unchanged, SingleFlight.known]

namespace Session

variable {session : Session} {directory : Path} {coordinate other : ResolvedCoordinate} {state after : State}

/-- The same file is at the place of a path, or there is none before and after. -/
structure KeepsFile (path : Path) (state after : State) : Prop where
  here : after.files.here = state.files.here
  same : ∀ content, after.files.nodeAt (after.files.place path) = some (.file content) ↔
    state.files.nodeAt (state.files.place path) = some (.file content)

theorem KeepsFile.of_same {path : Path} (same : after.files = state.files) : KeepsFile path state after :=
  ⟨congrArg Files.here same, fun _ => by rw [same]⟩

theorem frame_keepsFile (session : Session) (path : Path) : session.Frame (KeepsFile path) where
  refl _ := .of_same rfl
  trans first second := ⟨second.here.trans first.here, fun content => (second.same content).trans (first.same content)⟩
  noted _ _ _ := .of_same rfl
  sent _ _ _ := .of_same rfl

theorem writeBody_keepsFile (plain : Layout.Plain coordinate) (plain' : Layout.Plain other)
    (apart : ¬Layout.SameJar coordinate other) (directory : Path) (chunks : List Http.Chunk) :
    Keeps (KeepsFile (Layout.jarPath directory other)) (writeBody (Layout.jarPath directory coordinate) chunks) := by
  intro state
  have here := (writeJar_putsBelow plain.contained directory chunks state).here
  refine ⟨here, fun content => ?_⟩
  have place : (writeBody (Layout.jarPath directory coordinate) chunks state).2.files.place
      (Layout.jarPath directory other) = state.files.place (Layout.jarPath directory other) := by
    rw [Files.place, Files.start, here]
    rfl
  have elsewhere : state.files.place (Layout.jarPath directory other) ≠
      state.files.place (Layout.jarPath directory coordinate) := fun same =>
    apart ((Layout.place_jarPath_inj plain plain' state.files).mp same.symm)
  have made := Files.makeDirectories_files state.files (Layout.jarPath directory coordinate).parent
    (state.files.place (Layout.jarPath directory other)) content
  rw [place]
  obtain ⟨files, -, ⟨octets, run, -, -, others⟩ | ⟨fault, run, -, alike⟩⟩ :=
    writeBody_cases (Layout.namesFile_jarPath directory coordinate) chunks state
  · rw [run]
    dsimp only
    rwa [others _ elsewhere]
  · rw [run]
    dsimp only
    rwa [alike.nodeAt]

theorem report_keepsFile (session : Session) (path : Path) (failure : Failure) :
    Keeps (KeepsFile path) (session.report failure) := by
  intro state
  refine .of_same ?_
  unfold report
  cases session.reporting <;> rfl

theorem jar_keepsFile (plain : Layout.Plain coordinate) (plain' : Layout.Plain other)
    (apart : ¬Layout.SameJar coordinate other) (session : Session) (directory : Path) (repository : Repository)
    (type : Option String) : Keeps (KeepsFile (Layout.jarPath directory other))
      (session.jar directory coordinate repository type).run := by
  have frame := session.frame_keepsFile (Layout.jarPath directory other)
  refine frame.jar (fun _ _ => .of_same rfl) ?_ type
  exact frame.fetchJar (writeBody_keepsFile plain plain' apart directory) (fun _ => .of_same rfl)
    fun fault => session.report_keepsFile _ _

/-- A body that is fetched leaves the fetches that are on their way to themselves. -/
theorem fetchJar_jars (session : Session) (coordinate : ResolvedCoordinate) (repository : Repository) (path : Path)
    (state : State) : ((session.fetchJar coordinate repository path).run state).2.jars = state.jars := by
  have frame : session.Frame fun state after => after.jars = state.jars :=
    { refl := fun _ => rfl
      trans := fun first second => second.trans first
      noted := fun _ _ _ => rfl
      sent := fun _ _ _ => rfl }
  have reported (failure : Failure) : Keeps (fun state after : State => after.jars = state.jars)
      (session.report failure) := by
    intro state
    unfold report
    cases session.reporting <;> rfl
  exact frame.fetchJar (keeps_writeBody frame.toComposes (fun _ _ => rfl) path) (fun _ => rfl) (fun _ => reported _)
    state

theorem jarRegion_beside : jarRegion.Beside fun _ : State => () :=
  ⟨fun _ _ => rfl, fun _ _ => rfl, fun _ _ => rfl, fun _ _ => rfl⟩

/-- What is known of the jar at another path stays as it is, whether it is there or on its way. -/
theorem jar_known {path : Path} (apart : path ≠ Layout.jarPath directory coordinate) (session : Session)
    (repository : Repository) (type : Option String) (state : State) :
    ((session.jar directory coordinate repository type).run state).2.jars.known path = state.jars.known path := by
  unfold jar
  split
  · rfl
  · have got : (get : Run State).run state = (.ok state, state) := rfl
    dsimp only
    rw [run_bind_apply, got]
    dsimp only
    split
    · rfl
    · rfl
    · exact Region.compute_apart jarRegion_beside apart id (session.fetchJar_jars coordinate repository _) 0 state

/-- The names in a coordinate can be read off the path of its jar if they are single steps. What is done to get one
jar therefore puts no file where another one belongs, and leaves the fetch of another one alone. -/
theorem jarPath_distinguishes (directory : Path) (coordinate other : ResolvedCoordinate)
    (plain : Layout.Plain coordinate) (plain' : Layout.Plain other) :
    let path := Layout.jarPath directory coordinate
    let path' := Layout.jarPath directory other
    (path = path' ↔ Layout.SameJar coordinate other) ∧
      (∀ files : Files, files.place path = files.place path' ↔ Layout.SameJar coordinate other) ∧
      (¬Layout.SameJar coordinate other → ∀ (session : Session) repository type (state : State),
        let after := ((session.jar directory coordinate repository type).run state).2
        after.jars.known path' = state.jars.known path' ∧
          ∀ content, after.files.nodeAt (after.files.place path') = some (.file content) ↔
            state.files.nodeAt (state.files.place path') = some (.file content)) := by
  intro path path'
  have inj : path = path' ↔ Layout.SameJar coordinate other := Layout.jarPath_inj plain plain'
  refine ⟨inj, Layout.place_jarPath_inj plain plain', fun apart session repository type state => ⟨?_, ?_⟩⟩
  · exact jar_known (fun same => apart (inj.mp same.symm)) session repository type state
  · exact (jar_keepsFile plain plain' apart session directory repository type state).same

/-- Two versions whose jars have one name have different paths. -/
theorem jarPath_distinguishes_alike_names :
    let coordinate : ResolvedCoordinate := ⟨none, "org", "lib-1", "1", some "2"⟩
    let other : ResolvedCoordinate := ⟨none, "org", "lib", "1", some "1-2"⟩
    Layout.fileName coordinate "jar" = Layout.fileName other "jar" ∧ Layout.Plain coordinate ∧ Layout.Plain other ∧
      Layout.jarPath (Path.ofText "jars") coordinate ≠ Layout.jarPath (Path.ofText "jars") other := by
  intro coordinate other
  have plain : Layout.Plain coordinate :=
    ⟨by decide, by decide, ⟨by decide, by decide, by decide, by decide⟩, ⟨by decide, by decide, by decide, by decide⟩,
      by decide⟩
  have plain' : Layout.Plain other :=
    ⟨by decide, by decide, ⟨by decide, by decide, by decide, by decide⟩, ⟨by decide, by decide, by decide, by decide⟩,
      by decide⟩
  refine ⟨by decide, plain, plain', fun same => ?_⟩
  obtain ⟨-, artifact, -⟩ := (jarPath_distinguishes (Path.ofText "jars") coordinate other plain plain').1.mp same
  exact absurd artifact (by decide)

end Session
end MavenResolution
