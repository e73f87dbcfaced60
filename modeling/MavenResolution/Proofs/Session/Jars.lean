import MavenResolution.Proofs.Files.Below
import MavenResolution.Proofs.Session.Sending
import MavenResolution.Proofs.Text.Pieces

/-! Where jars are put. The path of a jar lies below the directory of jars, whatever that is, if and only if
the names in its coordinate neither start anew at the root nor take back more steps than they have made; and
then no file is put elsewhere. Nothing keeps names from doing so. -/
namespace MavenResolution

namespace Layout

open Text

variable {coordinate : ResolvedCoordinate} {directory : Path}

/-- The texts of which the path of a jar is put together, behind the directory. -/
def jarParts (coordinate : ResolvedCoordinate) : List String :=
  (pieces '.' coordinate.group.toList).map String.ofList ++
    [coordinate.artifact, coordinate.version, fileName coordinate "jar"]

theorem jarPath_eq_joinAll (directory : Path) (coordinate : ResolvedCoordinate) :
    jarPath directory coordinate = directory.joinAll (jarParts coordinate) :=
  (List.foldl_append ..).symm

def jarSegments (coordinate : ResolvedCoordinate) : List String :=
  (jarParts coordinate).flatMap fun part => (Path.ofText part).segments

/-- No part starts at the root, and the steps upwards never lead above the directory. -/
def Contained (coordinate : ResolvedCoordinate) : Prop :=
  (∀ part ∈ jarParts coordinate, (Path.ofText part).slashes = 0) ∧
    (Path.depthAfter 0 (jarSegments coordinate)).isSome

instance : DecidablePred Contained := fun _ => inferInstanceAs (Decidable (_ ∧ _))

/-- The name of a jar ends in one segment, whatever slashes are in it. -/
theorem exists_segments_fileName (coordinate : ResolvedCoordinate) : ∃ front last,
    (Path.ofText (fileName coordinate "jar")).segments = front ++ [String.ofList (last ++ ".jar".toList)] ∧
      '/' ∉ last := by
  let text := (coordinate.artifact ++ "-" ++ coordinate.effectiveVersion).toList
  obtain ⟨before, last, same⟩ := exists_pieces_append text
    (show '/' ∉ ".jar".toList by decide)
  have named : (fileName coordinate "jar").toList = text ++ ".jar".toList := by
    simp [fileName, text]
  have kept : (!(last ++ ".jar".toList).isEmpty && last ++ ".jar".toList != ['.']) = true := by
    cases last <;> simp
  have whole : [last ++ ".jar".toList].filter (fun piece => !piece.isEmpty && piece != ['.']) =
      [last ++ ".jar".toList] := by
    refine List.filter_eq_self.mpr fun piece member => ?_
    rw [List.mem_singleton.mp member]
    exact kept
  have unslashed : '/' ∉ last := by
    intro slash
    have cut : last ++ ".jar".toList ∈ pieces '/' (text ++ ".jar".toList) := by
      rw [same]
      exact List.mem_append_right _ List.mem_cons_self
    exact (mem_of_mem_pieces cut (List.mem_append_left _ slash)).2 rfl
  have ends : ∃ front, (Path.ofText (fileName coordinate "jar")).segments =
      front ++ [String.ofList (last ++ ".jar".toList)] := by
    change ∃ front, Path.segmentsOf (fileName coordinate "jar").toList = _
    rw [Path.segmentsOf, named, same, List.filter_append, whole, List.map_append]
    exact ⟨_, rfl⟩
  obtain ⟨front, segments⟩ := ends
  exact ⟨front, last, segments, unslashed⟩

theorem jarName_ne_up (last : List Char) : String.ofList (last ++ ".jar".toList) ≠ ".." := by
  intro up
  have long : (last ++ ".jar".toList).length = last.length + 4 := by simp
  have short := congrArg (fun name : String => name.toList.length) up
  simp only [String.toList_ofList, long] at short
  change last.length + 4 = 2 at short
  omega

/-- The last segment is the name of a jar, and no step upwards. -/
theorem exists_jarSegments (coordinate : ResolvedCoordinate) :
    ∃ front name, jarSegments coordinate = front ++ [name] ∧ name ≠ ".." := by
  obtain ⟨front, last, segments, -⟩ := exists_segments_fileName coordinate
  have split : jarSegments coordinate =
      ((pieces '.' coordinate.group.toList).map String.ofList ++
        [coordinate.artifact, coordinate.version]).flatMap (fun part => (Path.ofText part).segments) ++
      (Path.ofText (fileName coordinate "jar")).segments := by
    simp [jarSegments, jarParts]
  rw [split, segments, ← List.append_assoc]
  exact ⟨_, _, rfl, jarName_ne_up last⟩

theorem jarPath_of_contained (directory : Path) (contained : Contained coordinate) :
    jarPath directory coordinate = directory.extend (jarSegments coordinate) := by
  rw [jarPath_eq_joinAll]
  exact Path.joinAll_of_relative contained.1

/-- The names in a coordinate keep its jar below every directory, or else there are directories of which it
gets out. -/
theorem jarPath_below_iff (coordinate : ResolvedCoordinate) :
    (∀ directory : Path, directory.Below (jarPath directory coordinate)) ↔ Contained coordinate := by
  constructor
  · intro lies
    obtain ⟨slashes, -⟩ := lies {}
    rw [jarPath_eq_joinAll] at slashes
    obtain ⟨-, relative⟩ := Path.slashes_joinAll slashes
    refine ⟨relative, ?_⟩
    have extends_ : ∀ directory : Path, directory.Below (directory.extend (jarSegments coordinate)) := by
      intro directory
      have below := lies directory
      rwa [jarPath_eq_joinAll, Path.joinAll_of_relative relative] at below
    obtain ⟨depth, fits⟩ := (Path.below_extend_iff _).mp extends_
    rw [fits]
    rfl
  · intro contained directory
    rw [jarPath_of_contained directory contained]
    refine (Path.below_extend_iff _).mpr ?_ directory
    obtain ⟨front, name, split, down⟩ := exists_jarSegments coordinate
    have fits := contained.2
    rw [split] at fits ⊢
    obtain ⟨inner, -, deeper⟩ := Path.exists_depthAfter_of_concat down fits
    exact ⟨inner, deeper⟩

/-- A text without slashes is one segment, or none. -/
theorem ofText_of_unslashed {text : String} (unslashed : '/' ∉ text.toList) :
    (Path.ofText text).slashes = 0 ∧ ∀ segment ∈ (Path.ofText text).segments, segment = text := by
  refine ⟨Path.slashes_of_unslashed unslashed, ?_⟩
  intro segment member
  simp only [Path.ofText, Path.segmentsOf, pieces_of_not_mem unslashed, List.mem_map] at member
  obtain ⟨piece, kept, rfl⟩ := member
  rw [List.mem_singleton.mp (List.mem_filter.mp kept).1, String.ofList_toList]

/-- Names without slashes are contained, unless artifact or version is a step upwards. -/
theorem contained_of_unslashed (group : '/' ∉ coordinate.group.toList)
    (artifact : '/' ∉ coordinate.artifact.toList) (version : '/' ∉ coordinate.version.toList)
    (effective : '/' ∉ coordinate.effectiveVersion.toList) (named : coordinate.artifact ≠ "..")
    (versioned : coordinate.version ≠ "..") : Contained coordinate := by
  have parts : ∀ part ∈ jarParts coordinate, '/' ∉ part.toList ∧ part ≠ ".." := by
    intro part member
    simp only [jarParts, List.mem_append, List.mem_map, List.mem_cons, List.not_mem_nil, or_false]
      at member
    rcases member with ⟨piece, cut, rfl⟩ | rfl | rfl | rfl
    · constructor
      · intro slash
        rw [String.toList_ofList] at slash
        exact group (mem_of_mem_pieces cut slash).1
      · intro up
        have dotted : '.' ∈ piece := by
          rw [← String.toList_ofList (l := piece), up]
          decide
        exact (mem_of_mem_pieces cut dotted).2 rfl
    · exact ⟨artifact, named⟩
    · exact ⟨version, versioned⟩
    · constructor
      · simp [fileName, artifact, effective]
      · intro up
        have long := congrArg (fun name : String => name.toList.length) up
        simp [fileName] at long
        omega
  refine ⟨fun part member => (ofText_of_unslashed (parts part member).1).1, ?_⟩
  have down : ".." ∉ jarSegments coordinate := by
    intro up
    obtain ⟨part, member, inside⟩ := List.mem_flatMap.mp up
    obtain ⟨unslashed, other⟩ := parts part member
    exact other ((ofText_of_unslashed unslashed).2 _ inside).symm
  rw [Path.depthAfter_of_not_mem 0 down]
  rfl

end Layout

namespace Session

variable {session : Session} {directory path : Path} {coordinate : ResolvedCoordinate}
  {repository : Repository} {state after : State}

/-- Files are put strictly below a directory, and nowhere else. -/
def PutsBelow (directory : Path) (state after : State) : Prop :=
  Files.AddsBelow (state.files.place directory) state.files after.files

theorem PutsBelow.of_same (same : after.files = state.files) : PutsBelow directory state after := by
  unfold PutsBelow
  rw [same]
  exact .refl _ _

theorem frame_putsBelow (session : Session) (directory : Path) :
    session.Frame (PutsBelow directory) where
  refl _ := .of_same rfl
  trans {a b c} first second := by
    have same : b.files.place directory = a.files.place directory := by
      simp only [Files.place, Files.start, first.here]
    unfold PutsBelow at *
    rw [same] at second
    exact first.trans second
  noted _ _ _ := .of_same rfl
  sent _ _ _ := .of_same rfl

theorem report_putsBelow (session : Session) (failure : Failure) :
    Keeps (PutsBelow directory) (session.report failure) := by
  intro state
  refine .of_same ?_
  unfold report
  cases session.reporting <;> rfl

theorem closeResponse_putsBelow : Keeps (PutsBelow directory) closeResponse := fun _ => .of_same rfl

/-! The writing of a body. -/

/-- Files are put strictly below one place. -/
def AddsTo (base : Location) (state after : State) : Prop := Files.AddsBelow base state.files after.files

theorem composes_addsTo (base : Location) : Composes (AddsTo base) :=
  ⟨fun state => .refl base state.files, fun first second => Files.AddsBelow.trans first second⟩

theorem completeFile_addsTo {base source target : Location} (allowed : Files.Allowed base source)
    (allowed' : Files.Allowed base target) (chunks : List Http.Chunk) :
    Keeps (AddsTo base) (completeFile source target chunks) := by
  refine keeps_completeFile (composes_addsTo base) ?_ ?_ ?_ chunks
  · exact fun state => ⟨rfl, fun _ _ => .inl⟩
  · exact fun octets state => Files.addsBelow_append state.files octets allowed
  · exact fun state files moved => Files.addsBelow_move moved allowed'

/-- A body is written to a name in a directory below another one, or to nowhere. -/
theorem writeBody_putsBelow {front : List String} {name : String} {depth : Nat}
    (located : path = directory.extend (front ++ [name]))
    (fits : Path.depthAfter 0 front = some depth) (chunks : List Http.Chunk) :
    Keeps (PutsBelow directory) (writeBody path chunks) := by
  intro state
  let base := state.files.place directory
  have parent : path.parent = directory.extend front := by
    simp [located, Path.parent, Path.extend]
  have inside : ∃ inner, state.files.place path.parent = base ++ inner := by
    obtain ⟨inner, same, -⟩ := Files.foldl_stepFrom_of_depthAfter base [] fits
    refine ⟨inner, ?_⟩
    rw [List.append_nil] at same
    rw [parent, ← same]
    exact List.foldl_append ..
  have made := Files.makeDirectories_addsBelow base state.files path.parent
  unfold writeBody
  rw [get_bind_apply]
  dsimp only
  rw [setFiles_bind_apply]
  cases outcome : (state.files.makeDirectories path.parent).1 with
  | error fault => exact made
  | ok reached =>
    obtain ⟨inner, same⟩ := inside
    obtain rfl : reached = base ++ inner := (Files.makeDirectories_ok outcome).trans same
    generalize (state.files.makeDirectories path.parent).2 = files at made ⊢
    dsimp only
    cases begun : files.beginPart (base ++ inner) path with
    | error fault => exact made
    | ok begin =>
      obtain ⟨part, opened⟩ := begin
      obtain ⟨allowed, begins⟩ := Files.beginPart_ok begun
      dsimp only
      rw [setFiles_bind_apply]
      have target : Files.Allowed base (base ++ inner ++ [path.name]) := Files.allowed_of_inner path.name
      have written := completeFile_addsTo allowed target chunks { state with files := opened }
      rw [bind_apply]
      generalize completeFile part _ chunks { state with files := opened } = run at written ⊢
      obtain ⟨result, after⟩ := run
      have before := (made.trans begins).trans written
      cases result with
      | error fault => exact before.trans (Files.addsBelow_set after.files (by rintro content ⟨⟩))
      | ok _ => exact before

/-! Jars. -/

theorem fetchJar_putsBelow (session : Session) (coordinate : ResolvedCoordinate)
    (repository : Repository)
    (written : ∀ chunks, Keeps (PutsBelow directory) (writeBody path chunks)) :
    Keeps (PutsBelow directory) (session.fetchJar coordinate repository path).run :=
  (session.frame_putsBelow directory).fetchJar written closeResponse_putsBelow
    fun _ => session.report_putsBelow _

theorem writeJar_putsBelow (contained : Layout.Contained coordinate) (directory : Path)
    (chunks : List Http.Chunk) :
    Keeps (PutsBelow directory) (writeBody (Layout.jarPath directory coordinate) chunks) := by
  obtain ⟨front, name, split_, down⟩ := Layout.exists_jarSegments coordinate
  have located : Layout.jarPath directory coordinate = directory.extend (front ++ [name]) := by
    rw [Layout.jarPath_of_contained directory contained, split_]
  obtain ⟨depth, fits, -⟩ := Path.exists_depthAfter_of_concat down (split_ ▸ contained.2)
  exact writeBody_putsBelow located fits chunks

theorem jar_putsBelow (contained : Layout.Contained coordinate) (session : Session)
    (directory : Path) (repository : Repository) (type : Option String) :
    Keeps (PutsBelow directory) (session.jar directory coordinate repository type).run := by
  have frame := session.frame_putsBelow directory
  refine frame.jar (fun _ _ => .of_same rfl) ?_ type
  exact session.fetchJar_putsBelow coordinate repository (writeJar_putsBelow contained directory)

/-- Every directory keeps the jars of a coordinate if and only if its names never lead above the directory; and
then no file is put elsewhere, whatever is done to get the jar. -/
theorem jar_kept_iff_contained (coordinate : ResolvedCoordinate) :
    ((∀ directory : Path, directory.Below (Layout.jarPath directory coordinate)) ↔
        Layout.Contained coordinate) ∧
      (Layout.Contained coordinate → ∀ (session : Session) directory repository type state location content,
        let after := ((session.jar directory coordinate repository type).run state).2
        after.files.nodeAt location = some (.file content) →
          state.files.nodeAt location = some (.file content) ∨
            Files.LiesBelow (state.files.place directory) location) := by
  constructor
  · exact Layout.jarPath_below_iff coordinate
  · intro contained session directory repository type state location content after found
    exact (jar_putsBelow contained session directory repository type state).added location content
      found

theorem exists_jar_escaped :
    let server : Http.Server := fun _ _ => .ok { status := 200, chunks := [.ok [106, 97, 114]] }
    let session : Session :=
      { transport := Http.Transport.ofConfiguration {}, jarDirectory := some (Path.ofText "jars"), server }
    let coordinate : ResolvedCoordinate := ⟨none, "org", "../../x", "1", none⟩
    let directory := Path.ofText "jars"
    let files := ((session.jar directory coordinate
      { id := some "a", uri := "https://a.example" } none).run {}).2.files
    ¬directory.Below (Layout.jarPath directory coordinate) ∧
      files.place directory = ["tmp", "work", "jars"] ∧
      files.nodeAt ["tmp", "work", "x-1.jar"] = some (.file [106, 97, 114]) := by
  intro server session coordinate directory files
  refine ⟨?_, by decide +kernel, by decide +kernel⟩
  rintro ⟨-, inner, -, -, same⟩
  have outside : (Layout.jarPath directory coordinate).normalize.segments = ["x-1.jar"] := by
    decide +kernel
  have inside : directory.normalize.segments = ["jars"] := by decide +kernel
  rw [outside, inside] at same
  simp at same

end Session
end MavenResolution
