import MavenResolution.Files
import MavenResolution.Proofs.Path.Below

/-! Changes that put files below one place only. Directories may be made anywhere, and files may go. -/
namespace MavenResolution.Files

variable {base location directory : Location} {files after last : Files} {segments : List String}
  {depth : Nat}

def LiesBelow (base location : Location) : Prop := ∃ inner, inner ≠ [] ∧ location = base ++ inner

/-- Every file of later files has been there before as it is, or lies below the place. -/
structure AddsBelow (base : Location) (files after : Files) : Prop where
  here : after.here = files.here
  added : ∀ location content, after.nodeAt location = some (.file content) →
    files.nodeAt location = some (.file content) ∨ LiesBelow base location

theorem AddsBelow.refl (base : Location) (files : Files) : AddsBelow base files files :=
  ⟨rfl, fun _ _ => .inl⟩

theorem AddsBelow.trans (first : AddsBelow base files after) (second : AddsBelow base after last) :
    AddsBelow base files last where
  here := second.here.trans first.here
  added location content found := by
    rcases second.added location content found with before | below
    · exact first.added location content before
    · exact .inr below

/-! Single places. -/

/-- A file may be put here: below the place, or where it would not count, since the root is a directory. -/
def Allowed (base location : Location) : Prop := location = [] ∨ LiesBelow base location

theorem lookup_set_of_ne {other : Location} (node : Option Node) (differs : other ≠ location) :
    (files.set location node).nodes.lookup other = files.nodes.lookup other := by
  have filtered : (files.nodes.filter (·.1 != location)).lookup other = files.nodes.lookup other := by
    induction files.nodes with
    | nil => rfl
    | cons entry rest ih =>
      obtain ⟨place, node⟩ := entry
      by_cases same : place = location
      · have apart : (other == place) = false := by simpa [same] using differs
        rw [List.filter_cons_of_neg (by simpa using same), List.lookup_cons, apart]
        exact ih
      · rw [List.filter_cons_of_pos (by simpa using same), List.lookup_cons, List.lookup_cons, ih]
  have apart : (other == location) = false := by simpa using differs
  cases node with
  | none => exact filtered
  | some node => simpa [set, List.lookup_cons, apart] using filtered

theorem lookup_set_self (files : Files) (location : Location) (node : Option Node) :
    (files.set location node).nodes.lookup location = node := by
  have missing : (files.nodes.filter (·.1 != location)).lookup location = none := by
    rw [List.lookup_eq_none_iff]
    intro entry member
    have differs : entry.1 ≠ location := by simpa using (List.mem_filter.mp member).2
    simpa using differs.symm
  cases node with
  | none => exact missing
  | some node => simp [set]

theorem addsBelow_set (files : Files) {node : Option Node}
    (allowed : ∀ content, node = some (.file content) → Allowed base location) :
    AddsBelow base files (files.set location node) := by
  refine ⟨rfl, fun other content found => ?_⟩
  by_cases same : other = location
  · right
    subst same
    unfold nodeAt at found
    rw [lookup_set_self] at found
    split at found
    · cases found
    · rename_i inner
      rcases allowed content found with rfl | below
      · simp at inner
      · exact below
  · left
    unfold nodeAt at *
    rwa [lookup_set_of_ne node same] at found

theorem addsBelow_append (files : Files) (octets : List UInt8) (allowed : Allowed base location) :
    AddsBelow base files (files.append location octets) := by
  unfold append
  split
  · exact addsBelow_set files fun _ _ => allowed
  · exact .refl base files

theorem addsBelow_move {source target : Location} (moved : files.move source target = .ok after)
    (allowed : Allowed base target) : AddsBelow base files after := by
  unfold move at moved
  split at moved
  · cases moved
  · cases moved
    exact (addsBelow_set files (by rintro content ⟨⟩)).trans (addsBelow_set _ fun _ _ => allowed)
  · cases moved

/-! Directories. -/

/-- Where one segment of a path leads. -/
def stepFrom (location : Location) (segment : String) : Location :=
  if segment = ".." then location.dropLast else location ++ [segment]

/-- Where a path leads if all directories on the way are there. -/
def place (files : Files) (path : Path) : Location :=
  path.segments.foldl stepFrom (files.start path)

/-- Segments that do not lead above a place lead to places below it, or to itself. -/
theorem foldl_stepFrom_of_depthAfter (base below : Location)
    (fits : Path.depthAfter below.length segments = some depth) :
    ∃ inner, segments.foldl stepFrom (base ++ below) = base ++ inner ∧ inner.length = depth := by
  induction segments generalizing below with
  | nil => exact ⟨below, rfl, Option.some.inj fits⟩
  | cons segment rest ih =>
    rw [List.foldl_cons]
    by_cases up : segment = ".."
    · rcases List.eq_nil_or_concat below with rfl | ⟨others, final, rfl⟩
      · simp [Path.depthAfter, up] at fits
      · have step : stepFrom (base ++ others.concat final) segment = base ++ others := by
          simp [stepFrom, up, ← List.append_assoc]
        rw [step]
        exact ih others (by simpa [Path.depthAfter, up] using fits)
    · have step : stepFrom (base ++ below) segment = base ++ (below ++ [segment]) := by
        simp [stepFrom, up]
      rw [step]
      exact ih (below ++ [segment]) (by simpa [Path.depthAfter, up] using fits)

theorem makeAlong_addsBelow (base : Location) (files : Files) (location : Location)
    (segments : List String) : AddsBelow base files (files.makeAlong location segments).2 := by
  fun_induction makeAlong files location segments with
  | case1 => exact .refl base _
  | case2 files location rest ih => exact ih
  | case3 => exact .refl base _
  | case4 files location segment rest other short next found ih => exact ih
  | case5 => exact .refl base _
  | case6 files location segment rest other short next missing ih =>
    exact (addsBelow_set files (by rintro content ⟨⟩)).trans ih

theorem makeAlong_ok (files : Files) (location : Location) (segments : List String)
    (made : (files.makeAlong location segments).1 = .ok directory) :
    directory = segments.foldl stepFrom location := by
  fun_induction makeAlong files location segments with
  | case1 => exact (Except.ok.inj made).symm
  | case2 files location rest ih => simpa [stepFrom] using ih made
  | case3 => cases made
  | case4 files location segment rest other short next found ih => simpa [stepFrom, other] using ih made
  | case5 => cases made
  | case6 files location segment rest other short next missing ih =>
    simpa [stepFrom, other] using ih made

theorem makeDirectories_addsBelow (base : Location) (files : Files) (path : Path) :
    AddsBelow base files (files.makeDirectories path).2 := by
  unfold makeDirectories
  split
  · exact .refl base files
  · exact makeAlong_addsBelow base files _ _

theorem makeDirectories_ok {path : Path} (made : (files.makeDirectories path).1 = .ok directory) :
    directory = files.place path := by
  unfold makeDirectories at made
  split at made
  · cases made
  · exact makeAlong_ok files _ _ made

/-! Files that are not complete yet. -/

theorem partLocation_cases (files : Files) (directory : Location) (name : String) :
    files.partLocation directory name = [] ∨ ∃ number,
      files.partLocation directory name = directory ++ [partName name number] ∧
        files.nodeAt (directory ++ [partName name number]) = none := by
  unfold partLocation
  dsimp only
  cases found : ((List.range (files.nodes.length + 1)).map fun number =>
      directory ++ [partName name number]).find? fun location => (files.nodeAt location).isNone with
  | none => exact .inl rfl
  | some location =>
    have free := List.find?_some found
    obtain ⟨number, -, rfl⟩ := List.mem_map.mp (List.mem_of_find?_eq_some found)
    exact .inr ⟨number, rfl, Option.isNone_iff_eq_none.mp free⟩

theorem allowed_of_inner {inner : Location} (name : String) :
    Allowed base (base ++ inner ++ [name]) :=
  .inr ⟨inner ++ [name], by simp, by simp⟩

theorem beginPart_ok {inner : Location} {path : Path} {location : Location}
    (begun : files.beginPart (base ++ inner) path = .ok (location, after)) :
    Allowed base location ∧ AddsBelow base files after := by
  unfold beginPart at begun
  dsimp only at begun
  split at begun
  · cases begun
  · split at begun
    · cases begun
    · cases begun
      have allowed : Allowed base (files.partLocation (base ++ inner) path.name) := by
        rcases files.partLocation_cases (base ++ inner) path.name with root | ⟨number, same, -⟩
        · exact .inl root
        · rw [same]
          exact allowed_of_inner _
      exact ⟨allowed, addsBelow_set files fun _ _ => allowed⟩

end MavenResolution.Files
