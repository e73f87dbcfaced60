import MavenResolution.Path

/-! Paths below a directory. What is put together from a directory and further segments lies below it,
whatever the directory, if and only if the segments never take back more steps than they have made. -/
namespace MavenResolution.Path

variable {anchored : Bool} {base below segments : List String} {depth : Nat} {directory path : Path}
  {texts : List String}

/-- How deep segments lead, from a depth on, if they never lead above where the depth is counted from. -/
def depthAfter : Nat → List String → Option Nat
  | depth, [] => some depth
  | depth, segment :: rest =>
    if segment = ".." then
      match depth with
      | 0 => none
      | depth + 1 => depthAfter depth rest
    else depthAfter (depth + 1) rest

theorem depthAfter_append (depth : Nat) (segments rest : List String) :
    depthAfter depth (segments ++ rest) = (depthAfter depth segments).bind (depthAfter · rest) := by
  induction segments generalizing depth with
  | nil => rfl
  | cons segment others ih =>
    rw [List.cons_append]
    by_cases up : segment = ".."
    · cases depth with
      | zero => simp [depthAfter, up]
      | succ depth => simpa [depthAfter, up] using ih depth
    · simpa [depthAfter, up] using ih (depth + 1)

theorem depthAfter_of_not_mem (depth : Nat) (down : ".." ∉ segments) :
    depthAfter depth segments = some (depth + segments.length) := by
  induction segments generalizing depth with
  | nil => rfl
  | cons segment rest ih =>
    rw [List.mem_cons, not_or] at down
    have step : segment ≠ ".." := fun same => down.1 same.symm
    simp only [depthAfter, step, if_false, ih (depth + 1) down.2, List.length_cons]
    congr 1
    omega

/-- A name leads one deeper than what is in front of it. -/
theorem exists_depthAfter_of_concat {name : String} (down : name ≠ "..")
    (fits : (depthAfter depth (segments ++ [name])).isSome) :
    ∃ inner, depthAfter depth segments = some inner ∧
      depthAfter depth (segments ++ [name]) = some (inner + 1) := by
  obtain ⟨last, reaches⟩ := Option.isSome_iff_exists.mp fits
  rw [depthAfter_append] at reaches ⊢
  obtain ⟨inner, before, -⟩ := Option.bind_eq_some_iff.mp reaches
  refine ⟨inner, before, ?_⟩
  rw [before, Option.bind_some]
  simp [depthAfter, down]

/-! Steps upwards. -/

theorem resolveSteps_append (anchored : Bool) (done segments rest : List String) :
    resolveSteps anchored done (segments ++ rest) =
      resolveSteps anchored (resolveSteps anchored done segments).reverse rest := by
  fun_induction resolveSteps anchored done segments with
  | case1 done => rw [List.nil_append, List.reverse_reverse]
  | case2 others ih => simp [resolveSteps, ih]
  | case3 others done ih => simp [resolveSteps, ih]
  | case4 others last done other ih => simp [resolveSteps, other, ih]
  | case5 done segment others other ih => simp [resolveSteps, other, ih]

/-- Segments that do not lead above a place go on from it. -/
theorem resolveSteps_of_depthAfter (anchored : Bool) (base below : List String) (inside : ".." ∉ below)
    (fits : depthAfter below.length segments = some depth) :
    ∃ inner, resolveSteps anchored (below ++ base) segments = base.reverse ++ inner ∧
      inner.length = depth ∧ ".." ∉ inner := by
  induction segments generalizing below with
  | nil =>
    refine ⟨below.reverse, ?_, ?_, by simpa using inside⟩
    · rw [resolveSteps, List.reverse_append]
    · rw [List.length_reverse]
      exact Option.some.inj fits
  | cons segment rest ih =>
    by_cases up : segment = ".."
    · cases below with
      | nil => simp [depthAfter, up] at fits
      | cons last others =>
        have inner : last ≠ ".." := fun same => inside (by simp [same])
        have outer : ".." ∉ others := fun member => inside (List.mem_cons_of_mem _ member)
        simp only [List.cons_append, resolveSteps, up, inner, if_true, if_false]
        exact ih others outer (by simpa [depthAfter, up] using fits)
    · have inner : ".." ∉ segment :: below := by
        rw [List.mem_cons, not_or]
        exact ⟨fun same => up same.symm, inside⟩
      simp only [resolveSteps, up, if_false]
      exact ih (segment :: below) inner (by simpa [depthAfter, up] using fits)

/-- A step upwards from the start of a relative path is never taken back. -/
theorem mem_resolveSteps_of_escaped (below segments : List String) :
    ".." ∈ resolveSteps false (below ++ [".."]) segments := by
  induction segments generalizing below with
  | nil => simp [resolveSteps]
  | cons segment rest ih =>
    by_cases up : segment = ".."
    · cases below with
      | nil =>
        simp only [List.nil_append, resolveSteps, up, if_true]
        exact ih [".."]
      | cons last others =>
        simp only [List.cons_append, resolveSteps, up, if_true]
        split
        · exact ih (".." :: last :: others)
        · exact ih others
    · simp only [resolveSteps, up, if_false]
      exact ih (segment :: below)

theorem mem_resolveSteps_of_depthAfter (below : List String) (inside : ".." ∉ below)
    (escapes : depthAfter below.length segments = none) :
    ".." ∈ resolveSteps false below segments := by
  induction segments generalizing below with
  | nil => cases escapes
  | cons segment rest ih =>
    by_cases up : segment = ".."
    · cases below with
      | nil =>
        simp only [resolveSteps, up, if_true, Bool.false_eq_true, if_false]
        exact mem_resolveSteps_of_escaped [] rest
      | cons last others =>
        have inner : last ≠ ".." := fun same => inside (by simp [same])
        have outer : ".." ∉ others := fun member => inside (List.mem_cons_of_mem _ member)
        simp only [resolveSteps, up, inner, if_true, if_false]
        exact ih others outer (by simpa [depthAfter, up] using escapes)
    · have inner : ".." ∉ segment :: below := by
        rw [List.mem_cons, not_or]
        exact ⟨fun same => up same.symm, inside⟩
      simp only [resolveSteps, up, if_false]
      exact ih (segment :: below) inner (by simpa [depthAfter, up] using escapes)

/-! Places below a directory. -/

/-- The path goes on from the directory, when both are without the steps upwards that can be taken back. -/
def Below (directory path : Path) : Prop :=
  path.slashes = directory.slashes ∧ ∃ inner, inner ≠ [] ∧ ".." ∉ inner ∧
    path.normalize.segments = directory.normalize.segments ++ inner

/-- The path with further segments behind it. -/
def extend (path : Path) (segments : List String) : Path :=
  { path with segments := path.segments ++ segments }

theorem below_extend_iff (segments : List String) :
    (∀ directory : Path, directory.Below (directory.extend segments)) ↔
      ∃ depth, depthAfter 0 segments = some (depth + 1) := by
  constructor
  · intro lies
    obtain ⟨-, inner, nonempty, inside, same⟩ := lies {}
    have resolved : resolveSteps false [] segments = inner := same
    cases fits : depthAfter 0 segments with
    | none =>
      have escaped := mem_resolveSteps_of_depthAfter [] List.not_mem_nil fits
      rw [resolved] at escaped
      exact absurd escaped inside
    | some depth =>
      obtain ⟨other, same, long, -⟩ := resolveSteps_of_depthAfter false [] [] List.not_mem_nil
        fits
      have equal : inner = other := resolved.symm.trans same
      cases depth with
      | zero =>
        rw [List.length_eq_zero_iff] at long
        exact absurd (equal.trans long) nonempty
      | succ depth => exact ⟨depth, rfl⟩
  · rintro ⟨depth, fits⟩ directory
    let anchored : Bool := directory.slashes ≠ 0
    obtain ⟨inner, same, long, inside⟩ := resolveSteps_of_depthAfter anchored
      directory.normalize.segments.reverse [] List.not_mem_nil fits
    refine ⟨rfl, inner, ?_, inside, ?_⟩
    · rintro rfl
      cases long
    · rw [List.nil_append, List.reverse_reverse] at same
      rw [← same]
      exact resolveSteps_append anchored [] directory.segments segments

/-! Paths that are put together. -/

theorem slashes_of_unslashed {text : String} (unslashed : '/' ∉ text.toList) : (ofText text).slashes = 0 := by
  have start : text.toList.takeWhile (· == '/') = [] := by
    cases chars : text.toList with
    | nil => rfl
    | cons c rest =>
      rw [chars, List.mem_cons, not_or] at unslashed
      have other : (c == '/') = false := by simpa using Ne.symm unslashed.1
      rw [List.takeWhile_cons, other]
      rfl
  simp [ofText, start, leadingSlashes]

theorem slashes_joinAll (joined : (path.joinAll texts).slashes = 0) :
    path.slashes = 0 ∧ ∀ text ∈ texts, (ofText text).slashes = 0 := by
  induction texts generalizing path with
  | nil => exact ⟨joined, fun _ member => nomatch member⟩
  | cons text rest ih =>
    obtain ⟨here, there⟩ := @ih (path.join text) joined
    by_cases relative : (ofText text).slashes = 0
    · simp only [join, relative, if_true] at here
      exact ⟨here, List.forall_mem_cons.mpr ⟨relative, there⟩⟩
    · simp only [join, relative, if_false] at here

theorem joinAll_of_relative (relative : ∀ text ∈ texts, (ofText text).slashes = 0) :
    path.joinAll texts = path.extend (texts.flatMap fun text => (ofText text).segments) := by
  induction texts generalizing path with
  | nil => simp [joinAll, extend]
  | cons text rest ih =>
    obtain ⟨here, there⟩ := List.forall_mem_cons.mp relative
    have joined : path.join text = path.extend (ofText text).segments := by
      simp [join, here, extend]
    change (path.join text).joinAll rest = _
    rw [ih there, joined]
    simp [extend]

end MavenResolution.Path
