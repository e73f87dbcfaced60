import MavenResolution.Proofs.Text.Blank
import MavenResolution.Proofs.Text.Pieces
import MavenResolution.Repository.Mirror

/-! What a mirror stands in for depends on which entries its list has, and on nothing else: an
exclusion counts wherever it stands, and order, repetition and blanks do not count. -/
namespace MavenResolution

open Text

variable {text piece entry name front back : List Char} {written other : List (List Char)}

namespace Mirror

variable {mirror : Mirror} {mirrors : List Mirror} {repository : Repository}

/-- One of the pieces between the commas of the text is the entry with blanks around it, and the
entry is not empty. -/
def Lists (text entry : List Char) : Prop := entry ≠ [] ∧ ∃ piece ∈ text.splitOn ',', trim piece = entry

/-- The id of the repository or its URL. -/
def IsCalled (repository : Repository) (name : List Char) : Prop :=
  repository.id = some (String.ofList name) ∨ repository.uri = String.ofList name

/-- The URL of the repository, if it can be read as one, names neither a directory nor this
machine. -/
def IsOutside (repository : Repository) : Prop :=
  ∀ url, Url.ofChars? repository.uri.toList = some url →
    url.scheme ≠ "file".toList ∧ ∀ host ∈ ["localhost", "127.0.0.1", "::1"], host.toList ≠ url.host

theorem mem_entries : entry ∈ entries text ↔ Lists text entry := by
  rw [entries, pieces_eq_splitOn, List.mem_filter, List.mem_map, Bool.not_eq_true', List.isEmpty_eq_false_iff]
  exact and_comm

theorem isNamed_iff : isNamed name repository = true ↔ IsCalled repository name := by
  rw [isNamed, Bool.or_eq_true, beq_iff_eq, beq_iff_eq, eq_comm, @eq_comm _ (String.ofList name)]
  rfl

theorem isExternal_iff : isExternal repository = true ↔ IsOutside repository := by
  unfold isExternal IsOutside
  cases read : Url.ofChars? repository.uri.toList with
  | none => simp only [reduceCtorEq, false_implies, implies_true]
  | some url =>
    simp only [Bool.and_eq_true, bne_iff_ne, Bool.not_eq_true', List.any_eq_false, beq_iff_eq,
      Option.some.injEq, forall_eq', localHosts, ne_eq]

/-- What one selector adds to the repositories a mirror stands in for. -/
def Selector.Admits (repository : Repository) : Selector → Prop
  | .excluded _ => False
  | .everything => True
  | .external => IsOutside repository
  | .named name => IsCalled repository name

theorem selects_iff (found : Bool) (selectors : List Selector) :
    selects repository found selectors = true ↔
      (∀ name, .excluded name ∈ selectors → ¬IsCalled repository name) ∧
      (found = true ∨ ∃ selector ∈ selectors, selector.Admits repository) := by
  induction selectors generalizing found with
  | nil => simp [selects]
  | cons selector rest ih =>
    cases selector with
    | excluded name =>
      rw [selects]
      split
      · rename_i named
        refine iff_of_false Bool.false_ne_true fun both => ?_
        exact both.1 name List.mem_cons_self (isNamed_iff.mp named)
      · rename_i unnamed
        rw [isNamed_iff] at unnamed
        rw [ih]
        simp [Selector.Admits, or_imp, forall_and, unnamed]
    | everything => simp [selects, ih, Selector.Admits]
    | external => simp [selects, ih, Selector.Admits, isExternal_iff, or_assoc]
    | named name => simp [selects, ih, Selector.Admits, isNamed_iff, or_assoc]

theorem ofEntry_eq_excluded : Selector.ofEntry entry = .excluded name ↔ entry = '!' :: name := by
  unfold Selector.ofEntry
  split
  · rw [Selector.excluded.injEq, List.cons.injEq, eq_self, true_and]
  · simp
  · rename_i unmarked _
    refine iff_of_false ?_ fun same => unmarked name same
    split <;> exact fun same => nomatch same

theorem ofEntry_admits (entry : List Char) : (Selector.ofEntry entry).Admits repository ↔
    entry = ['*'] ∨ (entry = "external:*".toList ∧ IsOutside repository) ∨
      (entry.head? ≠ some '!' ∧ entry ≠ "external:*".toList ∧ IsCalled repository entry) := by
  unfold Selector.ofEntry
  split
  · rename_i name
    simp [Selector.Admits]
  · simp [Selector.Admits]
  · rename_i unmarked single
    have first : entry.head? ≠ some '!' := fun marked => by
      obtain ⟨name, rfl⟩ := List.head?_eq_some_iff.mp marked
      exact unmarked name rfl
    split
    · rename_i external
      simp [Selector.Admits, external]
    · rename_i other
      constructor
      · exact fun called => .inr (.inr ⟨first, other, called⟩)
      · rintro (same | ⟨same, -⟩ | ⟨-, -, called⟩)
        · exact absurd same single
        · exact absurd same other
        · exact called

/-- A mirror is for a repository exactly when no exclusion in its list names the repository and
some other entry takes it in. -/
theorem isFor_iff (mirror : Mirror) (repository : Repository) : mirror.isFor repository = true ↔
    (∀ name, Lists mirror.mirrorOf.toList ('!' :: name) → ¬IsCalled repository name) ∧
    (Lists mirror.mirrorOf.toList ['*'] ∨
      (Lists mirror.mirrorOf.toList "external:*".toList ∧ IsOutside repository) ∨
      ∃ name, Lists mirror.mirrorOf.toList name ∧ name.head? ≠ some '!' ∧ name ≠ "external:*".toList ∧
        IsCalled repository name) := by
  rw [isFor, selects_iff, selectors]
  refine and_congr (forall_congr' fun name => imp_congr_left ?_) ?_
  · simp only [List.mem_map, mem_entries, ofEntry_eq_excluded, exists_eq_right]
  · rw [or_iff_right Bool.false_ne_true]
    constructor
    · rintro ⟨_, member, admits⟩
      obtain ⟨entry, found, rfl⟩ := List.mem_map.mp member
      rw [mem_entries] at found
      rcases (ofEntry_admits entry).mp admits with rfl | ⟨rfl, outside⟩ | called
      · exact .inl found
      · exact .inr (.inl ⟨found, outside⟩)
      · exact .inr (.inr ⟨entry, found, called⟩)
    · intro taken
      have admitted {entry : List Char} (found : Lists mirror.mirrorOf.toList entry)
          (admits : (Selector.ofEntry entry).Admits repository) :
          ∃ selector ∈ (entries mirror.mirrorOf.toList).map Selector.ofEntry, selector.Admits repository :=
        ⟨_, List.mem_map_of_mem (mem_entries.mpr found), admits⟩
      rcases taken with found | ⟨found, outside⟩ | ⟨name, found, called⟩
      · exact admitted found ((ofEntry_admits _).mpr (.inl rfl))
      · exact admitted found ((ofEntry_admits _).mpr (.inr (.inl ⟨rfl, outside⟩)))
      · exact admitted found ((ofEntry_admits _).mpr (.inr (.inr called)))

/-- The pieces of a list written another way: in another order, with one of them written once
more, or with blanks around one of them. -/
inductive Rewritten : List (List Char) → List (List Char) → Prop
  | permuted {written other : List (List Char)} (order : written.Perm other) : Rewritten written other
  | repeated {written : List (List Char)} {piece : List Char} (member : piece ∈ written) :
    Rewritten written (piece :: written)
  | padded {front back : List Char} (ahead : ∀ c ∈ front, isBlank c = true)
    (after : ∀ c ∈ back, isBlank c = true) (before : List (List Char)) (piece : List Char)
    (behind : List (List Char)) :
    Rewritten (before ++ piece :: behind) (before ++ (front ++ (piece ++ back)) :: behind)
  | step {written middle other : List (List Char)} (first : Rewritten written middle)
    (second : Rewritten middle other) : Rewritten written other

/-- Writing the pieces another way brings no comma into them and changes none of the entries. -/
theorem Rewritten.same_entries (way : Rewritten written other) (nonempty : written ≠ [])
    (whole : ∀ piece ∈ written, ',' ∉ piece) : other ≠ [] ∧ (∀ piece ∈ other, ',' ∉ piece) ∧
      ∀ entry, entry ∈ other.map trim ↔ entry ∈ written.map trim := by
  induction way with
  | permuted order =>
    refine ⟨fun empty => nonempty ?_, fun piece member => whole piece (order.mem_iff.mpr member), fun entry => ?_⟩
    · exact List.perm_nil.mp (empty ▸ order)
    · exact (order.map trim).mem_iff.symm
  | repeated member =>
    refine ⟨List.cons_ne_nil _ _, List.forall_mem_cons.mpr ⟨whole _ member, whole⟩, fun entry => ?_⟩
    rw [List.map_cons, List.mem_cons]
    exact or_iff_right_of_imp fun same => same ▸ List.mem_map_of_mem member
  | @padded front back ahead after before piece behind =>
    have uncut {blanks : List Char} (blank : ∀ c ∈ blanks, isBlank c = true) : ',' ∉ blanks :=
      fun member => absurd (blank ',' member) (by decide)
    refine ⟨by simp, ?_, fun entry => ?_⟩
    · simp only [List.forall_mem_append, List.forall_mem_cons] at whole ⊢
      refine ⟨whole.1, ?_, whole.2.2⟩
      simp only [List.mem_append, not_or]
      exact ⟨uncut ahead, whole.2.1, uncut after⟩
    · rw [List.map_append, List.map_cons, trim_blanks_append ahead, trim_append_blanks after, ← List.map_cons,
        ← List.map_append]
  | step first second ih ih' =>
    obtain ⟨nonempty', whole', same⟩ := ih nonempty whole
    obtain ⟨nonempty'', whole'', same'⟩ := ih' nonempty' whole'
    exact ⟨nonempty'', whole'', fun entry => (same' entry).trans (same entry)⟩

theorem lists_iff : Lists text entry ↔ entry ≠ [] ∧ entry ∈ (text.splitOn ',').map trim := by
  rw [Lists, List.mem_map]

/-- The entries of a list do not depend on how its pieces are written. -/
theorem lists_of_rewritten (way : Rewritten (text.splitOn ',') written) (entry : List Char) :
    Lists ([','].intercalate written) entry ↔ Lists text entry := by
  have whole : ∀ piece ∈ text.splitOn ',', ',' ∉ piece := by
    rw [← pieces_eq_splitOn]
    exact fun piece member comma => (mem_of_mem_pieces member comma).2 rfl
  obtain ⟨nonempty, uncut, same⟩ := way.same_entries (List.splitOnP_ne_nil _ text) whole
  rw [lists_iff, lists_iff, List.splitOn_intercalate _ uncut nonempty, same]

theorem isFor_rewritten (way : Rewritten (mirror.mirrorOf.toList.splitOn ',') written) :
    { mirror with mirrorOf := String.ofList ([','].intercalate written) }.isFor repository =
      mirror.isFor repository := by
  rw [Bool.eq_iff_iff, isFor_iff, isFor_iff]
  simp only [String.toList_ofList, lists_of_rewritten way]

/-- Among mirrors in their order either none is for the repository, which is left as it is, or
the first that is for it takes its place. -/
theorem apply_cases (mirrors : List Mirror) (repository : Repository) :
    ((∀ mirror ∈ mirrors, mirror.isFor repository = false) ∧ apply mirrors repository = repository) ∨
    ∃ before mirror behind, mirrors = before ++ mirror :: behind ∧
      (∀ other ∈ before, other.isFor repository = false) ∧ mirror.isFor repository = true ∧
      apply mirrors repository = mirror.replace repository := by
  cases found : mirrors.find? (·.isFor repository) with
  | none =>
    refine .inl ⟨fun mirror member => ?_, by rw [apply, found]⟩
    exact Bool.eq_false_iff.mpr (List.find?_eq_none.mp found mirror member)
  | some mirror =>
    obtain ⟨for_it, before, behind, rfl, earlier⟩ := List.find?_eq_some_iff_append.mp found
    refine .inr ⟨before, mirror, behind, rfl, fun other member => ?_, for_it, by rw [apply, found]⟩
    exact Bool.eq_false_iff.mpr (by simpa using earlier other member)

/-- A mirror is for a repository if and only if no exclusion in its list names the repository and some other
entry takes it in; order, repetition and blanks do not count; and of several mirrors the first that is for a
repository takes its place, with the flags the mirror leaves open kept. -/
theorem selection_by_entries (mirror : Mirror) (repository : Repository) :
    (mirror.isFor repository = true ↔
      (∀ name, Lists mirror.mirrorOf.toList ('!' :: name) → ¬IsCalled repository name) ∧
      (Lists mirror.mirrorOf.toList ['*'] ∨
        (Lists mirror.mirrorOf.toList "external:*".toList ∧ IsOutside repository) ∨
        ∃ name, Lists mirror.mirrorOf.toList name ∧ name.head? ≠ some '!' ∧ name ≠ "external:*".toList ∧
          IsCalled repository name)) ∧
    (∀ written, Rewritten (mirror.mirrorOf.toList.splitOn ',') written →
      { mirror with mirrorOf := String.ofList ([','].intercalate written) }.isFor repository =
        mirror.isFor repository) ∧
    ∀ mirrors, ((∀ other ∈ mirrors, other.isFor repository = false) ∧ apply mirrors repository = repository) ∨
      ∃ before first behind, mirrors = before ++ first :: behind ∧
        (∀ other ∈ before, other.isFor repository = false) ∧ first.isFor repository = true ∧
        apply mirrors repository =
          { repository with
            id := first.id
            uri := first.url
            releases := first.releases.getD repository.releases
            snapshots := first.snapshots.getD repository.snapshots } :=
  ⟨isFor_iff mirror repository, fun _ way => isFor_rewritten way, fun mirrors => apply_cases mirrors repository⟩

/-- An exclusion keeps a repository out whether it stands before or after the entry for everything. -/
theorem exclusion_wins_at_either_end :
    let mirror : Mirror := { id := "near", url := "https://near.example/m2", mirrorOf := "*,!corp" }
    let corp : Repository := { id := "corp", uri := "https://corp.example/m2" }
    Rewritten (mirror.mirrorOf.toList.splitOn ',') ["!corp".toList, "*".toList] ∧
    { mirror with mirrorOf := "!corp,*" }.isFor corp = mirror.isFor corp ∧ mirror.isFor corp = false := by
  intro mirror corp
  have swapped : Rewritten (mirror.mirrorOf.toList.splitOn ',') ["!corp".toList, "*".toList] := by
    rw [← pieces_eq_splitOn]
    exact .permuted (by decide)
  have joined : String.ofList ([','].intercalate ["!corp".toList, "*".toList]) = "!corp,*" := by decide
  refine ⟨swapped, ?_, by decide⟩
  rw [← joined]
  exact (selection_by_entries mirror corp).2.1 _ swapped

/-- An entry that starts with the mark of an exclusion is never an id, even where it is one. -/
theorem marked_id_not_taken_in :
    let mirror : Mirror := { id := "near", url := "https://near.example/m2", mirrorOf := "!corp" }
    let marked : Repository := { id := "!corp", uri := "https://corp.example/m2" }
    (∀ name, Lists mirror.mirrorOf.toList ('!' :: name) → ¬IsCalled marked name) ∧
    (∃ name, Lists mirror.mirrorOf.toList name ∧ IsCalled marked name) ∧ mirror.isFor marked = false := by
  intro mirror marked
  have listed (entry : List Char) : Lists mirror.mirrorOf.toList entry ↔ entry = "!corp".toList := by
    rw [← mem_entries, show entries mirror.mirrorOf.toList = ["!corp".toList] from by decide, List.mem_singleton]
  refine ⟨fun name found => ?_, ⟨_, (listed _).mpr rfl, .inl rfl⟩, by decide⟩
  obtain rfl : name = "corp".toList := List.tail_eq_of_cons_eq ((listed _).mp found)
  exact fun called => called.elim (by decide) (by decide)

end Mirror
end MavenResolution
