import MavenResolution.Proofs.Metadata.Merge

/-! Merging is associative, and knowing nothing is neutral to it on both sides. So it does not matter in which
groups what several sides know is merged: all that counts is the order of the sides. -/
namespace MavenResolution.Metadata

theorem merge_assoc (a b c : Metadata) : (a.merge b).merge c = a.merge (b.merge c) := by
  have first : ((a.snapshot <|> b.snapshot) <|> c.snapshot) = (a.snapshot <|> b.snapshot <|> c.snapshot) := by
    cases a.snapshot <;> rfl
  simp only [merge, List.append_assoc, first]

namespace Known

theorem none_merge (known : Known) : merge none known = known := by
  cases known <;> rfl

theorem merge_none (known : Known) : known.merge none = known := rfl

theorem merge_assoc (a b c : Known) : (a.merge b).merge c = a.merge (b.merge c) := by
  cases c with
  | none => rfl
  | some c =>
    cases b with
    | none => rw [merge_none, none_merge]
    | some b =>
      cases a with
      | none => rw [none_merge, none_merge]
      | some a => exact congrArg some (Metadata.merge_assoc a b c)

instance : Std.Associative merge := ⟨merge_assoc⟩

theorem merge_eq_none_iff {a b : Known} : a.merge b = none ↔ a = none ∧ b = none := by
  cases a <;> cases b <;> simp [merge]

/-- Merges in groups. -/
inductive Grouping where
  | nothing
  | single (known : Known)
  | join (front back : Grouping)

namespace Grouping

def merged : Grouping → Known
  | nothing => none
  | single known => known
  | join front back => front.merged.merge back.merged

/-- What is merged, from the left to the right. -/
def sides : Grouping → List Known
  | nothing => []
  | single known => [known]
  | join front back => front.sides ++ back.sides

/-- In whatever groups, the same comes out as from one side after the other. -/
theorem merged_eq_foldl (grouping : Grouping) : grouping.merged = grouping.sides.foldl merge none := by
  induction grouping with
  | nothing => rfl
  | single known => exact (none_merge known).symm
  | join front back front_ih back_ih =>
    have further : back.sides.foldl merge (front.merged.merge none) =
        front.merged.merge (back.sides.foldl merge none) :=
      List.foldl_assoc
    rw [merged, sides, List.foldl_append, ← front_ih, back_ih, ← further, merge_none]

theorem merged_eq_none_iff (grouping : Grouping) :
    grouping.merged = none ↔ ∀ known ∈ grouping.sides, known = none := by
  induction grouping with
  | nothing => simp [merged, sides]
  | single known => simp [merged, sides]
  | join front back front_ih back_ih =>
    rw [merged, sides, merge_eq_none_iff, front_ih, back_ih, List.forall_mem_append]

end Grouping

/-! Sides that know nothing. -/

theorem flatMap_present {read : Metadata → List α} (silent : read {} = []) (sides : List Known) :
    (sides.filterMap id).flatMap read = sides.flatMap fun known => read known.metadata := by
  induction sides with
  | nil => rfl
  | cons known rest ih =>
    cases known with
    | none => exact ih.trans (by rw [List.flatMap_cons, metadata, Option.getD_none, silent, List.nil_append])
    | some found => exact congrArg (read found ++ ·) ih

theorem findSome?_present {read : Metadata → Option α} (silent : read {} = none) (sides : List Known) :
    (sides.filterMap id).findSome? read = sides.findSome? fun known => read known.metadata := by
  induction sides with
  | nil => rfl
  | cons known rest ih =>
    cases known with
    | none => exact ih.trans (by rw [List.findSome?_cons, metadata, Option.getD_none, silent])
    | some found =>
      rw [List.filterMap_cons_some (show id (some found) = some found from rfl), List.findSome?_cons,
        List.findSome?_cons, ih]
      rfl

/-- Merging is a monoid, whose neutral element is to know nothing. In whatever groups several sides are merged,
what comes out has their versions side by side and the first snapshot, and nothing is known only if no side knows
anything. -/
theorem merge_monoid :
    (∀ a b c : Known, (a.merge b).merge c = a.merge (b.merge c)) ∧
    (∀ known : Known, merge none known = known ∧ known.merge none = known) ∧
    ∀ grouping : Grouping,
      grouping.merged = grouping.sides.foldl merge none ∧
      grouping.merged.metadata.versions = grouping.sides.flatMap (·.metadata.versions) ∧
      grouping.merged.metadata.snapshotVersions = grouping.sides.flatMap (·.metadata.snapshotVersions) ∧
      grouping.merged.metadata.snapshot = grouping.sides.findSome? (·.metadata.snapshot) ∧
      (grouping.merged = none ↔ ∀ known ∈ grouping.sides, known = none) := by
  refine ⟨merge_assoc, fun known => ⟨none_merge known, merge_none known⟩, fun grouping => ?_⟩
  have folded := grouping.merged_eq_foldl
  refine ⟨folded, ?_, ?_, ?_, grouping.merged_eq_none_iff⟩
  · rw [folded, versions_foldl_merge, flatMap_present rfl]
    rfl
  · rw [folded, snapshotVersions_foldl_merge, flatMap_present rfl]
    rfl
  · rw [folded, snapshot_foldl_merge, findSome?_present rfl]
    exact Option.none_or

end Known
end MavenResolution.Metadata
