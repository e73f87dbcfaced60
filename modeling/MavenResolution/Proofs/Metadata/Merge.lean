import MavenResolution.Metadata

/-! What is known of a module from several sides: the versions that any of them names, side by side in
their order, and the first snapshot. -/
namespace MavenResolution.Metadata.Known

theorem versions_merge (known : Known) (found : Option Metadata) :
    (known.merge found).metadata.versions =
      known.metadata.versions ++ (found.map (·.versions)).getD [] := by
  cases found with
  | none => exact (List.append_nil _).symm
  | some found => cases known <;> rfl

theorem snapshotVersions_merge (known : Known) (found : Option Metadata) :
    (known.merge found).metadata.snapshotVersions =
      known.metadata.snapshotVersions ++ (found.map (·.snapshotVersions)).getD [] := by
  cases found with
  | none => exact (List.append_nil _).symm
  | some found => cases known <;> rfl

theorem snapshot_merge (known : Known) (found : Option Metadata) :
    (known.merge found).metadata.snapshot =
      known.metadata.snapshot.or (found.bind (·.snapshot)) := by
  cases found with
  | none => exact (Option.or_none).symm
  | some found =>
    cases known with
    | none => rfl
    | some known => cases both : known.snapshot <;> simp [merge, metadata, Metadata.merge, both]

variable (found : List (Option Metadata)) (known : Known)

theorem versions_foldl_merge : (found.foldl merge known).metadata.versions =
    known.metadata.versions ++ (found.filterMap id).flatMap (·.versions) := by
  induction found generalizing known with
  | nil => exact (List.append_nil _).symm
  | cons first rest ih =>
    rw [List.foldl_cons, ih, versions_merge, List.append_assoc]
    cases first <;> rfl

theorem snapshotVersions_foldl_merge : (found.foldl merge known).metadata.snapshotVersions =
    known.metadata.snapshotVersions ++ (found.filterMap id).flatMap (·.snapshotVersions) := by
  induction found generalizing known with
  | nil => exact (List.append_nil _).symm
  | cons first rest ih =>
    rw [List.foldl_cons, ih, snapshotVersions_merge, List.append_assoc]
    cases first <;> rfl

theorem snapshot_foldl_merge : (found.foldl merge known).metadata.snapshot =
    known.metadata.snapshot.or ((found.filterMap id).findSome? (·.snapshot)) := by
  induction found generalizing known with
  | nil => exact (Option.or_none).symm
  | cons first rest ih =>
    rw [List.foldl_cons, ih, snapshot_merge, Option.or_assoc]
    cases first with
    | none => rfl
    | some first =>
      rw [List.filterMap_cons_some (show id (some first) = some first from rfl), List.findSome?_cons]
      cases both : first.snapshot <;> simp [both]

end MavenResolution.Metadata.Known
