/-! Steps that may fail, alone and in sequence. -/
namespace MavenResolution

/-- A sequence succeeds if both of its steps do. -/
theorem bind_eq_ok_iff {result : Except ε α} {next : α → Except ε β} {value : β} :
    (result >>= next) = .ok value ↔ ∃ first, result = .ok first ∧ next first = .ok value := by
  constructor
  · intro succeeded
    cases result with
    | error fault => cases succeeded
    | ok first => exact ⟨first, rfl, succeeded⟩
  · rintro ⟨first, rfl, succeeded⟩
    exact succeeded

theorem map_eq_ok_iff {result : Except ε α} {change : α → β} {value : β} :
    change <$> result = .ok value ↔ ∃ first, result = .ok first ∧ change first = value := by
  cases result with
  | error fault => exact ⟨nofun, nofun⟩
  | ok first => simp [Functor.map, Except.map]

theorem map_eq_error_iff {result : Except ε α} {change : α → β} {fault : ε} :
    change <$> result = .error fault ↔ result = .error fault := by
  cases result with
  | error other => exact ⟨fun same => by cases same; rfl, fun same => by cases same; rfl⟩
  | ok first => exact ⟨nofun, nofun⟩

theorem mapError_eq_ok_iff {result : Except ε α} {change : ε → ε'} {value : α} :
    result.mapError change = .ok value ↔ result = .ok value := by
  cases result with
  | error fault => exact ⟨nofun, nofun⟩
  | ok other => exact ⟨fun same => by cases same; rfl, fun same => by cases same; rfl⟩

/-- A step for each of a list succeeds if all of them do. -/
theorem mapM_eq_ok_iff {step : α → Except ε β} {accepts : α → Prop} {value : α → β} {list : List α}
    {values : List β} (each : ∀ a ∈ list, ∀ b, step a = .ok b ↔ accepts a ∧ b = value a) :
    list.mapM step = .ok values ↔ (∀ a ∈ list, accepts a) ∧ values = list.map value := by
  induction list generalizing values with
  | nil => exact ⟨by rintro ⟨⟩; exact ⟨nofun, rfl⟩, by rintro ⟨-, rfl⟩; rfl⟩
  | cons a rest ih =>
    obtain ⟨here, there⟩ := List.forall_mem_cons.mp each
    rw [List.mapM_cons, bind_eq_ok_iff, List.forall_mem_cons, List.map_cons]
    constructor
    · rintro ⟨first, succeeds, further⟩
      obtain ⟨others, succeed, same⟩ := bind_eq_ok_iff.mp further
      obtain ⟨accepted, rfl⟩ := (here _).mp succeeds
      obtain ⟨all, rfl⟩ := (ih there).mp succeed
      cases same
      exact ⟨⟨accepted, all⟩, rfl⟩
    · rintro ⟨⟨accepted, all⟩, rfl⟩
      refine ⟨_, (here _).mpr ⟨accepted, rfl⟩, bind_eq_ok_iff.mpr ?_⟩
      exact ⟨_, (ih there).mpr ⟨all, rfl⟩, rfl⟩

theorem eq_ok_of_toOption {result : Except ε α} {value : α} (gives : result.toOption = some value) :
    result = .ok value := by
  cases result with
  | error fault => cases gives
  | ok other => exact congrArg Except.ok (Option.some.inj gives)

/-- Outcomes that look the same but for their faults. -/
theorem cases_of_toOption_eq {left right : Except ε α} (same : left.toOption = right.toOption) :
    (∃ value, left = .ok value ∧ right = .ok value) ∨
      ∃ fault fault', left = .error fault ∧ right = .error fault' := by
  cases left with
  | ok value =>
    cases right with
    | ok other =>
      obtain rfl : value = other := Option.some.inj same
      exact .inl ⟨value, rfl, rfl⟩
    | error fault => cases same
  | error fault =>
    cases right with
    | ok value => cases same
    | error fault' => exact .inr ⟨fault, fault', rfl, rfl⟩

end MavenResolution
