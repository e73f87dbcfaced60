import MavenResolution.SingleFlight.Region

/-! What a caller of a cache gets when no key is being fetched, and what the cache knows then: of the
key what its fetch gave, and of all other keys what it knew before. -/
namespace MavenResolution

namespace SingleFlight

variable {κ ν : Type} [BEq κ] [LawfulBEq κ] {cache : SingleFlight κ ν} {key other : κ}

/-- What is known of a key. -/
def known (cache : SingleFlight κ ν) (key : κ) : Option (Flight ν) := cache.entries.lookup key

theorem lookup_settled (entries : List (κ × Flight ν)) (ticket : Nat) (outcome : Option ν)
    (differs : other ≠ key) :
    (entries.map fun (k, flight) =>
      (k, if k == key && flight.isPending ticket then .done outcome else flight)).lookup other =
        entries.lookup other := by
  induction entries with
  | nil => rfl
  | cons entry rest ih =>
    obtain ⟨k, flight⟩ := entry
    simp only [List.map_cons, List.lookup_cons, ih]
    cases same : other == k with
    | false => rfl
    | true =>
      rw [eq_of_beq same] at differs
      simp [beq_eq_false_iff_ne.mpr differs]

theorem lookup_dropped (entries : List (κ × Flight ν)) (key other : κ) :
    (entries.filter fun (k, _) => !(k == key)).lookup other =
      if other == key then none else entries.lookup other := by
  induction entries with
  | nil => simp
  | cons entry rest ih =>
    obtain ⟨k, flight⟩ := entry
    simp only [List.filter_cons]
    cases dropped : k == key with
    | true =>
      rw [← eq_of_beq dropped] at ih ⊢
      simp only [Bool.not_true, Bool.false_eq_true, if_false, ih, List.lookup_cons]
      cases other == k <;> rfl
    | false =>
      simp only [Bool.not_false, if_true, List.lookup_cons, ih]
      cases same : other == k with
      | true => simp [eq_of_beq same, dropped]
      | false => rfl

section

variable (unknown : cache.known key = none) (waiters : Nat)

include unknown

omit [LawfulBEq κ] in
theorem claim_unknown : cache.claim key = (.fetching cache.misses,
    { cache with entries := (key, .pending cache.misses) :: cache.entries
                 misses := cache.misses + 1 }) := by
  simp only [known] at unknown
  simp only [claim, unknown]

theorem known_settle (outcome : Option ν) (other : κ) :
    (((cache.claim key).2.join waiters).settle key cache.misses outcome).known other =
      if other == key then some (.done outcome) else cache.known other := by
  rw [claim_unknown unknown]
  cases same : other == key with
  | true => simp [eq_of_beq same, known, join, settle, Flight.isPending]
  | false =>
    simp only [known, join, settle]
    rw [lookup_settled _ _ _ (beq_eq_false_iff_ne.mp same)]
    simp [List.lookup_cons, same]

theorem known_drop (other : κ) :
    (((cache.claim key).2.join waiters).drop key).known other = cache.known other := by
  rw [claim_unknown unknown]
  simp only [known, join, drop, lookup_dropped]
  cases same : other == key with
  | true =>
    rw [if_pos rfl, eq_of_beq same]
    exact unknown.symm
  | false => simp [List.lookup_cons, same]

end

/-- No key is being fetched. -/
def Idle (cache : SingleFlight κ ν) : Prop :=
  ∀ key flight, cache.known key = some flight → ∃ outcome, flight = .done outcome

/-- All outcomes that the cache knows are known later too. -/
def Extends (cache later : SingleFlight κ ν) : Prop :=
  ∀ key outcome, cache.known key = some (.done outcome) → later.known key = some (.done outcome)

omit [LawfulBEq κ] in
theorem Extends.refl (cache : SingleFlight κ ν) : cache.Extends cache := fun _ _ known => known

omit [LawfulBEq κ] in
theorem Extends.trans {cache later last : SingleFlight κ ν} (first : cache.Extends later)
    (second : later.Extends last) : cache.Extends last :=
  fun key outcome known => second key outcome (first key outcome known)

theorem known_eq_ite {flight : Flight ν} (recorded : cache.known key = some flight) (other : κ) :
    cache.known other = if other == key then some flight else cache.known other := by
  cases same : other == key with
  | true => rw [eq_of_beq same, recorded, if_pos rfl]
  | false => rfl

omit [LawfulBEq κ] in
theorem claim_known {outcome : Option ν} (done : cache.known key = some (.done outcome)) :
    cache.claim key = (.known outcome, { cache with hits := cache.hits + 1 }) := by
  simp only [known] at done
  simp only [claim, done]

end SingleFlight

namespace Region

variable {σ κ ν ε α τ : Type} [BEq κ] [LawfulBEq κ] {region : Region σ κ ν} {rest : σ → τ}
  {state : σ} {key : κ} {outcome : α → Option ν} {fetch : StateM σ (Except ε α)} {waiters : Nat}

/-- The cache is a part of the state beside the rest of it and the log. -/
structure Beside (region : Region σ κ ν) (rest : σ → τ) : Prop where
  cache_withCache : ∀ cache state, region.cache (region.withCache cache state) = cache
  cache_withEntry : ∀ entry state, region.cache (region.withEntry entry state) = region.cache state
  rest_withCache : ∀ cache state, rest (region.withCache cache state) = rest state
  rest_withEntry : ∀ entry state, rest (region.withEntry entry state) = rest state

omit [LawfulBEq κ] in
theorem claim_apply (region : Region σ κ ν) (waiters : Nat) (key : κ) (state : σ) :
    region.claim waiters key state = (((region.cache state).claim key).1,
      region.withCache (((region.cache state).claim key).2.join waiters) state) := rfl

/-- The state in which a caller starts to fetch a key of which nothing is known. -/
def asked (region : Region σ κ ν) (waiters : Nat) (key : κ) (state : σ) : σ :=
  region.withEntry region.miss
    (region.withCache (((region.cache state).claim key).2.join waiters) state)

omit [LawfulBEq κ] in
theorem rest_asked (beside : region.Beside rest) : rest (region.asked waiters key state) = rest state := by
  rw [asked, beside.rest_withEntry, beside.rest_withCache]

omit [LawfulBEq κ] in
/-- All that can become of a caller. -/
theorem compute_apply (region : Region σ κ ν) (key : κ) (outcome : α → Option ν)
    (fetch : StateM σ (Except ε α)) (waiters : Nat) (state : σ) :
    region.compute key outcome fetch waiters state =
      let claimed := (region.cache state).claim key
      let unchanged := region.withCache (claimed.2.join waiters) state
      match claimed.1 with
      | .known found => (.known found, unchanged)
      | .waiting _ => (.known none, unchanged)
      | .fetching ticket => match fetch (region.asked waiters key state) with
        | (.ok found, after) =>
          (.fetched (.ok found), region.update (·.settle key ticket (outcome found)) after)
        | (.error fault, after) => (.fetched (.error fault), region.update (·.drop key) after) := by
  have next {β : Type} (m : StateM σ β) (f : β → StateM σ (Computed ε α ν)) (state : σ) :
      (m >>= f) state = f (m state).1 (m state).2 := rfl
  unfold compute
  rw [next, claim_apply]
  dsimp only
  cases ((region.cache state).claim key).1 with
  | known found => rfl
  | waiting ticket => rfl
  | fetching ticket =>
    have missed : (modify (region.withEntry region.miss) : StateM σ PUnit)
        (region.withCache (((region.cache state).claim key).2.join waiters) state) =
          (⟨⟩, region.asked waiters key state) := rfl
    dsimp only
    rw [next, missed]
    dsimp only
    rw [next]
    cases fetch (region.asked waiters key state) with
    | mk result after => cases result <;> rfl

omit [LawfulBEq κ] in
/-- A caller gets an outcome and changes nothing beside the cache, or it gets what its fetch gives, and
changes what that changes. -/
theorem compute_cases (beside : region.Beside rest) (key : κ) (outcome : α → Option ν)
    (fetch : StateM σ (Except ε α)) (waiters : Nat) (state : σ) :
    let run := region.compute key outcome fetch waiters state
    (∃ found, run.1 = .known found ∧ rest run.2 = rest state) ∨
      ∃ before, rest before = rest state ∧ run.1 = .fetched (fetch before).1 ∧
        rest run.2 = rest (fetch before).2 := by
  rw [compute_apply]
  dsimp only
  cases ((region.cache state).claim key).1 with
  | known found => exact .inl ⟨found, rfl, beside.rest_withCache _ _⟩
  | waiting ticket => exact .inl ⟨none, rfl, beside.rest_withCache _ _⟩
  | fetching ticket =>
    refine .inr ⟨region.asked waiters key state, rest_asked beside, ?_⟩
    dsimp only
    cases fetch (region.asked waiters key state) with
    | mk result after => cases result <;> exact ⟨rfl, beside.rest_withCache _ _⟩

omit [LawfulBEq κ] in
theorem compute_done (outcome : α → Option ν) (fetch : StateM σ (Except ε α)) (waiters : Nat)
    {found : Option ν} (done : (region.cache state).known key = some (.done found)) :
    region.compute key outcome fetch waiters state = (.known found, region.withCache
      (SingleFlight.join { region.cache state with hits := (region.cache state).hits + 1 } waiters)
        state) := by
  rw [compute_apply, SingleFlight.claim_known done]

omit [LawfulBEq κ] in
theorem compute_known (beside : region.Beside rest) (outcome : α → Option ν)
    (fetch : StateM σ (Except ε α)) (waiters : Nat) {found : Option ν}
    (done : (region.cache state).known key = some (.done found)) :
    (region.compute key outcome fetch waiters state).1 = .known found ∧
      (∀ other, (region.cache (region.compute key outcome fetch waiters state).2).known other =
        (region.cache state).known other) ∧
      rest (region.compute key outcome fetch waiters state).2 = rest state := by
  rw [compute_done outcome fetch waiters done]
  refine ⟨rfl, fun other => ?_, beside.rest_withCache _ _⟩
  rw [beside.cache_withCache]
  rfl

/-- What the cache knows after a fetch: an outcome is kept, a failure leaves nothing behind. -/
def learned (region : Region σ κ ν) (key : κ) (outcome : α → Option ν) (result : Except ε α)
    (state : σ) (other : κ) : Option (Flight ν) :=
  match result with
  | .ok found =>
    if other == key then some (.done (outcome found)) else (region.cache state).known other
  | .error _ => (region.cache state).known other

theorem eq_some_of_learned {result : Except ε α} {other : κ} {flight : Flight ν}
    (recorded : region.learned key outcome result state other = some flight) :
    (region.cache state).known other = some flight ∨
      other = key ∧ ∃ found, result = .ok found ∧ flight = .done (outcome found) := by
  cases result with
  | error fault => exact .inl recorded
  | ok found =>
    rw [learned] at recorded
    split at recorded
    · rename_i same
      exact .inr ⟨eq_of_beq same, found, rfl, (Option.some.inj recorded).symm⟩
    · exact .inl recorded

/-- What was known of other keys is known still. -/
theorem learned_of_known {result : Except ε α} {other : κ} {flight : Flight ν}
    (unknown : (region.cache state).known key = none)
    (recorded : (region.cache state).known other = some flight) :
    region.learned key outcome result state other = some flight := by
  cases result with
  | error fault => exact recorded
  | ok found =>
    rw [learned, if_neg fun same => ?_]
    · exact recorded
    · rw [eq_of_beq same, unknown] at recorded
      cases recorded

omit [LawfulBEq κ] in
theorem compute_asked (unknown : (region.cache state).known key = none) :
    region.compute key outcome fetch waiters state =
      match fetch (region.asked waiters key state) with
      | (.ok found, after) => (.fetched (.ok found), region.update
          (·.settle key (region.cache state).misses (outcome found)) after)
      | (.error fault, after) => (.fetched (.error fault), region.update (·.drop key) after) := by
  have ticket : ((region.cache state).claim key).1 = .fetching (region.cache state).misses := by
    rw [SingleFlight.claim_unknown unknown]
  rw [compute_apply]
  dsimp only
  rw [ticket]

/-- A fetch that leaves the cache alone gives what a caller gets, and what the cache learns. -/
theorem compute_learns (beside : region.Beside rest) (outcome : α → Option ν)
    (unknown : (region.cache state).known key = none)
    (kept : region.cache (fetch (region.asked waiters key state)).2 =
      region.cache (region.asked waiters key state)) :
    let fetched := fetch (region.asked waiters key state)
    let run := region.compute key outcome fetch waiters state
    run.1 = .fetched fetched.1 ∧
      (∀ other, (region.cache run.2).known other =
        region.learned key outcome fetched.1 state other) ∧
      rest run.2 = rest fetched.2 := by
  have claimed : region.cache (region.asked waiters key state) =
      ((region.cache state).claim key).2.join waiters := by
    rw [asked, beside.cache_withEntry, beside.cache_withCache]
  rw [claimed] at kept
  rw [compute_asked unknown]
  cases asking : fetch (region.asked waiters key state) with
  | mk result after =>
    rw [asking] at kept
    cases result with
    | ok found =>
      refine ⟨rfl, fun other => ?_, ?_⟩
      · simp only [update, beside.cache_withCache, kept]
        exact SingleFlight.known_settle unknown waiters (outcome found) other
      · simp only [update, beside.rest_withCache]
    | error fault =>
      refine ⟨rfl, fun other => ?_, ?_⟩
      · simp only [update, beside.cache_withCache, kept]
        exact SingleFlight.known_drop unknown waiters other
      · simp only [update, beside.rest_withCache]

theorem compute_unknown (beside : region.Beside rest) {result : Except ε α}
    (unknown : (region.cache state).known key = none)
    (steady : ∀ state, (fetch state).1 = result ∧
      region.cache (fetch state).2 = region.cache state ∧ rest (fetch state).2 = rest state) :
    (region.compute key outcome fetch waiters state).1 = .fetched result ∧
      (∀ other, (region.cache (region.compute key outcome fetch waiters state).2).known other =
        region.learned key outcome result state other) ∧
      rest (region.compute key outcome fetch waiters state).2 = rest state := by
  obtain ⟨same, kept, restSame⟩ := steady (region.asked waiters key state)
  obtain ⟨gives, learns, beyond⟩ := compute_learns beside outcome unknown kept
  rw [same] at gives learns
  exact ⟨gives, learns, beyond.trans (restSame.trans (rest_asked beside))⟩

/-- A caller gets what is expected of a key if that is what the cache knows of it, or what its fetch
gives if the cache knows nothing; after that the cache knows it too, unless it is a failure. -/
theorem compute_expected (beside : region.Beside rest) {fetch : StateM σ (Except ε (Option ν))}
    {expected : Except ε (Option ν)}
    (sound : ∀ flight, (region.cache state).known key = some flight →
      ∃ found, expected = .ok found ∧ flight = .done found)
    (fetching : (region.cache state).known key = none → ∀ state, (fetch state).1 = expected ∧
      region.cache (fetch state).2 = region.cache state ∧ rest (fetch state).2 = rest state) :
    let run := region.compute key id fetch waiters state
    run.1.outcome = expected ∧
      (∀ other, (region.cache run.2).known other =
        if other == key then expected.toOption.map .done else (region.cache state).known other) ∧
      rest run.2 = rest state := by
  intro run
  cases known : (region.cache state).known key with
  | some flight =>
    obtain ⟨found, rfl, rfl⟩ := sound flight known
    obtain ⟨result, same, restSame⟩ := compute_known beside id fetch waiters known
    exact ⟨by rw [result]; rfl, fun other => (same other).trans (SingleFlight.known_eq_ite known other),
      restSame⟩
  | none =>
    obtain ⟨result, same, restSame⟩ := compute_unknown beside known (fetching known)
    refine ⟨by rw [result]; rfl, fun other => ?_, restSame⟩
    rw [same other]
    cases expected with
    | ok found => rfl
    | error fault =>
      cases equal : other == key with
      | true =>
        simp only [learned, eq_of_beq equal, known]
        rfl
      | false => rfl

/-- A fetch that cannot fail leaves an outcome behind. With a cache that is idle before, a caller gets
the one that was known, or the one that its own fetch found. -/
theorem compute_records (beside : region.Beside rest) {fetch : StateM σ (Except Empty (Option ν))}
    (key : κ) (waiters : Nat) (idle : (region.cache state).Idle)
    (kept : ∀ state, region.cache (fetch state).2 = region.cache state) :
    let run := region.compute key id fetch waiters state
    ∃ found, run.1.outcome = .ok found ∧
      (∀ other, (region.cache run.2).known other =
        if other == key then some (.done found) else (region.cache state).known other) ∧
      ((region.cache state).known key = some (.done found) ∨
        (region.cache state).known key = none ∧
          (fetch (region.asked waiters key state)).1 = .ok found) := by
  intro run
  cases known : (region.cache state).known key with
  | some flight =>
    obtain ⟨found, rfl⟩ := idle key flight known
    obtain ⟨result, same, -⟩ := compute_known beside id fetch waiters known
    exact ⟨found, by rw [result]; rfl,
      fun other => (same other).trans (SingleFlight.known_eq_ite known other), .inl rfl⟩
  | none =>
    obtain ⟨result, learns, -⟩ := compute_learns beside id known (kept _)
    cases fetched : (fetch (region.asked waiters key state)).1 with
    | error impossible => exact impossible.elim
    | ok found =>
      rw [fetched] at result learns
      exact ⟨found, by rw [result]; rfl, learns, .inr ⟨rfl, rfl⟩⟩

/-- With a cache that is idle before, a fetch that leaves the cache alone leaves an idle one behind. All that
was known is known then, and nothing else but what was fetched just now. -/
theorem compute_extends (beside : region.Beside rest) (key : κ) (outcome : α → Option ν)
    (fetch : StateM σ (Except ε α)) (waiters : Nat) (idle : (region.cache state).Idle)
    (kept : ∀ state, region.cache (fetch state).2 = region.cache state) :
    let run := region.compute key outcome fetch waiters state
    (region.cache run.2).Idle ∧ (region.cache state).Extends (region.cache run.2) ∧
      ∀ other found, (region.cache run.2).known other = some (.done found) →
        (region.cache state).known other = some (.done found) ∨
          other = key ∧ ∃ before, rest before = rest state ∧ rest run.2 = rest (fetch before).2 ∧
            ∃ result, (fetch before).1 = .ok result ∧ outcome result = found := by
  intro run
  cases known : (region.cache state).known key with
  | some flight =>
    obtain ⟨found, rfl⟩ := idle key flight known
    obtain ⟨-, same, -⟩ := compute_known beside outcome fetch waiters known
    refine ⟨fun other flight recorded => idle other flight ((same other).symm.trans recorded),
      fun other found recorded => (same other).trans recorded, fun other found recorded => ?_⟩
    exact .inl ((same other).symm.trans recorded)
  | none =>
    obtain ⟨-, learns, beyond⟩ := compute_learns beside outcome known (kept _)
    refine ⟨fun other flight recorded => ?_, fun other found recorded => ?_,
      fun other found recorded => ?_⟩
    · rcases eq_some_of_learned ((learns other).symm.trans recorded) with before | ⟨-, result, -, done⟩
      · exact idle other flight before
      · exact ⟨_, done⟩
    · rw [learns]
      exact learned_of_known known recorded
    · refine (eq_some_of_learned ((learns other).symm.trans recorded)).imp_right ?_
      rintro ⟨same, result, fetched, done⟩
      exact ⟨same, region.asked waiters key state, rest_asked beside, beyond, result, fetched,
        (Flight.done.inj done).symm⟩

/-- What a caller gets is known from then on. -/
theorem compute_remembers (beside : region.Beside rest) {fetch : StateM σ (Except ε (Option ν))}
    (key : κ) (waiters : Nat) (idle : (region.cache state).Idle)
    (kept : ∀ state, region.cache (fetch state).2 = region.cache state) {found : Option ν}
    (gives : (region.compute key id fetch waiters state).1.outcome = .ok found) :
    (region.cache (region.compute key id fetch waiters state).2).known key = some (.done found) := by
  cases known : (region.cache state).known key with
  | some flight =>
    obtain ⟨recorded, rfl⟩ := idle key flight known
    obtain ⟨result, same, -⟩ := compute_known beside id fetch waiters known
    rw [result] at gives
    cases gives
    rw [same, known]
  | none =>
    obtain ⟨result, learns, -⟩ := compute_learns beside id known (kept _)
    rw [result] at gives
    have fetched : (fetch (region.asked waiters key state)).1 = .ok found := gives
    rw [learns, fetched, learned, beq_self_eq_true, if_pos rfl]
    rfl

end Region
end MavenResolution
