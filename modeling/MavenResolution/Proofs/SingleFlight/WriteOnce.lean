import Mathlib
import MavenResolution.Proofs.SingleFlight.Caller

/-! A cache is a map in which a key gets its outcome once. Whatever callers do with it, fetches within fetches
and those that fail included, they get what they would get from such a map, and its counts tell how often a
key was asked for and how often one was fetched. -/
namespace MavenResolution

/-- Outcomes of keys: none, a confirmed absence, or a value. -/
abbrev Outcomes (κ ν : Type) := κ → Option (Option ν)

/-- The outcomes together with one more, unless its key has one. -/
def Outcomes.record [BEq κ] (outcomes : Outcomes κ ν) (key : κ) (outcome : Option ν) : Outcomes κ ν :=
  fun other => if other == key && (outcomes key).isNone then some outcome else outcomes other

/-- The outcome of a flight that has landed. -/
def Flight.landed : Flight ν → Option (Option ν)
  | .pending _ => none
  | .done outcome => some outcome

namespace SingleFlight

variable {κ ν : Type} [BEq κ] {cache later : SingleFlight κ ν} {busy : List κ} {key other : κ}

theorem outcome?_eq (cache : SingleFlight κ ν) (key : κ) :
    cache.outcome? key = (cache.known key).bind Flight.landed := by
  unfold outcome? known
  cases cache.entries.lookup key with
  | none => rfl
  | some flight => cases flight <;> rfl

theorem outcome?_of_known (same : later.known other = cache.known key) :
    later.outcome? other = cache.outcome? key := by
  rw [outcome?_eq, outcome?_eq, same]

/-- There is no outcome of a key that is being fetched. -/
theorem Fetches.outcome? (fetches : cache.Fetches busy) (member : key ∈ busy) :
    cache.outcome? key = none := by
  obtain ⟨ticket, pending⟩ := (fetches key).mpr member
  rw [outcome?_eq, pending]
  rfl

theorem Fetches.put_busy (fetches : cache.Fetches busy) (member : key ∈ busy) (outcome : Option ν) :
    cache.put key outcome = cache := by
  obtain ⟨ticket, pending⟩ := (fetches key).mpr member
  exact put_of_known pending outcome

theorem Fetches.outcome?_isNone (fetches : cache.Fetches busy) (free : key ∉ busy) :
    (cache.outcome? key).isNone = (cache.known key).isNone := by
  rw [outcome?_eq]
  rcases fetches.settled free with ⟨outcome, known⟩ | unknown
  · rw [known]; rfl
  · rw [unknown]; rfl

theorem outcome?_clear (cache : SingleFlight κ ν) : cache.clear.outcome? = fun _ => none := rfl

/-- To put an outcome under a key is to record it, unless the key is being fetched. -/
theorem Fetches.outcome?_put [LawfulBEq κ] (fetches : cache.Fetches busy) (key : κ)
    (outcome : Option ν) : (cache.put key outcome).outcome? =
      if busy.contains key then cache.outcome? else Outcomes.record cache.outcome? key outcome := by
  by_cases member : key ∈ busy
  · rw [fetches.put_busy member, List.contains_iff_mem.mpr member, if_pos rfl]
  · rw [if_neg (by simpa using member)]
    funext other
    rw [outcome?_eq, known_put, Outcomes.record, fetches.outcome?_isNone member]
    split
    · rfl
    · exact (outcome?_eq cache other).symm

end SingleFlight

namespace Caller

variable {σ τ κ ν ε : Type} [BEq κ]

/-- What comes of a caller of a map from keys to outcomes, and the map that it leaves. Nothing is put under the
keys that are being fetched. -/
def meaning : Caller κ ν ε → List κ → Outcomes κ ν → Except ε (Option ν) × Outcomes κ ν
  | .done result, _, outcomes => (result, outcomes)
  | .get key next, busy, outcomes => (next (outcomes key)).meaning busy outcomes
  | .put key outcome next, busy, outcomes =>
    next.meaning busy (if busy.contains key then outcomes else outcomes.record key outcome)
  | .compute key fetch next, busy, outcomes =>
    match outcomes key with
    | some outcome => (next (.ok outcome)).meaning busy outcomes
    | none =>
      let fetched := fetch.meaning (key :: busy) outcomes
      match fetched.1 with
      | .ok outcome => (next (.ok outcome)).meaning busy (fetched.2.record key outcome)
      | .error fault => (next (.error fault)).meaning busy fetched.2
  | .clear next, busy, _ => next.meaning busy fun _ => none

variable [LawfulBEq κ] {region : Region σ κ ν} {rest : σ → τ}

namespace Landing

variable {key : κ} {fetch : Caller κ ν ε} {busy : List κ} {state : σ}
  (landing : Landing region key fetch busy state)

include landing

omit [LawfulBEq κ] in
theorem none_before : (region.cache state).outcome? key = none := by
  rw [SingleFlight.outcome?_eq, landing.unknown]
  rfl

/-- When a fetch begins, all other keys have the outcomes that they had. -/
theorem outcome?_asked (beside : region.Beside rest) :
    (region.cache (region.asked 0 key state)).outcome? = (region.cache state).outcome? := by
  funext other
  rw [SingleFlight.outcome?_eq, SingleFlight.outcome?_eq, Region.known_asked beside landing.unknown]
  split
  · rename_i same
    rw [eq_of_beq same, landing.unknown]
    rfl
  · rfl

omit [LawfulBEq κ] in
/-- What is recorded of a key is what its fetch gave; a fetch that fails leaves the key without an outcome.
All other keys have the outcomes that the fetch left them. -/
theorem outcome?_eq (other : κ) : (region.cache (computed region key fetch state).2).outcome? other =
    if other == key then (fetch.run region (region.asked 0 key state)).1.toOption
    else (region.cache (fetch.run region (region.asked 0 key state)).2).outcome? other := by
  rw [SingleFlight.outcome?_eq, landing.known]
  cases same : other == key with
  | false => exact (SingleFlight.outcome?_eq _ other).symm
  | true => cases (fetch.run region (region.asked 0 key state)).1 <;> rfl

omit [LawfulBEq κ] in
theorem outcome?_ok {outcome : Option ν}
    (gave : (fetch.run region (region.asked 0 key state)).1 = .ok outcome) :
    (region.cache (computed region key fetch state).2).outcome? = Outcomes.record
      (region.cache (fetch.run region (region.asked 0 key state)).2).outcome? key outcome := by
  funext other
  rw [landing.outcome?_eq, gave, Outcomes.record, landing.ends.outcome? List.mem_cons_self,
    Option.isNone_none, Bool.and_true]
  rfl

theorem outcome?_error {fault : ε}
    (gave : (fetch.run region (region.asked 0 key state)).1 = .error fault) :
    (region.cache (computed region key fetch state).2).outcome? =
      (region.cache (fetch.run region (region.asked 0 key state)).2).outcome? := by
  funext other
  rw [landing.outcome?_eq, gave]
  cases same : other == key with
  | false => rfl
  | true =>
    rw [eq_of_beq same, landing.ends.outcome? List.mem_cons_self]
    rfl

theorem extends_asked (beside : region.Beside rest) :
    (region.cache state).Extends (region.cache (region.asked 0 key state)) := by
  intro other outcome recorded
  rw [← SingleFlight.outcome?_eq_some] at recorded ⊢
  rw [landing.outcome?_asked beside]
  exact recorded

theorem extends_ended :
    (region.cache (fetch.run region (region.asked 0 key state)).2).Extends
      (region.cache (computed region key fetch state).2) := by
  intro other outcome recorded
  rw [← SingleFlight.outcome?_eq_some] at recorded ⊢
  rw [landing.outcome?_eq]
  cases same : other == key with
  | false => exact recorded
  | true =>
    rw [eq_of_beq same, landing.ends.outcome? List.mem_cons_self] at recorded
    cases recorded

end Landing

omit [LawfulBEq κ] in
theorem run_compute (key : κ) (fetch : Caller κ ν ε) (next : Except ε (Option ν) → Caller κ ν ε)
    (state : σ) : (compute key fetch next).run region state =
      (next (computed region key fetch state).1.outcome).run region
        (computed region key fetch state).2 := rfl

/-- A caller gets from a cache what it gets from the map of its outcomes. -/
theorem run_meaning (beside : region.Beside rest) (caller : Caller κ ν ε) (busy : List κ) (state : σ)
    (fetches : (region.cache state).Fetches busy)
    (proper : ∀ moment ∈ caller.moments region busy state, moment.Proper) :
    caller.meaning busy (region.cache state).outcome? =
      ((caller.run region state).1, (region.cache (caller.run region state).2).outcome?) := by
  refine induct_run (motive := fun caller busy state => caller.meaning busy (region.cache state).outcome? =
      ((caller.run region state).1, (region.cache (caller.run region state).2).outcome?))
    beside ?done ?get ?put ?found ?fetched ?clear caller busy state fetches proper
  case done => intro result busy state _; rfl
  case get => intro key next busy state _ ih; exact ih
  case put =>
    intro key outcome next busy state fetches stored ih
    rw [stored, fetches.outcome?_put] at ih
    exact ih
  case found =>
    intro key fetch next busy state outcome fetches known ih
    obtain ⟨gives, same, -⟩ := Region.compute_known beside id (fetch.run region) 0 known
    have outcomes : (region.cache (computed region key fetch state).2).outcome? =
        (region.cache state).outcome? := funext fun other => SingleFlight.outcome?_of_known (same other)
    rw [outcomes, gives] at ih
    rw [meaning, SingleFlight.outcome?_eq_some.mpr known, run_compute, gives]
    exact ih
  case fetched =>
    intro key fetch next busy state fetches landing inside ih
    rw [landing.outcome?_asked beside] at inside
    rw [landing.gives] at ih
    rw [meaning, landing.none_before, run_compute, landing.gives]
    dsimp only
    rw [inside]
    dsimp only
    cases gave : (fetch.run region (region.asked 0 key state)).1 with
    | ok outcome =>
      rw [gave, landing.outcome?_ok gave] at ih
      exact ih
    | error fault =>
      rw [gave, landing.outcome?_error gave] at ih
      exact ih
  case clear =>
    intro next state fetches cleared ih
    rw [cleared, SingleFlight.outcome?_clear] at ih
    exact ih

/-! Counts. -/

end Caller

theorem SingleFlight.counts_put [BEq κ] (cache : SingleFlight κ ν) (key : κ) (outcome : Option ν) :
    (cache.put key outcome).hits = cache.hits ∧ (cache.put key outcome).misses = cache.misses := by
  unfold put
  split <;> exact ⟨rfl, rfl⟩

namespace Region

variable {σ τ κ ν ε : Type} [BEq κ] {region : Region σ κ ν} {rest : σ → τ} {state : σ} {key : κ}

theorem counts_asked (beside : region.Beside rest)
    (unknown : (region.cache state).known key = none) :
    (region.cache (region.asked 0 key state)).hits = (region.cache state).hits ∧
      (region.cache (region.asked 0 key state)).misses = (region.cache state).misses + 1 := by
  rw [asked, beside.cache_withEntry, beside.cache_withCache, SingleFlight.claim_unknown unknown]
  exact ⟨rfl, rfl⟩

/-- Whoever gets an outcome that was known counts as a hit. -/
theorem counts_known (beside : region.Beside rest) (fetch : StateM σ (Except ε (Option ν)))
    {outcome : Option ν} (known : (region.cache state).known key = some (.done outcome)) :
    let after := region.cache (region.compute key id fetch 0 state).2
    after.hits = (region.cache state).hits + 1 ∧ after.misses = (region.cache state).misses := by
  rw [compute_done id fetch 0 known, beside.cache_withCache]
  exact ⟨rfl, rfl⟩

/-- The end of a fetch is not counted. -/
theorem counts_fetched (beside : region.Beside rest) (fetch : StateM σ (Except ε (Option ν)))
    (unknown : (region.cache state).known key = none) :
    let after := region.cache (region.compute key id fetch 0 state).2
    let fetched := region.cache (fetch (region.asked 0 key state)).2
    after.hits = fetched.hits ∧ after.misses = fetched.misses := by
  rw [compute_asked unknown]
  cases fetch (region.asked 0 key state) with
  | mk result after =>
    cases result with
    | ok found =>
      simp only [update, beside.cache_withCache]
      exact ⟨rfl, rfl⟩
    | error fault =>
      simp only [update, beside.cache_withCache]
      exact ⟨rfl, rfl⟩

end Region

namespace Caller

variable {σ τ κ ν ε : Type} [BEq κ] [LawfulBEq κ] {region : Region σ κ ν} {rest : σ → τ}

/-- The counts of a cache have gone up by the keys that were asked for at some moments, and by those of them
that were fetched. -/
def Counted (before after : SingleFlight κ ν) (moments : List (Moment σ κ ν ε)) : Prop :=
  after.hits + after.misses = before.hits + before.misses + moments.countP (·.call.isCompute) ∧
    after.misses = before.misses + moments.countP (·.call.isFetch)

theorem run_counted (beside : region.Beside rest) (caller : Caller κ ν ε) (busy : List κ) (state : σ)
    (fetches : (region.cache state).Fetches busy)
    (proper : ∀ moment ∈ caller.moments region busy state, moment.Proper) :
    Counted (region.cache state) (region.cache (caller.run region state).2)
      (caller.moments region busy state) := by
  refine induct_run (motive := fun caller busy state => Counted (region.cache state)
      (region.cache (caller.run region state).2) (caller.moments region busy state))
    beside ?done ?get ?put ?found ?fetched ?clear caller busy state fetches proper
  case done => intro result busy state _; exact ⟨rfl, rfl⟩
  case get => intro key next busy state _ ih; exact ih
  case put =>
    rintro key outcome next busy state fetches stored ⟨calls, fetched⟩
    obtain ⟨hits, misses⟩ := SingleFlight.counts_put (region.cache state) key outcome
    rw [stored, hits, misses] at calls
    rw [stored, misses] at fetched
    exact ⟨calls, fetched⟩
  case found =>
    rintro key fetch next busy state outcome fetches known ⟨calls, fetched⟩
    obtain ⟨hits, misses⟩ := Region.counts_known beside (fetch.run region) known
    rw [hits, misses] at calls
    rw [misses] at fetched
    rw [Counted, moments_compute_known known, run_compute, behind]
    simp only [List.countP_cons, Call.isCompute_compute, Call.isFetch_compute, Bool.false_eq_true,
      if_true, if_false]
    omega
  case fetched =>
    rintro key fetch next busy state fetches landing ⟨callsInside, fetchedInside⟩ ⟨calls, fetched⟩
    obtain ⟨hits, misses⟩ := Region.counts_fetched beside (fetch.run region) landing.unknown
    obtain ⟨hitsThen, missesThen⟩ := Region.counts_asked beside landing.unknown
    rw [hits, misses] at calls
    rw [misses] at fetched
    rw [hitsThen, missesThen] at callsInside
    rw [missesThen] at fetchedInside
    rw [Counted, moments_compute_unknown landing.unknown, run_compute, behind]
    simp only [List.countP_cons, List.countP_append, Call.isCompute_compute, Call.isCompute_fetch,
      Call.isFetch_compute, Call.isFetch_fetch, Bool.false_eq_true, if_true, if_false]
    omega
  case clear =>
    rintro next state fetches cleared ⟨calls, fetched⟩
    rw [cleared] at calls fetched
    exact ⟨calls, fetched⟩

/-! What is recorded stays. -/

/-- All outcomes that there are at one moment are there at another one, unless the first one clears them. -/
def Follows (region : Region σ κ ν) (earlier later : Moment σ κ ν ε) : Prop :=
  earlier.call.isClear = false →
    (region.cache earlier.state).Extends (region.cache later.state)

omit [LawfulBEq κ] in
theorem state_of_head? (caller : Caller κ ν ε) (busy : List κ) (state : σ) :
    ∀ moment ∈ (caller.moments region busy state).head?, moment.state = state := by
  cases caller <;> rintro moment ⟨⟩ <;> rfl

omit [LawfulBEq κ] in
/-- The last moment is the end of the run. -/
theorem done_suffix (caller : Caller κ ν ε) (busy : List κ) (state : σ) :
    [⟨busy, (caller.run region state).2, .done⟩] <:+ caller.moments region busy state := by
  induction caller generalizing busy state with
  | done result => exact List.suffix_refl _
  | get key next ih => exact (ih _ busy state).trans (List.suffix_cons _ _)
  | put key outcome next ih => exact (ih busy _).trans (List.suffix_cons _ _)
  | compute key fetch next _ nextIh =>
    exact (nextIh _ busy _).trans ((List.suffix_append _ _).trans (List.suffix_cons _ _))
  | clear next ih => exact (ih busy _).trans (List.suffix_cons _ _)

/-- From each moment of a run to the next one, nothing that is recorded is lost, unless it is cleared. -/
theorem moments_chain (beside : region.Beside rest) (caller : Caller κ ν ε) (busy : List κ) (state : σ)
    (fetches : (region.cache state).Fetches busy)
    (proper : ∀ moment ∈ caller.moments region busy state, moment.Proper) :
    (caller.moments region busy state).IsChain (Follows region) := by
  have behind {moment : Moment σ κ ν ε} {caller : Caller κ ν ε} {busy : List κ} {state : σ}
      (kept : moment.call.isClear = false →
        (region.cache moment.state).Extends (region.cache state)) :
      ∀ first ∈ (caller.moments region busy state).head?, Follows region moment first := by
    intro first head
    rw [Follows, caller.state_of_head? busy state first head]
    exact kept
  refine induct_run (motive := fun caller busy state =>
      (caller.moments region busy state).IsChain (Follows region))
    beside ?done ?get ?put ?found ?fetched ?clear caller busy state fetches proper
  case done => intro result busy state _; exact .singleton _
  case get =>
    intro key next busy state _ ih
    exact ih.cons (behind fun _ => .refl _)
  case put =>
    intro key outcome next busy state _ stored ih
    refine ih.cons (behind fun _ => ?_)
    rw [stored]
    exact (SingleFlight.retains_put _ key outcome).extends
  case found =>
    intro key fetch next busy state outcome _ known ih
    obtain ⟨-, same, -⟩ := Region.compute_known beside id (fetch.run region) 0 known
    rw [moments_compute_known known]
    refine ih.cons (behind fun _ other found recorded => ?_)
    rw [same other, recorded]
  case fetched =>
    intro key fetch next busy state _ landing inside ih
    rw [moments_compute_unknown landing.unknown]
    refine .cons_cons (fun _ => landing.extends_asked beside)
      (.append (inside.cons (behind fun _ => .refl _)) ih ?_)
    obtain ⟨earlier, same⟩ := fetch.done_suffix (key :: busy) (region.asked 0 key state)
    intro last final
    rw [← same, ← List.cons_append, List.getLast?_concat] at final
    cases final
    exact behind fun _ => landing.extends_ended
  case clear =>
    intro next state _ _ ih
    refine ih.cons (behind fun clearless => ?_)
    cases clearless

omit [LawfulBEq κ] in
theorem extends_of_chain {earlier later : Moment σ κ ν ε} {between : List (Moment σ κ ν ε)}
    (chain : (earlier :: (between ++ [later])).IsChain (Follows region))
    (clearless : ∀ moment ∈ earlier :: between, moment.call.isClear = false) :
    (region.cache earlier.state).Extends (region.cache later.state) := by
  induction between generalizing earlier with
  | nil => exact chain.rel (clearless earlier List.mem_cons_self)
  | cons next others ih =>
    obtain ⟨here, there⟩ := List.isChain_cons_cons.mp chain
    obtain ⟨first, rest⟩ := List.forall_mem_cons.mp clearless
    exact (here first).trans (ih there rest)

/-! What is fetched. -/

end Caller

/-- What there is to know of a cache at a moment. A key that is being fetched has no outcome, and gets none
from elsewhere. A caller that asks for a key with an outcome gets that, and its fetch makes no difference. A
caller that asks for one without gets what its fetch gives, which is recorded unless it is a failure; of all
other keys the cache has the outcomes that the fetch left. -/
structure Moment.Lawful [BEq κ] (region : Region σ κ ν) (moment : Moment σ κ ν ε) : Prop where
  busy : ∀ key ∈ moment.busy, (region.cache moment.state).outcome? key = none ∧
    ∀ outcome, (region.cache moment.state).put key outcome = region.cache moment.state
  found : ∀ key fetch outcome, moment.call = .compute key fetch →
    (region.cache moment.state).outcome? key = some outcome →
    let computed := Caller.computed region key fetch moment.state
    computed.1.outcome = .ok outcome ∧
      (region.cache computed.2).outcome? = (region.cache moment.state).outcome? ∧
      ∀ unused : Caller κ ν ε, Caller.computed region key unused moment.state = computed
  fetched : ∀ key fetch, moment.call = .compute key fetch →
    (region.cache moment.state).outcome? key = none →
    let computed := Caller.computed region key fetch moment.state
    let fetched := fetch.run region (region.asked 0 key moment.state)
    computed.1.outcome = fetched.1 ∧
      ∀ other, (region.cache computed.2).outcome? other =
        if other == key then fetched.1.toOption else (region.cache fetched.2).outcome? other

namespace Caller

variable {σ τ κ ν ε : Type} [BEq κ] [LawfulBEq κ] {region : Region σ κ ν} {rest : σ → τ} {busy : List κ}
  {state : σ} {key : κ} {fetch : Caller κ ν ε}

omit [LawfulBEq κ] in
theorem lawful_of_quiet (fetches : (region.cache state).Fetches busy) {call : Call κ ν ε}
    (quiet : call.isCompute = false) : Moment.Lawful region ⟨busy, state, call⟩ where
  busy key member := ⟨fetches.outcome? member, fetches.put_busy member⟩
  found := by
    rintro key fetch outcome rfl
    cases quiet
  fetched := by
    rintro key fetch rfl
    cases quiet

omit [LawfulBEq κ] in
theorem lawful_of_known (beside : region.Beside rest) (fetches : (region.cache state).Fetches busy)
    {outcome : Option ν} (known : (region.cache state).known key = some (.done outcome)) :
    Moment.Lawful region ⟨busy, state, .compute key fetch⟩ where
  busy key member := ⟨fetches.outcome? member, fetches.put_busy member⟩
  found := by
    rintro _ _ other ⟨⟩ recorded
    rw [SingleFlight.outcome?_eq_some.mpr known] at recorded
    cases recorded
    obtain ⟨gives, same, -⟩ := Region.compute_known beside id (fetch.run region) 0 known
    refine ⟨congrArg Computed.outcome gives, ?_, fun unused => ?_⟩
    · funext other
      exact SingleFlight.outcome?_of_known (same other)
    · rw [computed, computed, Region.compute_done id _ 0 known, Region.compute_done id _ 0 known]
  fetched := by
    rintro _ _ ⟨⟩ missing
    rw [SingleFlight.outcome?_eq_some.mpr known] at missing
    cases missing

omit [LawfulBEq κ] in
theorem Landing.lawful (fetches : (region.cache state).Fetches busy)
    (landing : Landing region key fetch busy state) :
    Moment.Lawful region ⟨busy, state, .compute key fetch⟩ where
  busy key member := ⟨fetches.outcome? member, fetches.put_busy member⟩
  found := by
    rintro _ _ outcome ⟨⟩ recorded
    rw [landing.none_before] at recorded
    cases recorded
  fetched := by
    rintro _ _ ⟨⟩ missing
    exact ⟨landing.gives, landing.outcome?_eq⟩

theorem run_lawful (beside : region.Beside rest) (caller : Caller κ ν ε) (busy : List κ) (state : σ)
    (fetches : (region.cache state).Fetches busy)
    (proper : ∀ moment ∈ caller.moments region busy state, moment.Proper) :
    ∀ moment ∈ caller.moments region busy state, moment.Lawful region := by
  refine induct_run (motive := fun caller busy state =>
      ∀ moment ∈ caller.moments region busy state, moment.Lawful region)
    beside ?done ?get ?put ?found ?fetched ?clear caller busy state fetches proper
  case done =>
    intro result busy state fetches
    rw [moments, List.forall_mem_singleton]
    exact lawful_of_quiet fetches rfl
  case get =>
    intro key next busy state fetches ih
    exact List.forall_mem_cons.mpr ⟨lawful_of_quiet fetches rfl, ih⟩
  case put =>
    intro key outcome next busy state fetches _ ih
    exact List.forall_mem_cons.mpr ⟨lawful_of_quiet fetches rfl, ih⟩
  case found =>
    intro key fetch next busy state outcome fetches known ih
    rw [moments_compute_known known]
    exact List.forall_mem_cons.mpr ⟨lawful_of_known beside fetches known, ih⟩
  case fetched =>
    intro key fetch next busy state fetches landing inside ih
    rw [moments_compute_unknown landing.unknown]
    exact List.forall_mem_cons.mpr ⟨landing.lawful fetches, List.forall_mem_cons.mpr
      ⟨lawful_of_quiet landing.begins rfl, List.forall_mem_append.mpr ⟨inside, ih⟩⟩⟩
  case clear =>
    intro next state fetches _ ih
    exact List.forall_mem_cons.mpr ⟨lawful_of_quiet fetches rfl, ih⟩

/-- A cache is a map in which keys get their outcomes once. Whatever a caller does, it gets what it would get
from such a map, and leaves the outcomes that the map would have. What is recorded stays until it is cleared;
at each moment, keys have no outcome while they are being fetched, and only those without one are fetched; and
the cache counts how often keys are asked for and fetched. -/
theorem run_writeOnce (beside : region.Beside rest) (caller : Caller κ ν ε) (state : σ)
    (idle : (region.cache state).Idle)
    (proper : ∀ moment ∈ caller.moments region [] state, moment.Proper) :
    let before := region.cache state
    let after := region.cache (caller.run region state).2
    let moments := caller.moments region [] state
    caller.meaning [] before.outcome? = ((caller.run region state).1, after.outcome?) ∧
      (∀ earlier between later, earlier :: (between ++ [later]) <:+: moments →
        (∀ moment ∈ earlier :: between, moment.call.isClear = false) →
        ∀ key outcome, (region.cache earlier.state).outcome? key = some outcome →
          (region.cache later.state).outcome? key = some outcome) ∧
      (∀ moment ∈ moments, moment.Lawful region) ∧
      after.hits + after.misses =
        before.hits + before.misses + moments.countP (·.call.isCompute) ∧
      after.misses = before.misses + moments.countP (·.call.isFetch) := by
  intro before after moments
  have fetches := idle.fetches
  refine ⟨run_meaning beside caller [] state fetches proper, ?_,
    run_lawful beside caller [] state fetches proper, run_counted beside caller [] state fetches proper⟩
  rintro earlier between later ⟨front, behind, split⟩ clearless key outcome recorded
  have whole : moments.IsChain (Follows region) :=
    moments_chain beside caller [] state fetches proper
  rw [← split] at whole
  have chain := whole.left_of_append.right_of_append
  rw [SingleFlight.outcome?_eq_some] at recorded ⊢
  exact extends_of_chain chain clearless key outcome recorded

end Caller

/-- A cache by itself. -/
def Region.alone [BEq κ] (name : String) : Region (SingleFlight κ ν) κ ν where
  name := name
  cache := id
  withCache cache _ := cache
  withEntry _ cache := cache

theorem Region.alone_beside [BEq κ] (name : String) :
    (Region.alone name : Region (SingleFlight κ ν) κ ν).Beside fun _ => () :=
  ⟨fun _ _ => rfl, fun _ _ => rfl, fun _ _ => rfl, fun _ _ => rfl⟩

namespace Caller

/-- Asks for a key whose fetch looks at that key itself, tries to put something there, notes that another key
has nothing, and asks for a third one, whose fetch fails; then asks for the first one and the third one again. -/
def nested : Caller Nat Nat String :=
  .compute 1
    (.get 1 fun own => .put 1 (some 5) <| .put 2 none <|
      .compute 3 (.put 4 (some 8) <| .done (.error "down")) fun _ =>
        .done (.ok (some (if own.isNone then 7 else 6))))
    fun _ => .compute 1 (.done (.error "unused")) fun _ => .compute 3 (.done (.ok (some 9))) .done

/-- The first key gets what its fetch gave and not what it tried to put there, the second and the fourth one
what fetches put there, and the third one what the second fetch gave. -/
theorem run_writeOnce_nested :
    let region : Region (SingleFlight Nat Nat) Nat Nat := .alone "numbers"
    let after := (nested.run region {}).2
    (nested.run region {}).1 = .ok (some 9) ∧
      (after.outcome? 1 = some (some 7) ∧ after.outcome? 2 = some none ∧
        after.outcome? 3 = some (some 9) ∧ after.outcome? 4 = some (some 8) ∧ after.outcome? 5 = none) ∧
      after.hits + after.misses = 4 ∧ after.misses = 3 := by
  intro region after
  have proper : ∀ moment ∈ nested.moments region [] {}, moment.Proper := by decide
  have idle : (region.cache {}).Idle := fun key flight known => by cases known
  obtain ⟨same, -, -, calls, fetched⟩ :=
    run_writeOnce (Region.alone_beside "numbers") nested {} idle proper
  have outcome (key : Nat) : after.outcome? key = (nested.meaning [] fun _ => none).2 key :=
    (congrFun (congrArg Prod.snd same) key).symm
  refine ⟨(congrArg Prod.fst same).symm.trans (by cbv), ⟨?_, ?_, ?_, ?_, ?_⟩, calls, fetched⟩
  all_goals
    rw [outcome]
    cbv

end Caller
end MavenResolution
