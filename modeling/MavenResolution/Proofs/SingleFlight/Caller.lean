import MavenResolution.Proofs.SingleFlight.Compute

/-! Callers of a cache whose fetches are callers of it themselves, and the moments that they go through. At
each of them the keys that are being fetched are those of the fetches that have begun and not yet ended, and
what is known of a key stays known until it is cleared. -/
namespace MavenResolution

/-- What a caller does with a cache, and what comes of it in the end. What it does next may hang on all that it
got before. A fetch is a caller too, whose end is what it fetched. -/
inductive Caller (κ ν ε : Type) where
  | done (result : Except ε (Option ν))
  | get (key : κ) (next : Option (Option ν) → Caller κ ν ε)
  | put (key : κ) (outcome : Option ν) (next : Caller κ ν ε)
  | compute (key : κ) (fetch : Caller κ ν ε) (next : Except ε (Option ν) → Caller κ ν ε)
  | clear (next : Caller κ ν ε)

/-- One call, or the beginning of a fetch, or the end of a caller. -/
inductive Call (κ ν ε : Type) where
  | get (key : κ)
  | put (key : κ) (outcome : Option ν)
  | compute (key : κ) (fetch : Caller κ ν ε)
  | fetch (key : κ)
  | clear
  | done

def Call.isCompute : Call κ ν ε → Bool
  | .compute _ _ => true
  | _ => false

def Call.isFetch : Call κ ν ε → Bool
  | .fetch _ => true
  | _ => false

def Call.isClear : Call κ ν ε → Bool
  | .clear => true
  | _ => false

@[simp] theorem Call.isCompute_compute (key : κ) (fetch : Caller κ ν ε) :
    (Call.compute key fetch).isCompute = true := rfl

@[simp] theorem Call.isCompute_fetch (key : κ) : (Call.fetch key : Call κ ν ε).isCompute = false := rfl

@[simp] theorem Call.isFetch_compute (key : κ) (fetch : Caller κ ν ε) :
    (Call.compute key fetch).isFetch = false := rfl

@[simp] theorem Call.isFetch_fetch (key : κ) : (Call.fetch key : Call κ ν ε).isFetch = true := rfl

/-- A call, the state in which it is made, and the keys whose fetches have begun and not yet ended. -/
structure Moment (σ κ ν ε : Type) where
  busy : List κ
  state : σ
  call : Call κ ν ε

/-- No caller asks for a key that it is fetching, and none clears the cache while it is fetching. -/
def Moment.Proper (moment : Moment σ κ ν ε) : Prop :=
  match moment.call with
  | .compute key _ => key ∉ moment.busy
  | .clear => moment.busy = []
  | _ => True

instance [DecidableEq κ] : (moment : Moment σ κ ν ε) → Decidable moment.Proper
  | ⟨busy, _, .compute key _⟩ => inferInstanceAs (Decidable (key ∉ busy))
  | ⟨busy, _, .clear⟩ => inferInstanceAs (Decidable (busy = []))
  | ⟨_, _, .get _⟩ => inferInstanceAs (Decidable True)
  | ⟨_, _, .put _ _⟩ => inferInstanceAs (Decidable True)
  | ⟨_, _, .fetch _⟩ => inferInstanceAs (Decidable True)
  | ⟨_, _, .done⟩ => inferInstanceAs (Decidable True)

namespace SingleFlight

variable {κ ν : Type} [BEq κ] {cache later last : SingleFlight κ ν} {key other : κ}

theorem outcome?_eq_some {outcome : Option ν} :
    cache.outcome? key = some outcome ↔ cache.known key = some (.done outcome) := by
  unfold outcome? known
  cases cache.entries.lookup key with
  | none => simp
  | some flight => cases flight <;> simp

/-- Nothing that is known of a key is lost. -/
def Retains (cache later : SingleFlight κ ν) : Prop :=
  ∀ key flight, cache.known key = some flight → later.known key = some flight

theorem Retains.refl (cache : SingleFlight κ ν) : cache.Retains cache := fun _ _ known => known

theorem Retains.trans (first : cache.Retains later) (second : later.Retains last) : cache.Retains last :=
  fun key flight known => second key flight (first key flight known)

theorem Retains.extends (retains : cache.Retains later) : cache.Extends later :=
  fun key outcome => retains key (.done outcome)

/-- The keys that are being fetched are the busy ones. -/
def Fetches (cache : SingleFlight κ ν) (busy : List κ) : Prop :=
  ∀ key, (∃ ticket, cache.known key = some (.pending ticket)) ↔ key ∈ busy

theorem Idle.fetches (idle : cache.Idle) : cache.Fetches [] := by
  intro key
  constructor
  · rintro ⟨ticket, pending⟩
    obtain ⟨outcome, same⟩ := idle key _ pending
    cases same
  · rintro ⟨⟩

variable {busy : List κ}

/-- Of a key that is not being fetched there is an outcome, or nothing is known. -/
theorem Fetches.settled (fetches : cache.Fetches busy) (free : key ∉ busy) :
    (∃ outcome, cache.known key = some (.done outcome)) ∨ cache.known key = none := by
  cases known : cache.known key with
  | none => exact .inr rfl
  | some flight =>
    cases flight with
    | pending ticket => exact absurd ((fetches key).mp ⟨ticket, known⟩) free
    | done outcome => exact .inl ⟨outcome, rfl⟩

theorem Fetches.of_known (fetches : cache.Fetches busy)
    (same : ∀ key, later.known key = cache.known key) : later.Fetches busy := by
  intro key
  rw [same key]
  exact fetches key

theorem put_of_known {flight : Flight ν} (known : cache.known key = some flight) (outcome : Option ν) :
    cache.put key outcome = cache := by
  unfold SingleFlight.known at known
  simp only [put, known]

section

variable [LawfulBEq κ]

omit [LawfulBEq κ] in
theorem known_put (cache : SingleFlight κ ν) (key : κ) (outcome : Option ν) (other : κ) :
    (cache.put key outcome).known other =
      if other == key && (cache.known key).isNone then some (.done outcome) else cache.known other := by
  cases known : cache.known key with
  | some flight => simp [put_of_known known]
  | none =>
    unfold SingleFlight.known at known ⊢
    simp only [put, known, List.lookup_cons]
    cases other == key <;> rfl

theorem retains_put (cache : SingleFlight κ ν) (key : κ) (outcome : Option ν) :
    cache.Retains (cache.put key outcome) := by
  intro other flight known
  rw [known_put]
  split
  · rename_i fresh
    obtain ⟨same, unknown⟩ := Bool.and_eq_true_iff.mp fresh
    rw [eq_of_beq same] at known
    rw [known] at unknown
    cases unknown
  · exact known

theorem Fetches.put (fetches : cache.Fetches busy) (key : κ) (outcome : Option ν) :
    (cache.put key outcome).Fetches busy := by
  intro other
  rw [← fetches other, known_put]
  split
  · rename_i fresh
    obtain ⟨same, unknown⟩ := Bool.and_eq_true_iff.mp fresh
    rw [eq_of_beq same, Option.isNone_iff_eq_none.mp unknown]
    simp
  · rfl

end

theorem fetches_clear (cache : SingleFlight κ ν) : cache.clear.Fetches [] := by
  refine Idle.fetches fun key flight known => ?_
  cases known

variable [LawfulBEq κ]

theorem lookup_settled_self (entries : List (κ × Flight ν)) (key : κ) (ticket : Nat)
    (outcome : Option ν) :
    (entries.map fun (k, flight) =>
      (k, if k == key && flight.isPending ticket then .done outcome else flight)).lookup key =
        (entries.lookup key).map fun flight =>
          if flight.isPending ticket then .done outcome else flight := by
  induction entries with
  | nil => rfl
  | cons entry rest ih =>
    obtain ⟨k, flight⟩ := entry
    simp only [List.map_cons, List.lookup_cons, ih]
    cases same : key == k with
    | false => rfl
    | true => simp [eq_of_beq same]

/-- The holder of a ticket settles the key that it fetches and nothing else. -/
theorem known_settle_pending {ticket : Nat} (pending : cache.known key = some (.pending ticket))
    (outcome : Option ν) (other : κ) :
    (cache.settle key ticket outcome).known other =
      if other == key then some (.done outcome) else cache.known other := by
  cases same : other == key with
  | false => exact lookup_settled _ _ _ (beq_eq_false_iff_ne.mp same)
  | true =>
    rw [eq_of_beq same]
    unfold known at pending
    refine (lookup_settled_self cache.entries key ticket outcome).trans ?_
    rw [pending]
    simp [Flight.isPending]

end SingleFlight

namespace Region

variable {σ κ ν ε τ : Type} [BEq κ] [LawfulBEq κ] {region : Region σ κ ν} {rest : σ → τ} {state : σ}
  {key : κ}

omit [LawfulBEq κ] in
/-- The caller that begins to fetch a key is the one that has it pending. -/
theorem known_asked (beside : region.Beside rest) (unknown : (region.cache state).known key = none)
    (other : κ) : (region.cache (region.asked 0 key state)).known other =
      if other == key then some (.pending (region.cache state).misses)
      else (region.cache state).known other := by
  rw [asked, beside.cache_withEntry, beside.cache_withCache, SingleFlight.claim_unknown unknown]
  simp only [SingleFlight.known, SingleFlight.join, List.lookup_cons]
  cases other == key <;> rfl

theorem fetches_asked (beside : region.Beside rest) {busy : List κ}
    (unknown : (region.cache state).known key = none) (fetches : (region.cache state).Fetches busy) :
    (region.cache (region.asked 0 key state)).Fetches (key :: busy) := by
  intro other
  rw [known_asked beside unknown]
  cases same : other == key with
  | true => simp [eq_of_beq same]
  | false => simp [fetches other, beq_eq_false_iff_ne.mp same]

/-- A fetch that leaves its own key pending gives a caller its result, and leaves behind what it leaves
itself, and an outcome of its key unless it fails. -/
theorem compute_fetching (beside : region.Beside rest)
    (unknown : (region.cache state).known key = none)
    {fetch : StateM σ (Except ε (Option ν))} {result : Except ε (Option ν)} {after : σ}
    (fetched : fetch (region.asked 0 key state) = (result, after))
    (pending : (region.cache after).known key = some (.pending (region.cache state).misses)) :
    let run := region.compute key id fetch 0 state
    run.1.outcome = result ∧
      ∀ other, (region.cache run.2).known other =
        if other == key then result.toOption.map .done else (region.cache after).known other := by
  rw [compute_asked unknown, fetched]
  cases result with
  | ok found =>
    refine ⟨rfl, fun other => ?_⟩
    simp only [update, beside.cache_withCache]
    exact SingleFlight.known_settle_pending pending found other
  | error fault =>
    refine ⟨rfl, fun other => ?_⟩
    simp only [update, beside.cache_withCache]
    exact SingleFlight.lookup_dropped _ _ _

/-- A fetch that loses nothing and leaves its own key pending makes a caller that loses nothing and leaves
that key settled, or unknown as it was. -/
theorem compute_keeps (beside : region.Beside rest) {busy : List κ} (free : key ∉ busy)
    (unknown : (region.cache state).known key = none)
    (fetch : StateM σ (Except ε (Option ν))) {result : Except ε (Option ν)} {after : σ}
    (fetched : fetch (region.asked 0 key state) = (result, after))
    (fetches : (region.cache after).Fetches (key :: busy))
    (retains : (region.cache (region.asked 0 key state)).Retains (region.cache after)) :
    let run := region.compute key id fetch 0 state
    (run.1.outcome = result ∧
      ∀ other, (region.cache run.2).known other =
        if other == key then result.toOption.map .done else (region.cache after).known other) ∧
      (region.cache run.2).Fetches busy ∧ (region.cache state).Retains (region.cache run.2) := by
  have asked := known_asked beside unknown
  have pending := retains key (.pending (region.cache state).misses) (by simp [asked])
  have gives := compute_fetching beside unknown fetched pending
  refine ⟨gives, fun other => ?_, fun other flight known => ?_⟩
  · rw [gives.2 other]
    cases same : other == key with
    | true =>
      rw [eq_of_beq same]
      cases result <;> simp [Except.toOption, free]
    | false =>
      rw [if_neg Bool.false_ne_true, fetches other]
      simp [beq_eq_false_iff_ne.mp same]
  · have apart : (other == key) = false := by
      rw [beq_eq_false_iff_ne]
      rintro rfl
      rw [unknown] at known
      cases known
    rw [gives.2 other, apart, if_neg Bool.false_ne_true]
    refine retains other flight ?_
    rw [asked, apart, if_neg Bool.false_ne_true, known]

end Region

namespace Caller

variable {σ τ κ ν ε : Type} [BEq κ]

/-- What comes of a caller of a cache, and the state that it leaves. -/
def run (region : Region σ κ ν) : Caller κ ν ε → StateM σ (Except ε (Option ν))
  | .done result => return result
  | .get key next => do
    let state ← MonadState.get
    (next ((region.cache state).outcome? key)).run region
  | .put key outcome next => do
    modify (region.update (·.put key outcome))
    next.run region
  | .compute key fetch next => do
    let computed ← region.compute key id (fetch.run region)
    (next computed.outcome).run region
  | .clear next => do
    modify (region.update (·.clear))
    next.run region

/-- The moments that a caller goes through, those of the fetches that it runs included. -/
def moments (region : Region σ κ ν) : Caller κ ν ε → List κ → σ → List (Moment σ κ ν ε)
  | .done _, busy, state => [⟨busy, state, .done⟩]
  | .get key next, busy, state =>
    ⟨busy, state, .get key⟩ ::
      (next ((region.cache state).outcome? key)).moments region busy state
  | .put key outcome next, busy, state =>
    ⟨busy, state, .put key outcome⟩ ::
      next.moments region busy (region.update (·.put key outcome) state)
  | .compute key fetch next, busy, state =>
    let fetching := match ((region.cache state).claim key).1 with
      | .fetching _ =>
        ⟨key :: busy, region.asked 0 key state, .fetch key⟩ ::
          fetch.moments region (key :: busy) (region.asked 0 key state)
      | _ => []
    let computed := region.compute key id (fetch.run region) 0 state
    ⟨busy, state, .compute key fetch⟩ ::
      (fetching ++ (next computed.1.outcome).moments region busy computed.2)
  | .clear next, busy, state =>
    ⟨busy, state, .clear⟩ :: next.moments region busy (region.update (·.clear) state)

variable {region : Region σ κ ν} {rest : σ → τ} {caller fetch : Caller κ ν ε} {busy : List κ} {state : σ}
  {key : κ} {next : Except ε (Option ν) → Caller κ ν ε}

/-- What a caller gets that asks for a key, and the state that it finds then. -/
abbrev computed (region : Region σ κ ν) (key : κ) (fetch : Caller κ ν ε) (state : σ) :
    Computed ε (Option ν) ν × σ :=
  region.compute key id (fetch.run region) 0 state

/-- The moments behind a call that asks for a key. -/
abbrev behind (region : Region σ κ ν) (key : κ) (fetch : Caller κ ν ε)
    (next : Except ε (Option ν) → Caller κ ν ε) (busy : List κ) (state : σ) : List (Moment σ κ ν ε) :=
  (next (computed region key fetch state).1.outcome).moments region busy
    (computed region key fetch state).2

theorem moments_compute_known {outcome : Option ν}
    (known : (region.cache state).known key = some (.done outcome)) :
    (compute key fetch next).moments region busy state =
      ⟨busy, state, .compute key fetch⟩ :: behind region key fetch next busy state := by
  rw [moments, SingleFlight.claim_known known]
  rfl

theorem moments_compute_unknown (unknown : (region.cache state).known key = none) :
    (compute key fetch next).moments region busy state =
      ⟨busy, state, .compute key fetch⟩ :: ⟨key :: busy, region.asked 0 key state, .fetch key⟩ ::
        (fetch.moments region (key :: busy) (region.asked 0 key state) ++
          behind region key fetch next busy state) := by
  rw [moments, SingleFlight.claim_unknown unknown]
  rfl

/-- The keys that are being fetched when a caller begins are being fetched at all of its moments. -/
theorem busy_suffix (caller : Caller κ ν ε) (busy : List κ) (state : σ) :
    ∀ moment ∈ caller.moments region busy state, busy <:+ moment.busy := by
  induction caller generalizing busy state with
  | done result => simp [moments]
  | get key next ih =>
    rintro moment (_ | ⟨_, member⟩)
    · exact List.suffix_refl _
    · exact ih _ busy state moment member
  | put key outcome next ih =>
    rintro moment (_ | ⟨_, member⟩)
    · exact List.suffix_refl _
    · exact ih busy _ moment member
  | compute key fetch next fetchIh nextIh =>
    rintro moment (_ | ⟨_, member⟩)
    · exact List.suffix_refl _
    · rcases List.mem_append.mp member with inside | later
      · split at inside
        · rcases List.mem_cons.mp inside with rfl | deeper
          · exact List.suffix_cons _ _
          · exact (List.suffix_cons _ _).trans (fetchIh (key :: busy) _ moment deeper)
        · cases inside
      · exact nextIh _ busy _ moment later
  | clear next ih =>
    rintro moment (_ | ⟨_, member⟩)
    · exact List.suffix_refl _
    · exact ih busy _ moment member

/-- Nothing is cleared within a fetch. -/
theorem clearless_of_busy (filled : busy ≠ [])
    (proper : ∀ moment ∈ caller.moments region busy state, moment.Proper) :
    ∀ moment ∈ caller.moments region busy state, moment.call.isClear = false := by
  intro moment member
  have behaved := proper moment member
  cases call : moment.call with
  | clear =>
    rw [Moment.Proper, call] at behaved
    have suffix := caller.busy_suffix busy state moment member
    rw [behaved, List.suffix_nil] at suffix
    exact absurd suffix filled
  | _ => rfl

variable [LawfulBEq κ]

/-- A run ends with the keys being fetched that are so when it begins, and nothing that is known is lost where
nothing is cleared. -/
theorem run_keeps (beside : region.Beside rest) (caller : Caller κ ν ε) (busy : List κ) (state : σ)
    (fetches : (region.cache state).Fetches busy)
    (proper : ∀ moment ∈ caller.moments region busy state, moment.Proper) :
    (region.cache (caller.run region state).2).Fetches busy ∧
      ((∀ moment ∈ caller.moments region busy state, moment.call.isClear = false) →
        (region.cache state).Retains (region.cache (caller.run region state).2)) := by
  induction caller generalizing busy state with
  | done result => exact ⟨fetches, fun _ => .refl _⟩
  | get key next ih =>
    obtain ⟨after, retains⟩ := ih _ busy state fetches (List.forall_mem_cons.mp proper).2
    exact ⟨after, fun clearless => retains (List.forall_mem_cons.mp clearless).2⟩
  | put key outcome next ih =>
    have stored : region.cache (region.update (·.put key outcome) state) =
        (region.cache state).put key outcome := beside.cache_withCache _ _
    obtain ⟨after, retains⟩ := ih busy (region.update (·.put key outcome) state)
      (stored ▸ fetches.put key outcome) (List.forall_mem_cons.mp proper).2
    refine ⟨after, fun clearless => .trans ?_ (retains (List.forall_mem_cons.mp clearless).2)⟩
    rw [stored]
    exact SingleFlight.retains_put _ key outcome
  | compute key fetch next fetchIh nextIh =>
    have free : key ∉ busy := proper _ List.mem_cons_self
    rcases fetches.settled free with ⟨outcome, known⟩ | unknown
    · rw [moments_compute_known known] at proper ⊢
      obtain ⟨-, same, -⟩ := Region.compute_known beside id (fetch.run region) 0 known
      obtain ⟨after, retains⟩ :=
        nextIh _ busy _ (fetches.of_known same) (List.forall_mem_cons.mp proper).2
      refine ⟨after, fun clearless => ?_⟩
      refine .trans (fun other flight found => ?_) (retains (List.forall_mem_cons.mp clearless).2)
      rw [same other, found]
    · rw [moments_compute_unknown unknown] at proper ⊢
      obtain ⟨-, properLater⟩ := List.forall_mem_cons.mp proper
      obtain ⟨-, properBoth⟩ := List.forall_mem_cons.mp properLater
      obtain ⟨properInside, properNext⟩ := List.forall_mem_append.mp properBoth
      obtain ⟨ends, retainsInside⟩ := fetchIh (key :: busy) _
        (Region.fetches_asked beside unknown fetches) properInside
      obtain ⟨-, fetchesThen, retainsThen⟩ := Region.compute_keeps beside free unknown
        (fetch.run region) rfl ends
        (retainsInside (clearless_of_busy (List.cons_ne_nil _ _) properInside))
      obtain ⟨after, retains⟩ := nextIh _ busy _ fetchesThen properNext
      refine ⟨after, fun clearless => retainsThen.trans (retains fun moment member => ?_)⟩
      exact clearless moment
        (List.mem_cons_of_mem _ (List.mem_cons_of_mem _ (List.mem_append_right _ member)))
  | clear next ih =>
    obtain rfl : busy = [] := proper _ List.mem_cons_self
    have cleared : region.cache (region.update (·.clear) state) = (region.cache state).clear :=
      beside.cache_withCache _ _
    obtain ⟨after, -⟩ := ih [] (region.update (·.clear) state)
      (cleared ▸ SingleFlight.fetches_clear _) (List.forall_mem_cons.mp proper).2
    refine ⟨after, fun clearless => ?_⟩
    cases clearless _ List.mem_cons_self

/-- A fetch that a caller runs of a key of which nothing is known: the keys that are being fetched when it
begins, when it ends and when the caller goes on, what the caller gets, and what is known then. -/
structure Landing (region : Region σ κ ν) (key : κ) (fetch : Caller κ ν ε) (busy : List κ) (state : σ) :
    Prop where
  unknown : (region.cache state).known key = none
  begins : (region.cache (region.asked 0 key state)).Fetches (key :: busy)
  ends : (region.cache (fetch.run region (region.asked 0 key state)).2).Fetches (key :: busy)
  gives : (computed region key fetch state).1.outcome =
    (fetch.run region (region.asked 0 key state)).1
  known : ∀ other, (region.cache (computed region key fetch state).2).known other =
    if other == key then (fetch.run region (region.asked 0 key state)).1.toOption.map .done
    else (region.cache (fetch.run region (region.asked 0 key state)).2).known other

/-- What holds of callers that are done, and of all others if it holds of what they run and of what they do
then, holds of all callers. -/
theorem induct_run (beside : region.Beside rest) {motive : Caller κ ν ε → List κ → σ → Prop}
    (done : ∀ result busy state, (region.cache state).Fetches busy → motive (.done result) busy state)
    (get : ∀ key next busy state, (region.cache state).Fetches busy →
      motive (next ((region.cache state).outcome? key)) busy state → motive (.get key next) busy state)
    (put : ∀ key outcome next busy state, (region.cache state).Fetches busy →
      region.cache (region.update (·.put key outcome) state) = (region.cache state).put key outcome →
      motive next busy (region.update (·.put key outcome) state) →
      motive (.put key outcome next) busy state)
    (found : ∀ key fetch next busy state outcome, (region.cache state).Fetches busy →
      (region.cache state).known key = some (.done outcome) →
      motive (next (computed region key fetch state).1.outcome) busy
        (computed region key fetch state).2 →
      motive (.compute key fetch next) busy state)
    (fetched : ∀ key fetch next busy state, (region.cache state).Fetches busy →
      Landing region key fetch busy state → motive fetch (key :: busy) (region.asked 0 key state) →
      motive (next (computed region key fetch state).1.outcome) busy
        (computed region key fetch state).2 →
      motive (.compute key fetch next) busy state)
    (clear : ∀ next state, (region.cache state).Fetches [] →
      region.cache (region.update (·.clear) state) = (region.cache state).clear →
      motive next [] (region.update (·.clear) state) → motive (.clear next) [] state)
    (caller : Caller κ ν ε) (busy : List κ) (state : σ) (fetches : (region.cache state).Fetches busy)
    (proper : ∀ moment ∈ caller.moments region busy state, moment.Proper) :
    motive caller busy state := by
  induction caller generalizing busy state with
  | done result => exact done result busy state fetches
  | get key next ih =>
    exact get key next busy state fetches (ih _ busy state fetches (List.forall_mem_cons.mp proper).2)
  | put key outcome next ih =>
    have stored : region.cache (region.update (·.put key outcome) state) =
        (region.cache state).put key outcome := beside.cache_withCache _ _
    exact put key outcome next busy state fetches stored
      (ih busy _ (stored ▸ fetches.put key outcome) (List.forall_mem_cons.mp proper).2)
  | compute key fetch next fetchIh nextIh =>
    have free : key ∉ busy := proper _ List.mem_cons_self
    rcases fetches.settled free with ⟨outcome, known⟩ | unknown
    · rw [moments_compute_known known] at proper
      obtain ⟨-, same, -⟩ := Region.compute_known beside id (fetch.run region) 0 known
      exact found key fetch next busy state outcome fetches known
        (nextIh _ busy _ (fetches.of_known same) (List.forall_mem_cons.mp proper).2)
    · rw [moments_compute_unknown unknown] at proper
      obtain ⟨-, properLater⟩ := List.forall_mem_cons.mp proper
      obtain ⟨-, properBoth⟩ := List.forall_mem_cons.mp properLater
      obtain ⟨properInside, properNext⟩ := List.forall_mem_append.mp properBoth
      have begins := Region.fetches_asked beside unknown fetches
      obtain ⟨ends, retains⟩ := run_keeps beside fetch (key :: busy) _ begins properInside
      obtain ⟨⟨gives, known⟩, fetchesThen, -⟩ := Region.compute_keeps beside free unknown
        (fetch.run region) rfl ends
        (retains (clearless_of_busy (List.cons_ne_nil _ _) properInside))
      exact fetched key fetch next busy state fetches ⟨unknown, begins, ends, gives, known⟩
        (fetchIh (key :: busy) _ begins properInside) (nextIh _ busy _ fetchesThen properNext)
  | clear next ih =>
    obtain rfl : busy = [] := proper _ List.mem_cons_self
    have cleared : region.cache (region.update (·.clear) state) = (region.cache state).clear :=
      beside.cache_withCache _ _
    exact clear next state fetches cleared
      (ih [] _ (cleared ▸ SingleFlight.fetches_clear _) (List.forall_mem_cons.mp proper).2)

end Caller
end MavenResolution
