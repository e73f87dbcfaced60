import MavenResolution.Proofs.Http.Answers
import MavenResolution.Proofs.Session.Alike

/-! Computations that run side by side: from alike states they give alike results and reach alike states, as
long as their requests are answered alike. -/
namespace MavenResolution

namespace Session

/-- The computations run side by side. That the requests so far remain tells what was answered alike on the
way from what has been answered alike at the end. -/
structure Parallel (change : UserChange) (session session' : Session) (relates : α → β → Prop)
    (m : StateM State α) (m' : StateM State β) : Prop where
  continues : Keeps Continues m
  continues' : Keeps Continues m'
  alike : ∀ state state', state.Alike change state' →
    Http.AnsweredAlike session.server session'.server (m state).2.requests (m' state').2.requests →
      relates (m state).1 (m' state').1 ∧ (m state).2.Alike change (m' state').2

namespace Parallel

variable {change : UserChange} {session session' : Session}

theorem mono {relates wider : α → β → Prop} {m : StateM State α} {m' : StateM State β}
    (parallel : Parallel change session session' relates m m')
    (included : ∀ a b, relates a b → wider a b) :
    Parallel change session session' wider m m' where
  continues := parallel.continues
  continues' := parallel.continues'
  alike state state' alike answered := by
    obtain ⟨related, alikeNow⟩ := parallel.alike state state' alike answered
    exact ⟨included _ _ related, alikeNow⟩

theorem pure {relates : α → β → Prop} {a : α} {b : β} (related : relates a b) :
    Parallel change session session' relates (Pure.pure a) (Pure.pure b) where
  continues := (composes_sent _).pure a
  continues' := (composes_sent _).pure b
  alike _ _ alike _ := ⟨related, alike⟩

theorem bind {relates : α → β → Prop} {relates' : γ → δ → Prop} {m : StateM State α}
    {m' : StateM State β} {f : α → StateM State γ} {g : β → StateM State δ}
    (first : Parallel change session session' relates m m') (continues : ∀ a, Keeps Continues (f a))
    (continues' : ∀ b, Keeps Continues (g b))
    (next : ∀ a b, relates a b → Parallel change session session' relates' (f a) (g b)) :
    Parallel change session session' relates' (m >>= f) (m' >>= g) where
  continues := (composes_sent _).bind first.continues continues
  continues' := (composes_sent _).bind first.continues' continues'
  alike state state' alike answered := by
    -- All of the first parts' requests are among those of the whole, whatever the results lead on to.
    obtain ⟨related, alikeNow⟩ := first.alike state state' alike
      (answered.mono (continues _ _).isPrefix (continues' _ _).isPrefix)
    exact (next _ _ related).alike _ _ alikeNow answered

/-- What goes on in the same way from the same result goes on, whatever the result. -/
theorem bind_same {relates : γ → δ → Prop} {m m' : StateM State α} {f : α → StateM State γ}
    {g : α → StateM State δ} (first : Parallel change session session' Eq m m')
    (next : ∀ a, Parallel change session session' relates (f a) (g a)) :
    Parallel change session session' relates (m >>= f) (m' >>= g) :=
  first.bind (fun a => (next a).continues) (fun a => (next a).continues')
    (by rintro a _ rfl; exact next a)

theorem map {relates : γ → δ → Prop} {m : StateM State α} {m' : StateM State β} {f : α → γ} {g : β → δ}
    (parallel : Parallel change session session' (fun a b => relates (f a) (g b)) m m') :
    Parallel change session session' relates (f <$> m) (g <$> m') where
  continues := parallel.continues
  continues' := parallel.continues'
  alike := parallel.alike

theorem run_bind {errors : ε → ε' → Prop} {values : α → β → Prop} {values' : γ → δ → Prop}
    {m : ExceptT ε (StateM State) α} {m' : ExceptT ε' (StateM State) β}
    {f : α → ExceptT ε (StateM State) γ} {g : β → ExceptT ε' (StateM State) δ}
    (first : Parallel change session session' (ExceptRel errors values) m.run m'.run)
    (continues : ∀ a, Keeps Continues (f a).run) (continues' : ∀ b, Keeps Continues (g b).run)
    (next : ∀ a b, values a b →
      Parallel change session session' (ExceptRel errors values') (f a).run (g b).run) :
    Parallel change session session' (ExceptRel errors values') (m >>= f).run (m' >>= g).run := by
  change Parallel change session session' _ (m.run >>= ExceptT.bindCont f)
    (m'.run >>= ExceptT.bindCont g)
  refine first.bind (fun result => ?_) (fun result => ?_) fun result result' related => ?_
  · cases result with
    | ok a => exact continues a
    | error fault => exact (composes_sent _).pure _
  · cases result with
    | ok b => exact continues' b
    | error fault => exact (composes_sent _).pure _
  · cases related with
    | ok related => exact next _ _ related
    | error related => exact pure (.error related)

theorem run_bind_same {errors : ε → ε' → Prop} {values : γ → δ → Prop}
    {m : ExceptT ε (StateM State) α} {m' : ExceptT ε' (StateM State) α}
    {f : α → ExceptT ε (StateM State) γ} {g : α → ExceptT ε' (StateM State) δ}
    (first : Parallel change session session' (ExceptRel errors Eq) m.run m'.run)
    (next : ∀ a, Parallel change session session' (ExceptRel errors values) (f a).run (g a).run) :
    Parallel change session session' (ExceptRel errors values) (m >>= f).run (m' >>= g).run :=
  first.run_bind (fun a => (next a).continues) (fun a => (next a).continues')
    (by rintro a _ rfl; exact next a)

theorem run_lift {errors : ε → ε' → Prop} {values : α → β → Prop} {m : StateM State α}
    {m' : StateM State β} (parallel : Parallel change session session' values m m') :
    Parallel change session session' (ExceptRel errors values)
      (liftM m : ExceptT ε (StateM State) α).run (liftM m' : ExceptT ε' (StateM State) β).run where
  continues := parallel.continues
  continues' := parallel.continues'
  alike state state' alike answered := by
    obtain ⟨related, alikeNow⟩ := parallel.alike state state' alike answered
    exact ⟨.ok related, alikeNow⟩

/-! Synchronised loops. -/

theorem mapM {relates : α → β → Prop} {relates' : γ → δ → Prop} {f : α → StateM State γ}
    {g : β → StateM State δ}
    (each : ∀ a b, relates a b → Parallel change session session' relates' (f a) (g b))
    {list : List α} {list' : List β} (alike : List.Forall₂ relates list list') :
    Parallel change session session' (List.Forall₂ relates') (list.mapM f) (list'.mapM g) := by
  induction alike with
  | nil => exact pure .nil
  | cons first _ ih =>
    have composes := composes_sent fun _ => True
    rw [List.mapM_cons, List.mapM_cons]
    refine (each _ _ first).bind (fun c => ?_) (fun d => ?_) fun c d related => ?_
    · exact composes.bind ih.continues fun _ => composes.pure _
    · exact composes.bind ih.continues' fun _ => composes.pure _
    · refine ih.bind (fun _ => composes.pure _) (fun _ => composes.pure _) fun others others' rest => ?_
      exact pure (.cons related rest)

theorem run_mapM {errors : ε → ε' → Prop} {relates : α → β → Prop} {values : γ → δ → Prop}
    {f : α → ExceptT ε (StateM State) γ} {g : β → ExceptT ε' (StateM State) δ}
    (each : ∀ a b, relates a b →
      Parallel change session session' (ExceptRel errors values) (f a).run (g b).run)
    {list : List α} {list' : List β} (alike : List.Forall₂ relates list list') :
    Parallel change session session' (ExceptRel errors (List.Forall₂ values)) (list.mapM f).run
      (list'.mapM g).run := by
  induction alike with
  | nil => exact pure (.ok .nil)
  | cons first _ ih =>
    have composes := composes_sent fun _ => True
    rw [List.mapM_cons, List.mapM_cons]
    refine (each _ _ first).run_bind (fun c => ?_) (fun d => ?_) fun c d related => ?_
    · exact composes.run_bind ih.continues fun _ => composes.pure _
    · exact composes.run_bind ih.continues' fun _ => composes.pure _
    · refine ih.run_bind (fun _ => composes.pure _) (fun _ => composes.pure _)
        fun others others' rest => ?_
      exact pure (.ok (.cons related rest))

end Parallel

variable {change : UserChange} {session session' : Session}

/-! Single acts. -/

/-- What changes no requests, and leaves alike states alike. -/
theorem parallel_modify {f g : State → State} (kept : ∀ state, (f state).requests = state.requests)
    (kept' : ∀ state, (g state).requests = state.requests)
    (alike : ∀ state state', state.Alike change state' → (f state).Alike change (g state')) :
    Parallel change session session' Eq (modify f : StateM State PUnit) (modify g) where
  continues state := .of_same (kept state)
  continues' state := .of_same (kept' state)
  alike state state' alikeBefore _ := ⟨rfl, alike state state' alikeBefore⟩

theorem parallel_note {entry entry' : Log.Entry} (alike : entry.Alike change entry') :
    Parallel change session session' Eq (note entry) (note entry') :=
  parallel_modify (fun _ => rfl) (fun _ => rfl) fun _ _ states =>
    { states with log := List.rel_append states.log (.cons alike .nil) }

theorem parallel_noteAll (entries : List Log.Entry) :
    Parallel change session session' Eq (noteAll entries) (noteAll entries) := by
  have same : List.Forall₂ (Log.Entry.Alike change) entries entries :=
    List.forall₂_same.mpr fun entry _ => .same entry
  exact parallel_modify (fun _ => rfl) (fun _ => rfl) fun _ _ states =>
    { states with log := List.rel_append states.log same }

theorem parallel_setFiles (files : Files) :
    Parallel change session session' Eq (setFiles files) (setFiles files) :=
  parallel_modify (fun _ => rfl) (fun _ => rfl) fun _ _ states => { states with files := rfl }

theorem parallel_closeResponse : Parallel change session session' Eq closeResponse closeResponse :=
  parallel_modify (fun _ => rfl) (fun _ => rfl) fun _ _ states => { states with }

theorem parallel_get :
    Parallel change session session' (State.Alike change) (get : StateM State State) get where
  continues _ := .of_same rfl
  continues' _ := .of_same rfl
  alike _ _ alike _ := ⟨alike, alike⟩

/-- What depends on the files alone. -/
theorem parallel_files {relates : α → β → Prop} {f : State → StateM State α} {g : State → StateM State β}
    (same : ∀ state state', state.files = state'.files → g state = g state')
    (next : ∀ state, Parallel change session session' relates (f state) (g state)) :
    Parallel change session session' relates (get >>= f) (get >>= g) where
  continues state := (next state).continues state
  continues' state := (next state).continues' state
  alike state state' alike answered := by
    change Http.AnsweredAlike _ _ (f state state).2.requests (g state' state').2.requests at answered
    change relates (f state state).1 (g state' state').1 ∧
      (f state state).2.Alike change (g state' state').2
    rw [← same state state' alike.files] at answered ⊢
    exact (next state).alike state state' alike answered

theorem parallel_report (sessions : session.Alike change session') {failure failure' : Failure}
    (failures : failure.Alike change failure') :
    Parallel change session session' Eq (session.report failure) (session'.report failure') := by
  unfold report
  rw [← sessions.reporting]
  cases session.reporting with
  | toLog =>
    have entries := Log.Entry.Alike.of_failures .session "" failures
    rw [String.empty_append, String.empty_append] at entries
    exact parallel_note entries
  | collected => exact parallel_modify (fun _ => rfl) (fun _ => rfl) fun _ _ states => { states with }

/-- Requests of which the log says the same are sent side by side. -/
theorem parallel_send (sessions : session.Alike change session') (context : String)
    {request request' : Http.Request} (shown : request.ShownAlike request') :
    Parallel change session session' Eq (session.send context request)
      (session'.send context request') where
  continues state := session.frame_continues.sent context request state
  continues' state := session'.frame_continues.sent context request' state
  alike state state' states answered := by
    have exchanges : (session.transport.send session.server state.requests (some context) request).Alike
        (session'.transport.send session'.server state'.requests (some context) request') := by
      change Http.AnsweredAlike _ _
        (state.requests ++ (session.transport.send session.server state.requests (some context)
          request).requests)
        (state'.requests ++ (session'.transport.send session'.server state'.requests (some context)
          request').requests) at answered
      rw [← sessions.transport] at answered ⊢
      exact Http.Transport.send_alike (some context) session.transport shown states.requests answered
    refine ⟨exchanges.outcome, { states with requests := ?_, log := ?_ }⟩
    · change (state.requests ++ _).length = (state'.requests ++ _).length
      rw [List.length_append, List.length_append, states.requests, exchanges.requests]
    · refine List.rel_append states.log ?_
      rw [← exchanges.log]
      exact List.forall₂_same.mpr fun entry _ => .same entry

/-! Caches. -/

/-- The region holds a cache that is alike in alike states. -/
structure RegionAlike (change : UserChange) (region : Region State κ ν) (keys : κ → κ → Prop)
    (values : ν → ν → Prop) : Prop where
  oneToOne : OneToOne keys
  beside : region.Beside State.requests
  cache : ∀ {state state'}, State.Alike change state state' →
    (region.cache state).Alike keys values (region.cache state')
  withCache : ∀ {state state' cache cache'}, State.Alike change state state' →
    SingleFlight.Alike keys values cache cache' →
      State.Alike change (region.withCache cache state) (region.withCache cache' state')
  withEntry : ∀ {state state'} entry, State.Alike change state state' →
    State.Alike change (region.withEntry entry state) (region.withEntry entry state')

theorem normalizedRegion_alike (change : UserChange) :
    RegionAlike change normalizedRegion (Repository.Identity.Alike change) (Repository.Alike change) where
  oneToOne := Repository.Identity.oneToOne change
  beside := normalizedRegion_besideRequests
  cache states := states.normalized
  withCache states caches := { states with normalized := caches }
  withEntry entry states := { states with log := List.rel_append states.log (.cons (.same entry) .nil) }

theorem metadataRegion_alike (change : UserChange) :
    RegionAlike change metadataRegion (PairRel change.relates Eq) Eq where
  oneToOne := change.oneToOne.pair .eq
  beside := metadataRegion_besideRequests
  cache states := states.metadata
  withCache states caches := { states with metadata := caches }
  withEntry entry states := { states with log := List.rel_append states.log (.cons (.same entry) .nil) }

theorem pomRegion_alike (change : UserChange) :
    RegionAlike change pomRegion (ResolvedCoordinate.Alike change) (Pom.Alike change) where
  oneToOne := ResolvedCoordinate.oneToOne change
  beside := pomRegion_besideRequests
  cache states := states.poms
  withCache states caches := { states with poms := caches }
  withEntry entry states := { states with log := List.rel_append states.log (.cons (.same entry) .nil) }

theorem jarRegion_alike (change : UserChange) : RegionAlike change jarRegion Eq Eq where
  oneToOne := .eq
  beside := jarRegion_besideRequests
  cache states := states.jars
  withCache states caches := { states with jars := caches }
  withEntry entry states := { states with log := List.rel_append states.log (.cons (.same entry) .nil) }

/-- What callers get is alike: an outcome, or what their fetches give. -/
inductive ComputedRel (values : ν → ν → Prop) (results : Except ε α → Except ε α → Prop) :
    Computed ε α ν → Computed ε α ν → Prop
  | known {outcome outcome' : Option ν} (related : Option.Rel values outcome outcome') :
      ComputedRel values results (.known outcome) (.known outcome')
  | fetched {result result' : Except ε α} (related : results result result') :
      ComputedRel values results (.fetched result) (.fetched result')

theorem ComputedRel.outcome {values : ν → ν → Prop} {errors : ε → ε → Prop}
    {computed computed' : Computed ε (Option ν) ν}
    (related : ComputedRel values (ExceptRel errors (Option.Rel values)) computed computed') :
    ExceptRel errors (Option.Rel values) computed.outcome computed'.outcome := by
  cases related with
  | known outcomes => exact .ok outcomes
  | fetched results => exact results

theorem parallel_compute {κ ν ε α : Type} [BEq κ] [LawfulBEq κ] {region : Region State κ ν}
    {keys : κ → κ → Prop} {values : ν → ν → Prop} {errors : ε → ε → Prop} {founds : α → α → Prop}
    (regions : RegionAlike change region keys values) {key key' : κ} (asked : keys key key')
    {outcome : α → Option ν}
    (outcomes : ∀ found found', founds found found' → Option.Rel values (outcome found) (outcome found'))
    {fetch fetch' : StateM State (Except ε α)}
    (fetching : Parallel change session session' (ExceptRel errors founds) fetch fetch') :
    Parallel change session session' (ComputedRel values (ExceptRel errors founds))
      (region.compute key outcome fetch) (region.compute key' outcome fetch') where
  continues := (composes_sent _).compute
    (fun cache state => .of_same (regions.beside.rest_withCache cache state))
    (fun state => .of_same (regions.beside.rest_withEntry _ state)) fetching.continues key outcome 0
  continues' := (composes_sent _).compute
    (fun cache state => .of_same (regions.beside.rest_withCache cache state))
    (fun state => .of_same (regions.beside.rest_withEntry _ state)) fetching.continues' key' outcome 0
  alike state state' states answered := by
    obtain ⟨claims, caches⟩ := (regions.cache states).claim regions.oneToOne asked
    have unchanged := regions.withCache states (caches.join 0)
    have started := regions.withEntry region.miss unchanged
    rw [Region.compute_apply, Region.compute_apply] at answered ⊢
    simp only [Region.asked] at answered ⊢
    generalize (region.cache state).claim key = claimed at *
    generalize (region.cache state').claim key' = claimed' at *
    obtain ⟨claim, cache⟩ := claimed
    obtain ⟨claim', cache'⟩ := claimed'
    -- Alike caches know the key alike, so that both runs fetch or neither does.
    cases claims with
    | known found => exact ⟨.known found, unchanged⟩
    | waiting ticket => exact ⟨.known .none, unchanged⟩
    | fetching ticket =>
      have fetched := fetching.alike _ _ started
      dsimp only at answered fetched ⊢
      generalize fetch (region.withEntry region.miss (region.withCache (cache.join 0) state)) = run at *
      generalize fetch' (region.withEntry region.miss (region.withCache (cache'.join 0) state')) = run' at *
      obtain ⟨result, after⟩ := run
      obtain ⟨result', after'⟩ := run'
      have reached : Http.AnsweredAlike session.server session'.server after.requests after'.requests := by
        cases result <;> cases result' <;>
          simpa only [Region.update, regions.beside.rest_withCache] using answered
      obtain ⟨related, alikeNow⟩ := fetched reached
      have cachesNow := regions.cache alikeNow
      cases related with
      | ok found =>
        have settled := cachesNow.settle regions.oneToOne asked ticket (outcomes _ _ found)
        exact ⟨.fetched (.ok found), regions.withCache alikeNow settled⟩
      | error faults =>
        have dropped := cachesNow.drop regions.oneToOne asked
        exact ⟨.fetched (.error faults), regions.withCache alikeNow dropped⟩

/-- What is the same in both runs is the same when it is cached. -/
theorem parallel_outcome {κ ν ε : Type} [BEq κ] [LawfulBEq κ] {region : Region State κ ν}
    {keys : κ → κ → Prop} {errors : ε → ε → Prop} (regions : RegionAlike change region keys Eq)
    {key key' : κ} (asked : keys key key') {fetch fetch' : StateM State (Except ε (Option ν))}
    (fetching : Parallel change session session' (ExceptRel errors Eq) fetch fetch') :
    Parallel change session session' (ExceptRel errors Eq)
      (Computed.outcome <$> region.compute key id fetch)
      (Computed.outcome <$> region.compute key' id fetch') := by
  have outcomes (found found' : Option ν) (same : found = found') : Option.Rel Eq (id found) (id found') :=
    option_rel_eq_iff.mpr same
  refine Parallel.map ((parallel_compute regions asked outcomes fetching).mono ?_)
  intro computed computed' related
  cases related with
  | known same => exact .ok (option_rel_eq_iff.mp same)
  | fetched results => exact results

end Session
end MavenResolution
