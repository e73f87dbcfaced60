import MavenResolution.Proofs.Repository.Selectors
import MavenResolution.Proofs.Session.Probing
import MavenResolution.Proofs.Session.Reached

/-! The search order: the normalized repositories that accept the version, each at its first occurrence, and behind
them Maven Central. To declare a repository once more makes no difference. -/
namespace MavenResolution

namespace Repository

variable {repositories forms kept before behind : List Repository} {form earlier : Repository}

/-- What is kept of a list if every repository stays where no repository before it is the same. -/
inductive Firsts : List Repository → List Repository → Prop
  | nil : Firsts [] []
  | first {forms kept : List Repository} {form : Repository} (firsts : Firsts forms kept)
    (new : ∀ earlier ∈ forms, earlier.same form = false) : Firsts (forms ++ [form]) (kept ++ [form])
  | again {forms kept : List Repository} {form earlier : Repository} (firsts : Firsts forms kept)
    (member : earlier ∈ forms) (same : earlier.same form = true) : Firsts (forms ++ [form]) kept

theorem same_iff : earlier.same form = true ↔ earlier.identity = form.identity := beq_iff_eq

theorem distinct_concat (forms : List Repository) (form : Repository) :
    distinct (forms ++ [form]) = add (distinct forms) form := by
  rw [distinct, List.foldl_append]
  rfl

theorem add_of_new (new : ∀ earlier ∈ forms, earlier.same form = false) :
    add (distinct forms) form = distinct forms ++ [form] := by
  rw [add, if_neg]
  rw [List.any_eq_true]
  rintro ⟨earlier, member, same⟩
  rw [new earlier (mem_of_mem_distinct member)] at same
  cases same

theorem add_of_same (member : earlier ∈ forms) (same : earlier.same form = true) :
    add (distinct forms) form = distinct forms := by
  obtain ⟨kept, here, alike⟩ := exists_mem_distinct member
  rw [add, if_pos]
  rw [List.any_eq_true]
  exact ⟨kept, here, same_iff.mpr ((same_iff.mp alike).trans (same_iff.mp same))⟩

theorem firsts_distinct (forms : List Repository) : Firsts forms (distinct forms) := by
  induction forms using List.reverseRecOn with
  | nil => exact .nil
  | append_singleton forms form ih =>
    rw [distinct_concat]
    by_cases new : ∀ earlier ∈ forms, earlier.same form = false
    · rw [add_of_new new]
      exact .first ih new
    · simp only [not_forall, Bool.not_eq_false] at new
      obtain ⟨earlier, member, same⟩ := new
      rw [add_of_same member same]
      exact .again ih member same

theorem Firsts.mem_of_mem (firsts : Firsts forms kept) (member : form ∈ kept) : form ∈ forms := by
  induction firsts with
  | nil => exact member
  | first _ _ ih =>
    rcases List.mem_append.mp member with before | last
    · exact List.mem_append_left _ (ih before)
    · exact List.mem_append_right _ last
  | again _ _ _ ih => exact List.mem_append_left _ (ih member)

theorem Firsts.nodup (firsts : Firsts forms kept) : (kept.map identity).Nodup := by
  induction firsts with
  | nil => exact List.nodup_nil
  | first firsts new ih =>
    rw [List.map_append, List.nodup_append]
    refine ⟨ih, List.pairwise_singleton _ _, fun identity member other last => ?_⟩
    rw [List.map_singleton, List.mem_singleton] at last
    rintro rfl
    obtain ⟨earlier, here, same⟩ := List.mem_map.mp (last ▸ member)
    have apart := new earlier (firsts.mem_of_mem here)
    rw [same_iff.mpr same] at apart
    cases apart
  | again _ _ _ ih => exact ih

/-- A repository that is the same as one before it may be left out. -/
theorem distinct_insert (member : earlier ∈ before) (same : earlier.same form = true)
    (behind : List Repository) : distinct (before ++ form :: behind) = distinct (before ++ behind) := by
  have unchanged := add_of_same member same
  unfold distinct at unchanged ⊢
  rw [List.foldl_append, List.foldl_cons, List.foldl_append]
  exact congrArg (behind.foldl _ ·) unchanged

theorem distinct_append_last (forms : List Repository) (last : Option Repository) :
    distinct (forms ++ last.toList) =
      distinct forms ++ last.toList.filter fun last => !(distinct forms).any (·.same last) := by
  cases last with
  | none => rw [Option.toList_none, List.append_nil, List.filter_nil, List.append_nil]
  | some last =>
    rw [Option.toList_some, distinct_concat, add, List.filter_singleton]
    cases (distinct forms).any (·.same last) with
    | true => exact (List.append_nil _).symm
    | false => rfl

/-- A repository in front of the last one may be left out if the last one is the same, but for what is no part
of its identity. -/
theorem identities_distinct_insert (last : Option Repository) {present : Repository}
    (member : present ∈ distinct (forms ++ last.toList)) (same : present.same form = true) :
    (distinct (forms ++ form :: last.toList)).map identity = (distinct (forms ++ last.toList)).map identity := by
  by_cases new : ∀ earlier ∈ forms, earlier.same form = false
  · rcases List.mem_append.mp (mem_of_mem_distinct member) with before | behind
    · rw [new present before] at same
      cases same
    · obtain rfl := Option.mem_toList.mp behind
      have alike := same_iff.mp same
      have newToo : ∀ earlier ∈ forms, earlier.same present = false := by
        intro earlier here
        rw [← new earlier here, Bool.eq_iff_iff, same_iff, same_iff, alike]
      have backwards : form.same present = true := same_iff.mpr alike.symm
      rw [Option.toList_some, List.append_cons, distinct_concat,
        add_of_same (List.mem_append_right _ (List.mem_singleton_self form)) backwards, distinct_concat,
        add_of_new new, distinct_concat, add_of_new newToo, List.map_append, List.map_append,
        List.map_singleton, List.map_singleton, alike]
  · simp only [not_forall, Bool.not_eq_false] at new
    obtain ⟨earlier, before, alike⟩ := new
    rw [distinct_insert before alike]

end Repository

namespace Session

variable {session : Session} {state other after : State} {repositories before behind : List Repository}
  {containing : Option Pom} {repository form : Repository} {version : Option String}

/-! Calls that learn nothing. -/

/-- Two states in which as much is known of repositories, and as much has been sent. -/
structure Abreast (state other : State) : Prop where
  known : ∀ identity, other.normalized.known identity = state.normalized.known identity
  requests : other.requests = state.requests

/-- What is found out by probing, and what is remembered of it. -/
theorem normalize_learns (unknown : (session.declared repository containing).knownToExist = false)
    (unrecorded : state.normalized.known (session.declared repository containing).identity = none) :
    let declared := session.declared repository containing
    let trials := session.trials declared state.requests
    let found := (trials.find? Trial.answered).map (declared.withUri ·.uri)
    let run := session.normalize repository containing state
    (∀ identity, run.2.normalized.known identity =
      if identity == declared.identity then some (.done found) else state.normalized.known identity) ∧
      run.2.requests = state.requests ++ trials.flatMap (·.exchange.requests) := by
  intro declared trials found run
  have kept : normalizedRegion.cache
      (session.probeOrReport declared (normalizedRegion.asked 0 declared.identity state)).2 =
        normalizedRegion.cache (normalizedRegion.asked 0 declared.identity state) :=
    congrArg Memory.normalized (probeOrReport_memory session declared _)
  obtain ⟨-, learns, sends⟩ := Region.compute_learns normalizedRegion_besideRequests id unrecorded kept
  obtain ⟨answers, sent, -⟩ := session.probeOrReport_tries declared
    (normalizedRegion.asked 0 declared.identity state)
  have same : run = _ := normalize_apply unknown
  rw [same]
  dsimp only at sends ⊢
  refine ⟨fun identity => ?_, sends.trans sent⟩
  refine (learns identity).trans ?_
  rw [answers]
  rfl

theorem Abreast.of_knowsForm (knows : session.KnowsForm state containing repository) :
    Abreast state (session.normalize repository containing state).2 :=
  ⟨knows.normalize.1, knows.normalize.2⟩

theorem Abreast.symm (abreast : Abreast state other) : Abreast other state :=
  ⟨fun identity => (abreast.known identity).symm, abreast.requests.symm⟩

theorem Abreast.trans (first : Abreast state other) (second : Abreast other after) : Abreast state after :=
  ⟨fun identity => (second.known identity).trans (first.known identity), second.requests.trans first.requests⟩

/-- What a repository is normalized to depends on what is known of repositories and on what has been sent, and so does
what is known and sent after it has been asked for. -/
theorem normalize_abreast (session : Session) (repository : Repository) (containing : Option Pom)
    (idle : state.normalized.Idle) (abreast : Abreast state other) :
    (session.normalize repository containing other).1 = (session.normalize repository containing state).1 ∧
      Abreast (session.normalize repository containing state).2
        (session.normalize repository containing other).2 := by
  cases known : (session.declared repository containing).knownToExist with
  | true =>
    rw [normalize_of_known known, normalize_of_known known]
    exact ⟨rfl, abreast⟩
  | false =>
    cases recorded : state.normalized.known (session.declared repository containing).identity with
    | some flight =>
      obtain ⟨found, rfl⟩ := idle _ _ recorded
      have recorded' := (abreast.known _).trans recorded
      have here : session.KnowsForm state containing repository := .inr (Option.isSome_of_eq_some recorded)
      have there : session.KnowsForm other containing repository := .inr (Option.isSome_of_eq_some recorded')
      refine ⟨?_, (Abreast.of_knowsForm here).symm.trans (abreast.trans (.of_knowsForm there))⟩
      obtain ⟨_, gives⟩ := normalize_of_recorded known recorded
      obtain ⟨_, gives'⟩ := normalize_of_recorded known recorded'
      rw [gives, gives']
    | none =>
      have unrecorded' := (abreast.known _).trans recorded
      obtain ⟨gives, -, -⟩ := normalize_of_unrecorded known recorded
      obtain ⟨gives', -, -⟩ := normalize_of_unrecorded known unrecorded'
      obtain ⟨learns, sends⟩ := normalize_learns known recorded
      obtain ⟨learns', sends'⟩ := normalize_learns known unrecorded'
      rw [abreast.requests] at gives' learns' sends'
      refine ⟨gives'.trans gives.symm, fun identity => ?_, sends'.trans sends.symm⟩
      rw [learns, learns', abreast.known]

theorem normalizeAll_abreast (session : Session) (containing : Option Pom) (repositories : List Repository)
    (idle : state.normalized.Idle) (abreast : Abreast state other) :
    (repositories.mapM (session.normalize · containing) other).1 =
        (repositories.mapM (session.normalize · containing) state).1 ∧
      Abreast (repositories.mapM (session.normalize · containing) state).2
        (repositories.mapM (session.normalize · containing) other).2 := by
  induction repositories generalizing state other with
  | nil => exact ⟨rfl, abreast⟩
  | cons repository rest ih =>
    obtain ⟨-, idleNow, -⟩ := normalize_remembers session repository containing idle
    obtain ⟨same, level⟩ := normalize_abreast session repository containing idle abreast
    obtain ⟨others, levelThen⟩ := ih idleNow level
    rw [normalizeAll_cons, normalizeAll_cons]
    exact ⟨List.cons_eq_cons.mpr ⟨same, others⟩, levelThen⟩

theorem normalizeAll_append (session : Session) (containing : Option Pom)
    (front back : List Repository) (state : State) :
    (front ++ back).mapM (session.normalize · containing) state =
      let first := front.mapM (session.normalize · containing) state
      let others := back.mapM (session.normalize · containing) first.2
      (first.1 ++ others.1, others.2) := by
  induction front generalizing state with
  | nil => rfl
  | cons repository rest ih =>
    rw [List.cons_append, normalizeAll_cons, normalizeAll_cons]
    dsimp only
    rw [ih]
    rfl

theorem normalizeAll_one (session : Session) (containing : Option Pom) (repository : Repository) (state : State) :
    [repository].mapM (session.normalize · containing) state =
      ([(session.normalize repository containing state).1], (session.normalize repository containing state).2) := by
  rw [normalizeAll_cons]
  rfl

/-- The normalized repositories that come up in a call are those that the session gives later. -/
theorem normalizeAll_forms (session : Session) (containing : Option Pom) (repositories : List Repository)
    (idle : state.normalized.Idle) (idleAfter : after.normalized.Idle)
    (later : (repositories.mapM (session.normalize · containing) state).2.normalized.Extends after.normalized) :
    (repositories.mapM (session.normalize · containing) state).1 =
      repositories.map fun repository => (session.normalize repository containing after).1 := by
  induction repositories generalizing state with
  | nil => rfl
  | cons repository rest ih =>
    obtain ⟨remembers, idleNow, -⟩ := normalize_remembers session repository containing idle
    obtain ⟨-, extendsThen, -⟩ := normalizeAll_again session containing rest idleNow
    rw [normalizeAll_cons] at later ⊢
    have here := (remembers.later (extendsThen.trans later)).normalize idleAfter
    exact List.cons_eq_cons.mpr ⟨here.symm, ih idleNow later⟩

/-! Maven Central, at a URL. -/

theorem central_known (session : Session) (containing : Option Pom) :
    (session.declared session.configuration.central containing).knownToExist = true := by
  have mirrored (repository : Repository) :
      (session.applyMirrors repository).knownToExist = repository.knownToExist := by
    unfold applyMirrors
    rcases Mirror.apply_cases session.mirrors repository with ⟨-, same⟩ | ⟨_, mirror, _, -, -, -, same⟩
    · rw [same]
    · rw [same, Mirror.replace]
  have expanded (repository : Repository) :
      (repository.expand containing).knownToExist = repository.knownToExist := by
    cases containing with
    | none => rfl
    | some pom =>
      dsimp only [Repository.expand]
      split <;> rfl
  unfold declared applyCredentials
  rw [expanded, Repository.knownToExist_apply, mirrored]
  rfl

/-- Maven Central as normalized, if the session includes it: it is not probed. -/
def lastForm (session : Session) (containing : Option Pom) : Option Repository :=
  if session.includesCentral then some (session.declared session.configuration.central containing) else none

/-- The normalized repositories that were found and may publish a version, if one is given. -/
def publishing (version : Option String) (forms : List (Option Repository)) : List Repository :=
  (forms.filterMap id).filter fun form => version.all form.accepts

theorem publishing_append (version : Option String) (front back : List (Option Repository)) :
    publishing version (front ++ back) = publishing version front ++ publishing version back := by
  rw [publishing, List.filterMap_append, List.filter_append]
  rfl

/-- A search learns no more than the normalized repositories, and gives the distinct ones. -/
theorem searched_distinct (session : Session) (repositories : List Repository) (containing : Option Pom)
    (version : Option String) (state : State) :
    let forms := repositories.mapM (session.normalize · containing) state
    session.searched repositories containing version state =
      (Repository.distinct (publishing version forms.1 ++ (session.lastForm containing).toList), forms.2) := by
  have accepting (repository : Repository) :
      (version.map repository.accepts).getD true = version.all repository.accepts := by
    cases version <;> rfl
  rw [searched_apply]
  simp only [accepting, lastForm]
  cases session.includesCentral with
  | false => rfl
  | true =>
    rw [if_pos rfl, if_pos rfl, normalize_of_known (session.central_known containing)]
    rfl

/-! Declaring a repository once more. -/

theorem normalizeAll_knows (session : Session) (containing : Option Pom) {repositories : List Repository}
    (idle : state.normalized.Idle) (member : repository ∈ repositories) :
    session.KnowsForm (repositories.mapM (session.normalize · containing) state).2 containing repository := by
  induction repositories generalizing state with
  | nil => cases member
  | cons first rest ih =>
    obtain ⟨remembers, idleNow, -⟩ := normalize_remembers session first containing idle
    rw [normalizeAll_cons]
    rcases List.mem_cons.mp member with rfl | later
    · obtain ⟨-, extendsThen, -⟩ := normalizeAll_again session containing rest idleNow
      have kept := remembers.later extendsThen
      unfold Remembers at kept
      dsimp only at kept
      split at kept
      · rename_i known
        exact .inl known
      · obtain ⟨found, recorded, -⟩ := kept
        exact .inr (Option.isSome_of_eq_some recorded)
    · exact ih idleNow later

/-- A repository that was declared before may be left out. -/
theorem searched_repeated (session : Session) (containing : Option Pom) (version : Option String)
    (idle : state.normalized.Idle) {front : List Repository} (member : repository ∈ front)
    (back : List Repository) :
    (session.searched (front ++ repository :: back) containing version state).1 =
      (session.searched (front ++ back) containing version state).1 := by
  obtain ⟨idleThen, -, -⟩ := normalizeAll_again session containing front idle
  have known := normalizeAll_knows session containing idle member
  have forms := normalizeAll_forms session containing front idle idleThen (.refl _)
  rw [searched_distinct, searched_distinct, normalizeAll_append, normalizeAll_append]
  generalize front.mapM (session.normalize · containing) state = first at idleThen known forms ⊢
  obtain ⟨others, -⟩ := normalizeAll_abreast session containing back idleThen (.of_knowsForm known)
  dsimp only
  rw [normalizeAll_cons]
  dsimp only
  rw [others]
  have given : (session.normalize repository containing first.2).1 ∈ first.1 := by
    rw [forms]
    exact List.mem_map_of_mem member
  generalize (session.normalize repository containing first.2).1 = form at given ⊢
  rw [publishing_append, publishing_append, List.append_assoc, List.append_assoc]
  rw [← List.singleton_append, publishing_append]
  by_cases added : ∃ form' ∈ form, version.all form'.accepts = true
  · obtain ⟨form', rfl, accepts⟩ := added
    have before : form' ∈ publishing version first.1 :=
      List.mem_filter.mpr ⟨List.mem_filterMap.mpr ⟨_, given, rfl⟩, accepts⟩
    have alone : publishing version [some form'] = [form'] := by simp [publishing, accepts]
    rw [alone, List.append_assoc, List.singleton_append]
    exact Repository.distinct_insert before (beq_self_eq_true _) _
  · have none : publishing version [form] = [] := by
      cases form with
      | none => rfl
      | some form' => simpa [publishing] using added
    rw [none, List.nil_append]

/-- A repository that is normalized already adds none to those that a search finds. -/
theorem searched_added (session : Session) (repositories : List Repository) (containing : Option Pom)
    (version : Option String) (state : State) {kept : Repository}
    (given : (session.normalize repository containing
      (session.searched repositories containing version state).2).1 = some form)
    (member : kept ∈ (session.searched repositories containing version state).1)
    (same : kept.same form = true) :
    (session.searched (repositories ++ [repository]) containing version state).1.map Repository.identity =
      (session.searched repositories containing version state).1.map Repository.identity := by
  rw [searched_distinct] at given member
  rw [searched_distinct, searched_distinct, normalizeAll_append]
  dsimp only at given member ⊢
  rw [normalizeAll_one, given, publishing_append]
  cases accepts : version.all form.accepts with
  | true =>
    have alone : publishing version [some form] = [form] := by simp [publishing, accepts]
    rw [alone, List.append_assoc]
    exact Repository.identities_distinct_insert _ member same
  | false =>
    have none : publishing version [some form] = [] := by simp [publishing, accepts]
    rw [none, List.append_nil]

/-- A search asks the normalized repositories that accept the version, each at its first occurrence, and behind them
Maven Central if none of them is equal to it. It does not matter how often a repository is declared. -/
theorem searched_in_order (session : Session) (own : List (Path × Pom)) (files : Files)
    (operations : List Operation) (repositories : List Repository) (containing : Option Pom)
    (version : Option String) :
    let state := session.reached { fresh own with files } operations
    let search repositories := session.searched repositories containing version state
    let run := search repositories
    let form repository := (session.normalize repository containing run.2).1
    let accepted := (repositories.filterMap form).filter fun form => version.all form.accepts
    let central := if session.includesCentral then form session.configuration.central else none
    (run.1.map Repository.identity).Nodup ∧
    (∃ kept, Repository.Firsts accepted kept ∧
      run.1 = kept ++ central.toList.filter fun central => !kept.any (·.same central)) ∧
    (∀ before repository behind, repositories = before ++ repository :: behind →
      (session.normalize repository containing
        (before.mapM (session.normalize · containing) state).2).1 = form repository) ∧
    (∀ front back repository, repositories = front ++ back → repository ∈ front →
      (search (front ++ repository :: back)).1 = run.1) ∧
    ∀ repository added, form repository = some added → (∃ kept ∈ run.1, kept.same added = true) →
      (search (repositories ++ [repository])).1.map Repository.identity = run.1.map Repository.identity := by
  intro state search run form accepted central
  have idle : state.normalized.Idle := ((session.orderly_fresh own files).reached operations).normalized
  obtain ⟨idleThen, -, -⟩ := normalizeAll_again session containing repositories idle
  have finds : run = _ := session.searched_distinct repositories containing version state
  have forms := normalizeAll_forms session containing repositories idle idleThen (.refl _)
  have reaches : run.2 = (repositories.mapM (session.normalize · containing) state).2 := congrArg Prod.snd finds
  have last : session.lastForm containing = central := by
    unfold lastForm central form
    rw [normalize_of_known (session.central_known containing)]
  have gives : run.1 = Repository.distinct (accepted ++ central.toList) := by
    rw [finds, ← last]
    dsimp only
    rw [forms, ← reaches, publishing, List.filterMap_map]
    rfl
  refine ⟨?_, ⟨Repository.distinct accepted, Repository.firsts_distinct accepted, ?_⟩, ?_, ?_, ?_⟩
  · rw [gives]
    exact (Repository.firsts_distinct _).nodup
  · rw [gives, Repository.distinct_append_last]
  · rintro before repository behind rfl
    obtain ⟨idleNow, -, -⟩ := normalizeAll_again session containing before idle
    obtain ⟨remembers, idleNext, -⟩ := normalize_remembers session repository containing idleNow
    obtain ⟨-, extendsThen, -⟩ := normalizeAll_again session containing behind idleNext
    have ends : run.2 = (behind.mapM (session.normalize · containing) (session.normalize repository containing
        (before.mapM (session.normalize · containing) state).2).2).2 := by
      rw [reaches, normalizeAll_append]
      dsimp only
      rw [normalizeAll_cons]
    rw [← ends] at extendsThen
    exact ((remembers.later extendsThen).normalize (reaches ▸ idleThen)).symm
  · rintro front back repository rfl member
    exact session.searched_repeated containing version idle member back
  · rintro repository added given ⟨kept, member, same⟩
    exact session.searched_added repositories containing version state given member same

/-- One repository, declared with its http URL and with the https URL at which it answers. -/
theorem searched_in_order_secured :
    let session : Session :=
      { transport := Http.Transport.ofConfiguration {}, includesCentral := false
        server := fun _ _ => .ok { status := 200 } }
    let plain : Repository := { id := some "a", uri := "http://a.example" }
    let secure := plain.withUri "https://a.example"
    let state := session.reached { fresh [] with files := {} } []
    let run := session.searched [plain] none (some "1.0") state
    run.1 = [secure] ∧ (session.normalize secure none run.2).1 = some secure ∧
      (session.searched [plain, secure] none (some "1.0") state).1.map Repository.identity =
        run.1.map Repository.identity ∧
      (session.searched [plain, plain] none (some "1.0") state).1 = run.1 := by
  intro session plain secure state run
  obtain ⟨-, -, -, repeated, added⟩ := session.searched_in_order [] {} [] [plain] none (some "1.0")
  have finds : run.1 = [secure] := by decide +kernel
  have form : (session.normalize secure none run.2).1 = some secure := by decide +kernel
  refine ⟨finds, form, added secure secure form ⟨secure, ?_, by decide⟩, ?_⟩
  · exact finds ▸ List.mem_singleton_self secure
  · exact repeated [plain] [] plain rfl (List.mem_singleton_self plain)

end Session
end MavenResolution
