import MavenResolution.Proofs.Session.Independence
import MavenResolution.Proofs.Session.Remembered

/-! Whose credentials a repository gets. A session without credentials of its own for a repository
hands on those of the first repository with the same identity that it probed. -/
namespace MavenResolution

theorem Repository.mem_of_mem_distinct {repositories : List Repository} {repository : Repository}
    (member : repository ∈ distinct repositories) : repository ∈ repositories := by
  have kept (rest kept : List Repository) (member : repository ∈ rest.foldl (fun distinct repository =>
      if distinct.any (·.same repository) then distinct else distinct ++ [repository]) kept) :
      repository ∈ kept ∨ repository ∈ rest := by
    induction rest generalizing kept with
    | nil => exact .inl member
    | cons first rest ih =>
      rcases ih _ member with before | later
      · dsimp only at before
        split at before
        · exact .inl before
        · rcases List.mem_append.mp before with before | here
          · exact .inl before
          · exact .inr (List.mem_cons.mpr (.inl (List.mem_singleton.mp here)))
      · exact .inr (List.mem_cons_of_mem _ later)
  rcases kept repositories [] member with before | listed
  · cases before
  · exact listed

namespace Session

variable {session : Session} {state : State} {earlier : List (Repository × Option Pom)}
  {repository first found : Repository} {containing : Option Pom} {own : List (Path × Pom)}

/-- The state of a session in which some repositories have been normalized, each within a POM. -/
def afterNormalizing (session : Session) (own : List (Path × Pom))
    (earlier : List (Repository × Option Pom)) : State :=
  earlier.foldl (fun state call => (session.normalize call.1 call.2 state).2) (fresh own)

/-- The first of some repositories that is probed on behalf of an identity, as it is declared. -/
def probedAmong (session : Session) (earlier : List (Repository × Option Pom))
    (identity : Repository.Identity) : Option Repository :=
  (earlier.map fun call => session.declared call.1 call.2).find? fun declared =>
    !declared.knownToExist && identity == declared.identity

theorem probedAmong_concat (session : Session) (earlier : List (Repository × Option Pom))
    (repository : Repository) (containing : Option Pom) (identity : Repository.Identity) :
    let declared := session.declared repository containing
    session.probedAmong (earlier ++ [(repository, containing)]) identity =
      (session.probedAmong earlier identity).or
        (if !declared.knownToExist && identity == declared.identity then some declared
          else none) := by
  intro declared
  unfold probedAmong
  rw [List.map_append, List.find?_append, List.map_singleton, List.find?_singleton]

/-- What is recorded of an identity comes from the first repository that was probed for it. -/
structure Recalls (session : Session) (earlier : List (Repository × Option Pom)) (state : State) :
    Prop where
  unprobed : ∀ identity, session.probedAmong earlier identity = none →
    state.normalized.known identity = none
  probed : ∀ identity first, session.probedAmong earlier identity = some first →
    ∃ found, state.normalized.known identity = some (.done found) ∧
      ∀ form ∈ found, ProbedAs first form

theorem Recalls.idle (recalls : session.Recalls earlier state) : state.normalized.Idle := by
  intro identity flight recorded
  cases probed : session.probedAmong earlier identity with
  | none => cases (recalls.unprobed identity probed).symm.trans recorded
  | some first =>
    obtain ⟨found, done, -⟩ := recalls.probed identity first probed
    exact ⟨found, Option.some.inj (recorded.symm.trans done)⟩

theorem recalls_fresh (session : Session) (own : List (Path × Pom)) :
    session.Recalls [] (fresh own) where
  unprobed _ _ := rfl
  probed _ _ probed := nomatch probed

/-- Normalizing one more repository. -/
theorem Recalls.normalize (recalls : session.Recalls earlier state) (repository : Repository)
    (containing : Option Pom) : session.Recalls (earlier ++ [(repository, containing)])
      (session.normalize repository containing state).2 := by
  cases known : (session.declared repository containing).knownToExist with
  | true =>
    have same (identity : Repository.Identity) :
        session.probedAmong (earlier ++ [(repository, containing)]) identity =
          session.probedAmong earlier identity := by
      rw [probedAmong_concat]
      simp [known]
    rw [normalize_of_known known]
    constructor
    · intro identity unprobed
      exact recalls.unprobed identity ((same identity).symm.trans unprobed)
    · intro identity first probed
      exact recalls.probed identity first ((same identity).symm.trans probed)
  | false =>
    obtain ⟨found, -, learned, origin⟩ := normalize_of_unknown known recalls.idle
    obtain ⟨-, -, extended⟩ := normalize_remembers session repository containing recalls.idle
    have next (identity : Repository.Identity) := probedAmong_concat session earlier repository
      containing identity
    simp only [known, Bool.not_false, Bool.true_and] at next
    constructor
    · intro identity unprobed
      obtain ⟨before, other⟩ := Option.or_eq_none_iff.mp ((next identity).symm.trans unprobed)
      rw [learned]
      split
      · rename_i same
        rw [if_pos same] at other
        cases other
      · exact recalls.unprobed identity before
    · intro identity first probed
      rw [next] at probed
      cases before : session.probedAmong earlier identity with
      | some earliest =>
        rw [before] at probed
        obtain rfl : earliest = first := Option.some.inj probed
        obtain ⟨recorded, done, asFirst⟩ := recalls.probed identity earliest before
        exact ⟨recorded, extended _ _ done, asFirst⟩
      | none =>
        rw [before, Option.none_or] at probed
        split at probed
        · rename_i same
          obtain rfl : session.declared repository containing = first := Option.some.inj probed
          -- This repository is the first of its identity, so that it was probed just now.
          rcases origin with recorded | ⟨-, asDeclared⟩
          · rw [← eq_of_beq same] at recorded
            cases (recalls.unprobed identity before).symm.trans recorded
          · refine ⟨found, ?_, asDeclared⟩
            rw [learned, if_pos same]
        · cases probed

theorem recalls_afterNormalizing (session : Session) (own : List (Path × Pom))
    (earlier : List (Repository × Option Pom)) :
    session.Recalls earlier (session.afterNormalizing own earlier) := by
  have run (rest before : List (Repository × Option Pom)) (state : State)
      (recalls : session.Recalls before state) : session.Recalls (before ++ rest)
        (rest.foldl (fun state call => (session.normalize call.1 call.2 state).2) state) := by
    induction rest generalizing before state with
    | nil =>
      rw [List.append_nil]
      exact recalls
    | cons call rest ih =>
      rw [List.append_cons]
      exact ih _ _ (recalls.normalize call.1 call.2)
  exact run earlier [] (fresh own) (recalls_fresh session own)

/-! Whose credentials come out. -/

theorem ProbedAs.id_eq {form : Repository} (probedAs : ProbedAs repository form) :
    form.id = repository.id := by
  rcases probedAs with rfl | rfl <;> rfl

theorem ProbedAs.declaredCredentials_eq {form : Repository} (probedAs : ProbedAs repository form) :
    form.declaredCredentials = repository.declaredCredentials := by
  rcases probedAs with rfl | rfl <;> rfl

/-- A repository is normalized as the first one with its identity that was probed, or as itself if it
is the first. -/
theorem normalize_afterNormalizing
    (unknown : (session.declared repository containing).knownToExist = false)
    (answers : (session.normalize repository containing (session.afterNormalizing own earlier)).1 =
      some found) :
    let declared := session.declared repository containing
    ∃ form, found = session.applyCredentials form ∧
      ProbedAs ((session.probedAmong earlier declared.identity).getD declared) form := by
  intro declared
  have recalls := recalls_afterNormalizing session own earlier
  obtain ⟨recorded, result, -, origin⟩ := normalize_of_unknown unknown recalls.idle
  obtain ⟨form, rfl, rfl⟩ := Option.map_eq_some_iff.mp (result.symm.trans answers)
  refine ⟨form, rfl, ?_⟩
  cases before : session.probedAmong earlier declared.identity with
  | none =>
    rcases origin with done | ⟨-, asDeclared⟩
    · cases (recalls.unprobed _ before).symm.trans done
    · exact asDeclared form rfl
  | some first =>
    obtain ⟨recalled, done, asFirst⟩ := recalls.probed _ first before
    rcases origin with same | ⟨unrecorded, -⟩
    · cases done.symm.trans same
      exact asFirst form rfl
    · cases done.symm.trans unrecorded

/-- A repository is declared with the credentials that are due to what the mirrors made of it. -/
theorem declared_credentials (session : Session) (repository : Repository) (containing : Option Pom) :
    let replaced := session.applyMirrors repository
    let declared := session.declared repository containing
    declared.id = replaced.id ∧ declared.knownToExist = replaced.knownToExist ∧
      declared.declaredCredentials = replaced.dueCredentials session.credentials replaced.id := by
  intro replaced declared
  obtain ⟨uri, expanded⟩ := Repository.exists_expand (session.applyCredentials replaced) containing
  have same : declared = (session.applyCredentials replaced).withUri uri := expanded
  rw [same]
  exact ⟨Repository.id_apply session.credentials replaced,
    Repository.knownToExist_apply session.credentials replaced,
    Repository.declaredCredentials_apply session.credentials replaced⟩

theorem declared_of_unmirrored
    (unmirrored : ∀ mirror ∈ session.mirrors, mirror.isFor repository = false)
    (containing : Option Pom) :
    let declared := session.declared repository containing
    declared.id = repository.id ∧ declared.knownToExist = repository.knownToExist ∧
      declared.declaredCredentials =
        repository.dueCredentials session.credentials repository.id := by
  intro declared
  have unreplaced : session.applyMirrors repository = repository := by
    have missing : session.mirrors.find? (·.isFor repository) = none := by
      simpa [List.find?_eq_none] using unmirrored
    unfold applyMirrors Mirror.apply
    rw [missing]
  have given := session.declared_credentials repository containing
  rwa [unreplaced] at given

/-- A repository that no mirror replaces gets the credentials that are due to it, be it those of the
session or its own, unless the session has none for its id, and an earlier repository with the same
identity was probed which declares others. -/
theorem declaredCredentials_normalize_iff
    (unmirrored : ∀ mirror ∈ session.mirrors, mirror.isFor repository = false)
    (answers : (session.normalize repository containing (session.afterNormalizing own earlier)).1 =
      some found) :
    found.declaredCredentials = repository.dueCredentials session.credentials found.id ↔
      (session.credentials.find? (some ·.id == found.id)).isSome ∨ repository.knownToExist ∨
        ∀ first, session.probedAmong earlier (session.declared repository containing).identity =
          some first → first.declaredCredentials = repository.declaredCredentials := by
  obtain ⟨sameId, sameKnown, due⟩ := declared_of_unmirrored unmirrored containing
  cases known : (session.declared repository containing).knownToExist with
  | true =>
    rw [normalize_of_known known] at answers
    obtain rfl : session.declared repository containing = found := Option.some.inj answers
    rw [sameId, due]
    exact iff_of_true rfl (.inr (.inl (sameKnown.symm.trans known)))
  | false =>
    obtain ⟨form, rfl, probedAs⟩ := normalize_afterNormalizing known answers
    have formId : (session.applyCredentials form).id = form.id :=
      Repository.id_apply session.credentials form
    have formDue : (session.applyCredentials form).declaredCredentials =
        form.dueCredentials session.credentials form.id :=
      Repository.declaredCredentials_apply session.credentials form
    have unknown : repository.knownToExist = false := sameKnown.symm.trans known
    rw [formId, formDue]
    cases given : session.credentials.find? (some ·.id == form.id) with
    | some credentials =>
      have isSome := Option.isSome_of_eq_some given
      exact iff_of_true (Repository.dueCredentials_of_isSome _ _ isSome _) (.inl rfl)
    | none =>
      rw [Repository.dueCredentials_of_find_eq_none _ given,
        Repository.dueCredentials_of_find_eq_none _ given, probedAs.declaredCredentials_eq]
      cases before : session.probedAmong earlier (session.declared repository containing).identity
        with
      | some first => simp [unknown]
      | none =>
        rw [before] at probedAs
        rw [probedAs.id_eq, Option.getD_none, sameId] at given
        rw [Option.getD_none, due, Repository.dueCredentials_of_find_eq_none _ given]
        exact iff_of_true rfl (.inr (.inr nofun))

theorem declaredCredentials_normalize_given :
    let session : Session :=
      { transport := Http.Transport.ofConfiguration {}
        mirrors := [{ id := some "near", url := "https://near.example", mirrorOf := "central" }]
        credentials := [{ id := "corp", username := some "ci", password := some "secret" }]
        server := fun _ _ => .ok { status := 200 } }
    let first : Repository := { id := some "corp", uri := "https://corp.example/m2",
                                username := some "alice", password := some "a" }
    let second : Repository := { first with username := some "bob", password := some "b" }
    let found : Repository := { first with username := some "ci", password := some "secret" }
    (∀ mirror ∈ session.mirrors, mirror.isFor second = false) ∧
      (session.normalize second none (session.afterNormalizing [] [(first, none)])).1 = some found ∧
      (found.declaredCredentials = second.dueCredentials session.credentials found.id ↔
        (session.credentials.find? (some ·.id == found.id)).isSome ∨ second.knownToExist ∨
          ∀ probed, session.probedAmong [(first, none)] (session.declared second none).identity =
            some probed → probed.declaredCredentials = second.declaredCredentials) := by
  intro session first second found
  have unmirrored : ∀ mirror ∈ session.mirrors, mirror.isFor second = false := by decide
  have answers : (session.normalize second none
      (session.afterNormalizing [] [(first, none)])).1 = some found := by decide
  exact ⟨unmirrored, answers, declaredCredentials_normalize_iff unmirrored answers⟩

/-- The second of two repositories that differ in their credentials only gets those of the first. -/
theorem exists_normalize_undue :
    let session : Session :=
      { transport := Http.Transport.ofConfiguration {}
        server := fun _ _ => .ok { status := 200 } }
    let first : Repository := { id := some "corp", uri := "https://corp.example/m2",
                                username := some "alice", password := some "a" }
    let second : Repository := { first with username := some "bob", password := some "b" }
    (∀ mirror ∈ session.mirrors, mirror.isFor second = false) ∧
      (session.normalize second none (session.afterNormalizing [] [(first, none)])).1 = some first ∧
      first.declaredCredentials ≠ second.dueCredentials session.credentials first.id := by
  intro session first second
  exact ⟨nofun, by decide, by decide⟩

/-! Whatever a search finds bears the credentials of the session. -/

theorem applyCredentials_declared (session : Session) (repository : Repository)
    (containing : Option Pom) :
    session.applyCredentials (session.declared repository containing) =
      session.declared repository containing := by
  obtain ⟨uri, expanded⟩ := Repository.exists_expand
    (session.applyCredentials (session.applyMirrors repository)) containing
  unfold declared
  rw [expanded]
  unfold applyCredentials
  rw [Repository.apply_withUri, Repository.apply_apply]

theorem applyCredentials_normalize
    (answers : (session.normalize repository containing state).1 = some found) :
    session.applyCredentials found = found := by
  cases known : (session.declared repository containing).knownToExist with
  | true =>
    rw [normalize_of_known known] at answers
    cases answers
    exact session.applyCredentials_declared repository containing
  | false =>
    rw [normalize_apply known] at answers
    dsimp only at answers
    split at answers
    obtain ⟨form, -, rfl⟩ := Option.map_eq_some_iff.mp answers
    exact Repository.apply_apply session.credentials form

theorem applyCredentials_normalizeAll (repositories : List Repository) (containing : Option Pom)
    (state : State) :
    ∀ found ∈ (repositories.mapM (session.normalize · containing) state).1.filterMap id,
      session.applyCredentials found = found := by
  induction repositories generalizing state with
  | nil => exact fun _ member => nomatch member
  | cons repository rest ih =>
    intro found member
    rw [normalizeAll_cons] at member
    obtain ⟨answer, listed, same⟩ := List.mem_filterMap.mp member
    rcases List.mem_cons.mp listed with here | there
    · exact applyCredentials_normalize (here.symm.trans same)
    · exact ih _ found (List.mem_filterMap.mpr ⟨answer, there, same⟩)

theorem applyCredentials_searched (session : Session) (repositories : List Repository)
    (containing : Option Pom) (version : Option String) (state : State) :
    ∀ found ∈ (session.searched repositories containing version state).1,
      session.applyCredentials found = found := by
  intro found member
  rw [searched_apply] at member
  rcases List.mem_append.mp (Repository.mem_of_mem_distinct member) with accepted | central
  · exact applyCredentials_normalizeAll repositories containing state found
      (List.mem_filter.mp accepted).1
  · rw [Option.mem_toList] at central
    split at central
    · exact applyCredentials_normalize central
    · cases central

end Session
end MavenResolution
