import MavenResolution.Proofs.Session.Credentials

/-! Whose credentials a mirror gets. A mirror takes the place of a repository, but those of the repository stay
where the session has none for the mirror. -/
namespace MavenResolution

/-- The credentials that are due to a mirror: the first ones with its id, or none at all. -/
def Mirror.dueCredentials (credentials : List Credentials) (mirror : Mirror) : Option String × Option String :=
  match credentials.find? (some ·.id == mirror.id) with
  | some found => (found.username, found.password)
  | none => (none, none)

/-- Whether a mirror is for a repository does not depend on its credentials. -/
theorem Mirror.isFor_withCredentials (mirror : Mirror) (repository : Repository)
    (username password : Option String) :
    mirror.isFor { repository with username, password } = mirror.isFor repository := by
  have same (found : Bool) (selectors : List Selector) :
      selects { repository with username, password } found selectors = selects repository found selectors := by
    induction selectors generalizing found with
    | nil => rfl
    | cons selector rest ih =>
      cases selector with
      | excluded name =>
        simp only [selects, ih]
        rfl
      | everything => exact ih true
      | external => exact ih _
      | named name => exact ih _
  exact same false mirror.selectors

namespace Session

variable {session : Session} {mirror : Mirror} {repository found found' : Repository} {containing : Option Pom}
  {own : List (Path × Pom)} {username password : Option String}

/-- In a new session a mirror gets the credentials of the session with its id, or else those of the repository
that it replaces. -/
theorem declaredCredentials_of_mirrored
    (selected : session.mirrors.find? (·.isFor repository) = some mirror)
    (answers : (session.normalize repository containing (fresh own)).1 = some found) :
    found.declaredCredentials = repository.dueCredentials session.credentials mirror.id := by
  have replaced : session.applyMirrors repository = mirror.replace repository := by
    unfold applyMirrors Mirror.apply
    rw [selected]
  have given := session.declared_credentials repository containing
  rw [replaced] at given
  obtain ⟨sameId, -, due⟩ := given
  have due : (session.declared repository containing).declaredCredentials =
      repository.dueCredentials session.credentials mirror.id := due
  cases known : (session.declared repository containing).knownToExist with
  | true =>
    rw [normalize_of_known known] at answers
    cases answers
    exact due
  | false =>
    -- A new session is one that has normalized nothing.
    have answers : (session.normalize repository containing (session.afterNormalizing own [])).1 = some found := answers
    obtain ⟨form, rfl, probedAs⟩ := normalize_afterNormalizing known answers
    have probedAs : ProbedAs (session.declared repository containing) form := probedAs
    have formDue : (session.applyCredentials form).declaredCredentials =
        form.dueCredentials session.credentials form.id :=
      Repository.declaredCredentials_apply session.credentials form
    have formId : form.id = mirror.id := probedAs.id_eq.trans sameId
    rw [formDue, formId]
    cases given : session.credentials.find? (some ·.id == mirror.id) with
    | some credentials => exact form.dueCredentials_of_isSome _ (Option.isSome_of_eq_some given) repository
    | none => rw [Repository.dueCredentials_of_find_eq_none _ given, probedAs.declaredCredentials_eq, due]

/-- A mirror is asked as its own credentials demand, whichever of two repositories it replaces that differ in
theirs alone, if the session has credentials with its id, or neither repository declares any. Otherwise it is
asked as the repository itself would be, so that the credentials differ where the repositories do. -/
theorem declaredCredentials_mirrored_iff
    (selected : session.mirrors.find? (·.isFor repository) = some mirror)
    (answers : (session.normalize repository containing (fresh own)).1 = some found)
    (answers' : (session.normalize { repository with username, password } containing (fresh own)).1 =
      some found') :
    let due := mirror.dueCredentials session.credentials
    let given := (session.credentials.find? (some ·.id == mirror.id)).isSome
    (found.declaredCredentials = due ∧ found'.declaredCredentials = due ↔
      given ∨ repository.declaredCredentials = (none, none) ∧ (username, password) = (none, none)) ∧
    (found.declaredCredentials = found'.declaredCredentials ↔
      given ∨ repository.declaredCredentials = (username, password)) ∧
    (¬given → found.declaredCredentials = repository.declaredCredentials ∧
      found'.declaredCredentials = (username, password)) := by
  intro due given
  have selected' : session.mirrors.find? (·.isFor { repository with username, password }) = some mirror := by
    rw [← selected]
    exact congrArg (session.mirrors.find? ·) (funext fun mirror => mirror.isFor_withCredentials _ _ _)
  rw [declaredCredentials_of_mirrored selected answers, declaredCredentials_of_mirrored selected' answers']
  have changed : Repository.declaredCredentials { repository with username, password } = (username, password) := rfl
  cases first : session.credentials.find? (some ·.id == mirror.id) with
  | some credentials =>
    have isSome : given = true := by simp [given, first]
    have same := repository.dueCredentials_of_isSome session.credentials isSome
      { repository with username, password }
    have own : repository.dueCredentials session.credentials mirror.id = due := by
      simp [Repository.dueCredentials, due, Mirror.dueCredentials, first]
    simp [isSome, ← same, own]
  | none =>
    have missing : given = false := by simp [given, first]
    have nothing : due = (none, none) := by simp [due, Mirror.dueCredentials, first]
    rw [Repository.dueCredentials_of_find_eq_none _ first, Repository.dueCredentials_of_find_eq_none _ first,
      changed, missing, nothing]
    simp

/-- A mirror with an id for which the session has credentials, and two repositories with other ones. -/
theorem declaredCredentials_mirrored_given :
    let session : Session :=
      { transport := Http.Transport.ofConfiguration {}
        mirrors := [{ id := some "near", url := "http://near.example/m2", mirrorOf := "*,!central" }]
        credentials := [{ id := "corp", username := some "eve", password := some "e" },
          { id := "near", username := some "ci", password := some "secret" }]
        server := fun _ _ => .ok { status := 200 } }
    let mirror : Mirror := { id := some "near", url := "http://near.example/m2", mirrorOf := "*,!central" }
    let repository : Repository := { id := some "corp", uri := "https://corp.example/m2",
                                     username := some "alice", password := some "a" }
    let found : Repository := { id := some "near", uri := "https://near.example/m2",
                                username := some "ci", password := some "secret" }
    session.mirrors.find? (·.isFor repository) = some mirror ∧
      (session.normalize repository none (fresh [])).1 = some found ∧
      (session.normalize { repository with username := some "bob", password := none } none (fresh [])).1 =
        some found ∧
      found.declaredCredentials = mirror.dueCredentials session.credentials := by
  intro session mirror repository found
  have selected : session.mirrors.find? (·.isFor repository) = some mirror := by decide
  have answers : (session.normalize repository none (fresh [])).1 = some found := by decide
  have answers' : (session.normalize { repository with username := some "bob", password := none } none
      (fresh [])).1 = some found := by decide
  obtain ⟨due, -, -⟩ := declaredCredentials_mirrored_iff selected answers answers'
  exact ⟨selected, answers, answers', (due.mpr (.inl (by decide))).1⟩

/-- Without credentials for the mirror, it is asked with those of the repository that it replaces. -/
theorem exists_normalize_handed_on :
    let session : Session :=
      { transport := Http.Transport.ofConfiguration {}
        mirrors := [{ id := some "near", url := "https://near.example/m2", mirrorOf := "*" }]
        server := fun _ _ => .ok { status := 200 } }
    let mirror : Mirror := { id := some "near", url := "https://near.example/m2", mirrorOf := "*" }
    let repository : Repository := { id := some "corp", uri := "https://corp.example/m2",
                                     username := some "alice", password := some "a" }
    let found : Repository := { repository with id := some "near", uri := "https://near.example/m2" }
    let run := session.normalize repository none (fresh [])
    session.mirrors.find? (·.isFor repository) = some mirror ∧ run.1 = some found ∧
      run.2.requests.map (fun request => (request.url, request.auth)) =
        [("https://near.example/m2", some ("alice", "a"))] ∧
      found.declaredCredentials ≠ mirror.dueCredentials session.credentials := by
  decide

end Session
end MavenResolution
