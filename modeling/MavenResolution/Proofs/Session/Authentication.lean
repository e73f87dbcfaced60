import MavenResolution.Proofs.Session.Requests

/-! With which credentials a POM and its jar are asked for. The repository that provides a POM
carries the credentials that the session gave it; for the jar the session looks them up once more, in
another way. -/
namespace MavenResolution.Session

variable {session : Session} {after : State} {repository : Repository}

/-- The last credentials that are given for the id of a repository; no id counts as an empty one. -/
def lastCredentials (session : Session) (repository : Repository) : Option Credentials :=
  session.credentials.reverse.find? (·.id == repository.id.getD "")

theorem jarAuth_eq (session : Session) (repository : Repository) : session.jarAuth repository =
    ((session.lastCredentials repository).bind Credentials.auth).or repository.auth :=
  Option.or_eq_orElse.symm

theorem jarAuth_eq_iff (session : Session) (repository : Repository) :
    session.jarAuth repository = repository.auth ↔
      ∀ last, session.lastCredentials repository = some last →
        last.auth = none ∨ last.auth = repository.auth := by
  rw [jarAuth_eq]
  cases session.lastCredentials repository with
  | none => simp
  | some last => cases auth : last.auth <;> simp [auth]

/-- Where ids are given once, and none is empty, the last credentials for a repository are those that
it has got. -/
theorem jarAuth_of_distinct (named : ∀ credentials ∈ session.credentials, credentials.id ≠ "")
    (distinct : session.credentials.Pairwise (·.id ≠ ·.id))
    (credentialed : session.applyCredentials repository = repository) :
    session.jarAuth repository = repository.auth := by
  rw [jarAuth_eq_iff]
  intro last found
  unfold lastCredentials at found
  have member : last ∈ session.credentials := List.mem_reverse.mp (List.mem_of_find?_eq_some found)
  have same := List.find?_some found
  have bears : last.id = repository.id.getD "" := eq_of_beq same
  cases id : repository.id with
  | none =>
    rw [id] at bears
    exact absurd bears (named last member)
  | some name =>
    rw [id, Option.getD_some] at bears
    have first : session.credentials.find? (some ·.id == repository.id) = some last := by
      rw [id, ← bears]
      exact Repository.find?_eq_some_of_distinct distinct member
    have given : repository.auth = last.auth := by
      rw [← credentialed]
      unfold applyCredentials
      rw [Repository.apply_of_find_eq_some first]
      rfl
    exact .inr given.symm

/-- The jar of a version is asked for with the credentials with which its POM was found if and only
if the last credentials for the id of the repository are its own ones, or lack a user or a password.
They are the same wherever no two credentials share an id and none has an empty one. -/
theorem resolve_authenticates_alike_iff {own : List (Path × Pom)} {files : Files}
    {request : Request} {repositories : List Repository} {resolved : Resolved}
    (resolves : (session.resolve request repositories).run { fresh own with files } =
      (.ok resolved, after))
    (foreign : ∀ entry ∈ own, entry.2 ≠ resolved.pom) :
    ∃ repository before descriptor jar, resolved.repository = some repository ∧
      after.requests = before ++ descriptor ++ jar ∧
      descriptor = (session.pomExchange resolved.coordinate repository before).requests ∧
      session.modelIn resolved.coordinate repository
        (session.pomExchange resolved.coordinate repository before).outcome = some resolved.pom ∧
      (jar = [] ∨ jar = (session.jarExchange resolved.coordinate repository
        (before ++ descriptor)).requests) ∧
      ((∀ asked ∈ descriptor, ∀ sent ∈ jar, sent.auth = asked.auth) ↔
        jar = [] ∨ ∀ last, session.lastCredentials repository = some last →
          last.auth = none ∨ last.auth = repository.auth) ∧
      ((∀ credentials ∈ session.credentials, credentials.id ≠ "") →
        session.credentials.Pairwise (·.id ≠ ·.id) →
        ∀ asked ∈ descriptor, ∀ sent ∈ jar, sent.auth = asked.auth) := by
  obtain ⟨repository, before, origin, credentialed, model, requests⟩ :=
    resolve_requests resolves rfl foreign
  let exchange := session.pomExchange resolved.coordinate repository before
  have asked : ∀ sent ∈ exchange.requests, sent.auth = repository.auth := by
    intro sent member
    rw [Http.Transport.send_requests _ _ _ _ _ sent member]
    rfl
  rcases requests with unsent | sent
  · refine ⟨repository, before, exchange.requests, [], origin, ?_, rfl, model, .inl rfl, ?_, ?_⟩
    · rw [List.append_nil]
      exact unsent
    · exact iff_of_true (fun _ _ _ member => nomatch member) (.inl rfl)
    · exact fun _ _ _ _ _ member => nomatch member
  · let jar := (session.jarExchange resolved.coordinate repository
      (before ++ exchange.requests)).requests
    have askedWith : ∀ asked ∈ jar, asked.auth = session.jarAuth repository := by
      intro asked member
      rw [Http.Transport.send_requests _ _ _ _ _ asked member]
      rfl
    have alike : (∀ asked ∈ exchange.requests, ∀ sent ∈ jar, sent.auth = asked.auth) ↔
        session.jarAuth repository = repository.auth := by
      constructor
      · intro same
        obtain ⟨first, firstMember⟩ := List.exists_mem_of_ne_nil exchange.requests
          (Http.Transport.send_requests_ne_nil _ _ _ _ _)
        obtain ⟨last, lastMember⟩ := List.exists_mem_of_ne_nil jar
          (Http.Transport.send_requests_ne_nil _ _ _ _ _)
        rw [← askedWith last lastMember, same first firstMember last lastMember]
        exact asked first firstMember
      · intro same first firstMember last lastMember
        rw [askedWith last lastMember, same, asked first firstMember]
    have sentOnce : jar ≠ [] := Http.Transport.send_requests_ne_nil _ _ _ _ _
    refine ⟨repository, before, exchange.requests, jar, origin, sent, rfl, model, .inr rfl, ?_, ?_⟩
    · rw [alike, jarAuth_eq_iff, or_iff_right sentOnce]
    · intro named distinct
      exact alike.mpr (jarAuth_of_distinct named distinct credentialed)

theorem resolve_authenticates_alike_distinct :
    let model := Text.Utf8.encode "<project><artifactId>lib</artifactId></project>".toList
    let session : Session :=
      { repositories := [
          { id := some "corp", uri := "https://corp.example/m2", knownToExist := true }]
        credentials := [{ id := "corp", username := some "ci", password := some "secret" },
          { id := "other", username := some "alice", password := some "a" }]
        transport := Http.Transport.ofConfiguration {}
        includesCentral := false
        jarDirectory := some (Path.ofText "jars")
        server := fun _ _ => .ok { status := 200, content := model } }
    let own : List (Path × Pom) :=
      [(Path.ofText "pom.xml", { coordinate := ⟨none, "org.example", "app", "1.0", none⟩ })]
    let resolving := (session.resolve ⟨"org.example", "lib", ["1.0"], none⟩ []).run (fresh own)
    ∃ resolved after, resolving = (.ok resolved, after) ∧
      (∀ entry ∈ own, entry.2 ≠ resolved.pom) ∧ ∃ repository before descriptor jar,
      resolved.repository = some repository ∧ after.requests = before ++ descriptor ++ jar ∧
      descriptor = (session.pomExchange resolved.coordinate repository before).requests ∧
      ∀ asked ∈ descriptor, ∀ sent ∈ jar, sent.auth = asked.auth := by
  intro model session own resolving
  have foreign : resolving.1.toOption.any (fun resolved => own.all (·.2 ≠ resolved.pom)) := by
    decide +kernel
  have named : ∀ credentials ∈ session.credentials, credentials.id ≠ "" := by decide
  have distinct : session.credentials.Pairwise (·.id ≠ ·.id) := by decide
  clear_value session
  cases ran : resolving with
  | mk result after =>
    rw [ran] at foreign
    cases result with
    | error failure => cases foreign
    | ok resolved =>
      have apart : ∀ entry ∈ own, entry.2 ≠ resolved.pom := fun entry member =>
        of_decide_eq_true (List.all_eq_true.mp foreign entry member)
      obtain ⟨repository, before, descriptor, jar, origin, requests, asked, -, -, -, alike⟩ :=
        @resolve_authenticates_alike_iff session after own {} _ _ _ ran apart
      exact ⟨resolved, after, rfl, apart, repository, before, descriptor, jar, origin, requests, asked,
        alike named distinct⟩

/-- A version that is resolved with credentials that share an id: its POM is asked for with the
first of them, its jar with the last. -/
theorem exists_resolve_authenticates_apart :
    let model := Text.Utf8.encode "<project><artifactId>lib</artifactId></project>".toList
    let session : Session :=
      { repositories := [
          { id := some "corp", uri := "https://corp.example", knownToExist := true }]
        credentials := [{ id := "corp", username := some "alice", password := some "a" },
          { id := "corp", username := some "bob", password := some "b" }]
        transport := Http.Transport.ofConfiguration {}
        includesCentral := false
        jarDirectory := some (Path.ofText "jars")
        server := fun _ _ => .ok { status := 200, content := model } }
    let resolving := (session.resolve ⟨"org.example", "lib", ["1.0"], none⟩ []).run (fresh [])
    resolving.1.isOk ∧ resolving.2.requests.map (fun sent => (sent.url, sent.auth)) =
      [("https://corp.example/org/example/lib/1.0/lib-1.0.pom", some ("alice", "a")),
        ("https://corp.example/org/example/lib/1.0/lib-1.0.jar", some ("bob", "b"))] := by
  intro model session resolving
  exact ⟨by decide +kernel, by decide +kernel⟩

end MavenResolution.Session
