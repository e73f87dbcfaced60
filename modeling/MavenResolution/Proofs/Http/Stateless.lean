import MavenResolution.Proofs.Http.Exchange

/-! Servers whose replies do not depend on what was asked before. Sending a request again changes
nothing then. -/
namespace MavenResolution.Http

open Decimal

/-- Method, URL and credentials decide what comes back. -/
def Server.Stateless (server : Server) : Prop :=
  ∀ earlier earlier' a b, a.method = b.method → a.url = b.url → a.auth = b.auth →
    server earlier a = server earlier' b

namespace Transport

variable {server : Server} (stateless : server.Stateless) {transport : Transport}

include stateless

/-- What an attempt gives does not depend on its number. -/
theorem outcome_attemptsFrom (delay : Binary64) (context context' : Option String) (request : Request)
    (number number' : Nat) (earlier earlier' : List Request) (left : Nat) :
    (attemptsFrom delay server context request number earlier left).outcome =
      (attemptsFrom delay server context' request number' earlier' left).outcome := by
  have first (context : Option String) (number : Nat) (earlier : List Request) :
      (attempt server context request number earlier).outcome = server [] request :=
    stateless _ _ _ _ rfl rfl rfl
  induction left generalizing number number' earlier earlier' with
  | zero => exact (first context number earlier).trans (first context' number' earlier').symm
  | succ left ih =>
    rw [attemptsFrom_succ, attemptsFrom_succ]
    simp only [first]
    split
    · split
      · rfl
      · exact ih _ _ _ _
    · rw [first, first]

theorem outcome_send (earlier earlier' : List Request) (context context' : Option String)
    (request : Request) :
    (transport.send server earlier context request).outcome =
      (transport.send server earlier' context' request).outcome := by
  rw [send_eq, send_eq]
  exact outcome_attemptsFrom stateless _ _ _ _ _ _ _ _ _

/-- Where no wait is refused, what comes back is what the server says to the request. -/
theorem outcome_send_of_waits (waits : transport.Waits) (earlier : List Request)
    (context : Option String) (request : Request) :
    (transport.send server earlier context request).outcome = server [] request := by
  obtain ⟨retries, -, retried⟩ := exists_retried_send server context request waits earlier
  exact retried.outcome.trans (stateless _ _ _ _ rfl rfl rfl)

end Transport
end MavenResolution.Http
