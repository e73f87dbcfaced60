import MavenResolution.Proofs.Http.Exchange

/-! Two runs whose requests are answered alike. What is sent in both of them side by side then gives the same
outcome, and the log says the same of it if it shows the same URLs. -/
namespace MavenResolution.Http

variable {server server' : Server} {requests requests' earlier earlier' : List Request}
  {request request' : Request}

/-- The servers of two runs answer the requests of these runs alike, one after the other. -/
def AnsweredAlike (server server' : Server) (requests requests' : List Request) : Prop :=
  ∀ earlier earlier' request request', earlier.length = earlier'.length →
    earlier ++ [request] <+: requests → earlier' ++ [request'] <+: requests' →
      server earlier request = server' earlier' request'

/-- What has been answered alike stays so when the runs are only looked at up to a point. -/
theorem AnsweredAlike.mono {fewer fewer' : List Request}
    (answered : AnsweredAlike server server' requests requests') (starts : fewer <+: requests)
    (starts' : fewer' <+: requests') : AnsweredAlike server server' fewer fewer' :=
  fun earlier earlier' request request' counted sent sent' =>
    answered earlier earlier' request request' counted (sent.trans starts) (sent'.trans starts')

/-- Requests of which the log says the same. -/
structure Request.ShownAlike (request request' : Request) : Prop where
  method : request.method = request'.method
  url : Redaction.safeUrl request.url = Redaction.safeUrl request'.url

namespace Transport

/-- Exchanges that come to the same, and look the same in the log. -/
structure Exchange.Alike (exchange exchange' : Exchange) : Prop where
  outcome : exchange.outcome = exchange'.outcome
  requests : exchange.requests.length = exchange'.requests.length
  log : exchange.log = exchange'.log

variable (context : Option String) (number : Nat)

theorem attempt_alike (shown : request.ShownAlike request')
    (answered : server earlier request = server' earlier' request') :
    (attempt server context request number earlier).Alike
      (attempt server' context request' number earlier') := by
  have starts : started request context number = started request' context number := by
    rw [started, started, shown.method, shown.url]
  have ends (status : Nat) : responded request context status = responded request' context status := by
    rw [responded, responded, shown.method, shown.url]
  have late : timedOut request number = timedOut request' number := by
    rw [timedOut, timedOut, shown.method, shown.url]
  refine ⟨answered, rfl, ?_⟩
  simp only [attempt, answered, starts, ends, late]

/-- The first attempt goes out in any case. -/
theorem prefix_attemptsFrom (delay : Decimal.Binary64) (server : Server) (request : Request)
    (earlier : List Request) (left : Nat) : earlier ++ [request] <+:
      earlier ++ (attemptsFrom delay server context request number earlier left).requests := by
  obtain ⟨retries, -, requests⟩ :=
    exists_requests_attemptsFrom delay server context request number earlier left
  rw [requests, List.replicate_succ]
  exact (List.prefix_append_right_inj earlier).mpr (List.prefix_append [request] _)

theorem attemptsFrom_alike (delay : Decimal.Binary64) (shown : request.ShownAlike request')
    (counted : earlier.length = earlier'.length) (left : Nat)
    (answered : AnsweredAlike server server'
      (earlier ++ (attemptsFrom delay server context request number earlier left).requests)
      (earlier' ++ (attemptsFrom delay server' context request' number earlier' left).requests)) :
    (attemptsFrom delay server context request number earlier left).Alike
      (attemptsFrom delay server' context request' number earlier' left) := by
  induction left generalizing number earlier earlier' with
  | zero =>
    refine attempt_alike context number shown ?_
    exact answered earlier earlier' request request' counted List.prefix_rfl List.prefix_rfl
  | succ left ih =>
    have first := attempt_alike context number shown
      (answered earlier earlier' request request' counted (prefix_attemptsFrom ..)
        (prefix_attemptsFrom ..))
    rw [attemptsFrom_succ, attemptsFrom_succ] at answered ⊢
    rw [← first.outcome] at answered ⊢
    cases late : isTimeout (attempt server context request number earlier).outcome with
    | false => exact first
    | true =>
      rw [late] at answered
      cases slept : sleep delay with
      | error fault => exact ⟨rfl, first.requests, first.log⟩
      | ok =>
        rw [slept] at answered
        have countedNow : (earlier ++ [request]).length = (earlier' ++ [request']).length := by
          simp [counted]
        have again := ih (number + 1) countedNow
          (by simpa [Exchange.followedBy, attempt] using answered)
        refine ⟨again.outcome, ?_, ?_⟩
        · simpa [Exchange.followedBy, attempt] using again.requests
        · rw [if_pos rfl, if_pos rfl, Exchange.followedBy, Exchange.followedBy, first.log, again.log]

/-- Transports that are the same send requests in the same way. -/
theorem send_alike (transport : Transport) (shown : request.ShownAlike request')
    (counted : earlier.length = earlier'.length)
    (answered : AnsweredAlike server server'
      (earlier ++ (transport.send server earlier context request).requests)
      (earlier' ++ (transport.send server' earlier' context request').requests)) :
    (transport.send server earlier context request).Alike
      (transport.send server' earlier' context request') := by
  have prepared : (transport.prepare request).ShownAlike (transport.prepare request') :=
    ⟨shown.method, shown.url⟩
  rw [send_eq, send_eq] at answered ⊢
  exact attemptsFrom_alike context 1 _ prepared counted _ answered

end Transport
end MavenResolution.Http
