import Mathlib.Data.ENat.Lattice
import MavenResolution.Proofs.Http.Exchange

/-! How often a request goes out. Each `requests.Timeout` is followed by another attempt while attempts are left,
and nothing else is: if `time.sleep` takes the delay, the number of calls is the smaller one of `retry_max` and the
place of the first outcome that is no timeout. -/
namespace MavenResolution.Http

/-- A server that does one thing after the other, whatever it is asked. -/
def Server.inTurn (outcomes : ℕ → Outcome) : Server := fun earlier _ => outcomes earlier.length

namespace Transport

variable {outcomes : ℕ → Outcome} {k : ℕ}

/-- The place of the first outcome that is no timeout, counted from one; infinite where there is none. -/
noncomputable def firstDecisive (outcomes : ℕ → Outcome) : ℕ∞ :=
  ⨅ (k : ℕ) (_ : isTimeout (outcomes k) = false), ((k + 1 : ℕ) : ℕ∞)

theorem firstDecisive_le (decisive : isTimeout (outcomes k) = false) :
    firstDecisive outcomes ≤ ((k + 1 : ℕ) : ℕ∞) :=
  iInf₂_le k decisive

theorem le_firstDecisive (timeouts : ∀ j < k, isTimeout (outcomes j) = true) :
    ((k + 1 : ℕ) : ℕ∞) ≤ firstDecisive outcomes := by
  refine le_iInf₂ fun j decisive => ?_
  have later : k ≤ j := by
    by_contra earlier
    rw [timeouts j (not_le.mp earlier)] at decisive
    cases decisive
  exact_mod_cast Nat.succ_le_succ later

variable (delay : Decimal.Binary64) (server : Server) (context : Option String) (request : Request)
  (earlier : List Request)

/-- What comes of a request that goes out again and again. -/
def replies (k : ℕ) : Outcome := server (earlier ++ List.replicate k request) request

variable {delay} (slept : sleep delay = .ok ())

include slept

/-- A timeout is left to the caller only when no attempt is left. -/
theorem length_requests_of_timeout (number left : ℕ)
    (late : isTimeout (attemptsFrom delay server context request number earlier left).outcome = true) :
    (attemptsFrom delay server context request number earlier left).requests.length = left + 1 := by
  induction left generalizing number earlier with
  | zero => rfl
  | succ left ih =>
    rw [attemptsFrom_succ, slept] at late ⊢
    dsimp only at late ⊢
    split at late
    · rename_i again
      rw [if_pos again]
      dsimp only [Exchange.followedBy] at late ⊢
      rw [List.length_append, ih _ _ late]
      exact Nat.add_comm _ _
    · contradiction

/-- The calls that are made up to a bound, whatever the server is. -/
theorem attemptsFrom_calls (number left : ℕ) : ∃ last,
    let exchange := attemptsFrom delay server context request number earlier left
    exchange.requests = List.replicate (last + 1) request ∧
      exchange.outcome = replies server request earlier last ∧
      ((last + 1 : ℕ) : ℕ∞) = min ((left + 1 : ℕ) : ℕ∞) (firstDecisive (replies server request earlier)) := by
  obtain ⟨last, bounded, requests, outcome, timeouts⟩ :=
    exists_retried_attemptsFrom delay server context request number earlier left fun _ => slept
  have counted :
      (attemptsFrom delay server context request number earlier left).requests.length = last + 1 := by
    rw [requests, List.length_replicate]
  refine ⟨last, requests, outcome, le_antisymm ?_ ?_⟩
  · exact le_min (by exact_mod_cast Nat.succ_le_succ bounded) (le_firstDecisive timeouts)
  · cases late : isTimeout (attemptsFrom delay server context request number earlier left).outcome with
    | true =>
      rw [← counted, length_requests_of_timeout server context request earlier slept number left late]
      exact min_le_left _ _
    | false =>
      rw [outcome] at late
      exact (min_le_right _ _).trans (firstDecisive_le late)

omit slept

/-- Where the wait is refused one call is made, and the refusal takes the place of a timeout behind which
another call is due. -/
theorem attemptsFrom_of_refused {fault : Fault} (refused : sleep delay = .error fault) (number left : ℕ) :
    let exchange := attemptsFrom delay server context request number earlier left
    exchange.requests = [request] ∧
      exchange.outcome =
        if isTimeout (server earlier request) = true ∧ 0 < left then .error fault else server earlier request := by
  cases left with
  | zero => exact ⟨rfl, (if_neg fun both => both.2.ne rfl).symm⟩
  | succ left =>
    rw [attemptsFrom_succ, refused]
    by_cases late : isTimeout (server earlier request) = true <;> simp [attempt, late]

theorem succ_attempts (configuration : Configuration) (timeout : Option Seconds) (attempts : Option Int) :
    (ofConfiguration configuration timeout attempts).attempts - 1 + 1 =
      (max 1 (attempts.getD configuration.retryMax)).toNat := by
  simp only [ofConfiguration]
  omega

theorem replies_inTurn (outcomes : ℕ → Outcome) :
    replies (Server.inTurn outcomes) request earlier = fun k => outcomes (earlier.length + k) := by
  funext k
  rw [replies, Server.inTurn, List.length_append, List.length_replicate]

/-- Whatever does the repeating as documented, a request goes out until an outcome is no timeout, or as often as is
asked for, and once in any case. It is the same every time, and what comes of it last is what comes of it at all. A
delay that `time.sleep` refuses ends this at the first wait. -/
theorem send_retries_timeouts (retrying : Retrying) (configuration : Configuration) (timeout : Option Seconds)
    (attempts : Option Int) (delay : Decimal.Binary64) (verify : Verification) (owns : Bool)
    (outcomes : ℕ → Outcome) (earlier : List Request) (context : Option String) (request : Request) :
    let transport : Transport := { ofConfiguration configuration timeout attempts with
      retryDelay := delay, verify := verify, ownsConnection := owns, retrying := retrying }
    let exchange := transport.send (Server.inTurn outcomes) earlier context request
    let bound := max 1 (attempts.getD configuration.retryMax)
    (sleep delay = .ok () → ∃ last,
      exchange.requests = List.replicate (last + 1) (transport.prepare request) ∧
        ((last + 1 : ℕ) : ℕ∞) =
          min (bound.toNat : ℕ∞) (firstDecisive fun k => outcomes (earlier.length + k)) ∧
        exchange.outcome = outcomes (earlier.length + last)) ∧
      (∀ fault, sleep delay = .error fault → exchange.requests = [transport.prepare request] ∧
        exchange.outcome = if isTimeout (outcomes earlier.length) = true ∧ 1 < bound then .error fault
          else outcomes earlier.length) ∧
      ∀ sent ∈ exchange.requests, sent.method = request.method ∧ sent.url = request.url ∧
        sent.auth = request.auth ∧ sent.timeout = timeout.getD (.whole configuration.requestTimeout) := by
  intro transport exchange bound
  have left : transport.attempts - 1 + 1 = bound.toNat := succ_attempts configuration timeout attempts
  have sends : exchange = attemptsFrom delay (Server.inTurn outcomes) context (transport.prepare request) 1 earlier
      (transport.attempts - 1) := send_eq ..
  refine ⟨fun slept => ?_, fun fault refused => ?_, fun sent member => ?_⟩
  · obtain ⟨last, requests, outcome, counted⟩ := attemptsFrom_calls (Server.inTurn outcomes) context
      (transport.prepare request) earlier slept 1 (transport.attempts - 1)
    rw [replies_inTurn] at outcome counted
    rw [left] at counted
    rw [sends]
    exact ⟨last, requests, counted, outcome⟩
  · have more : 0 < transport.attempts - 1 ↔ 1 < bound := by omega
    simp only [sends, ← more]
    exact attemptsFrom_of_refused (Server.inTurn outcomes) context (transport.prepare request) earlier refused 1 _
  · have same : sent = transport.prepare request :=
      send_requests (Server.inTurn outcomes) context request transport earlier sent member
    rw [same]
    exact ⟨rfl, rfl, rfl, rfl⟩

/-- Two timeouts, with the waits that are usual, and a response to the third call. -/
theorem send_retries_timeouts_twice :
    let outcomes : ℕ → Outcome := fun k => if k < 2 then .error ⟨.timeout, "late"⟩ else .ok { status := 200 }
    let transport : Transport := Transport.ofConfiguration {}
    let exchange := transport.send (Server.inTurn outcomes) [] none { method := .get, url := "https://a.example/" }
    sleep transport.retryDelay = .ok () ∧ exchange.requests.length = 3 ∧ exchange.outcome = .ok { status := 200 } := by
  intro outcomes transport exchange
  have slept : sleep transport.retryDelay = .ok () := by decide +kernel
  obtain ⟨last, requests, counted, outcome⟩ := (send_retries_timeouts .loop {} none none transport.retryDelay
    (.flag true) false outcomes [] none { method := .get, url := "https://a.example/" }).1 slept
  have decisive : firstDecisive (fun k => outcomes (0 + k)) = 3 := by
    refine le_antisymm (firstDecisive_le (k := 2) rfl) (le_firstDecisive (k := 2) fun j early => ?_)
    rw [Nat.zero_add, show outcomes j = _ from if_pos early]
    rfl
  have third : last = 2 := by
    rw [List.length_nil, decisive] at counted
    have three : ((last + 1 : ℕ) : ℕ∞) = ((3 : ℕ) : ℕ∞) := counted
    exact Nat.succ_inj.mp (Nat.cast_injective three)
  have three : exchange.requests = List.replicate (last + 1) _ := requests
  refine ⟨slept, ?_, outcome.trans ?_⟩
  · rw [three, List.length_replicate, third]
  · rw [third]
    rfl

end Transport
end MavenResolution.Http
