import MavenResolution.Http.Transport

/-! What goes out and what comes back when a request is sent, whatever the server answers. -/
namespace MavenResolution.Http

open Decimal

/-- All faults are faults of requests, which a caller may pass over. -/
def Server.FailsByRequest (server : Server) : Prop :=
  ∀ earlier request fault, server earlier request = .error fault → fault.kind.isRequest = true

/-- What is documented of a repetition says all of it. -/
theorem Retrying.call_eq (retrying : Retrying) (policy : Policy) (attempt : Attempt)
    (earlier : List Request) : retrying.call policy attempt earlier =
      repeatFrom policy.delay policy.again attempt 1 earlier (policy.attempts - 1) := by
  obtain ⟨attempts, delay, again⟩ := policy
  dsimp only
  generalize left : attempts - 1 = more
  induction more generalizing attempts attempt earlier with
  | zero => exact retrying.stopped _ _ _ (Nat.sub_eq_zero_iff_le.mp left)
  | succ more ih =>
    have several : 1 < attempts := by omega
    rw [repeatFrom]
    cases timeout : again (attempt 1 earlier).outcome with
    | false => exact retrying.decided _ _ _ timeout
    | true =>
      cases slept : sleep delay with
      | error fault => exact retrying.refused _ _ _ fault timeout several slept
      | ok =>
        rw [retrying.waited _ _ _ timeout several slept, repeatFrom_succ]
        exact congrArg _ (ih _ _ _ (by dsimp only; omega))

namespace Transport

/-- The attempts at a request from one of them on. -/
def attemptsFrom (delay : Binary64) (server : Server) (context : Option String) (request : Request)
    (number : Nat) (earlier : List Request) (left : Nat) : Exchange :=
  Retrying.repeatFrom delay isTimeout (attempt server context request) number earlier left

variable (delay : Binary64) (server : Server) (context : Option String) (request : Request)
  (transport : Transport)

theorem send_eq (earlier : List Request) : transport.send server earlier context request =
    attemptsFrom transport.retryDelay server context (transport.prepare request) 1 earlier
      (transport.attempts - 1) :=
  transport.retrying.call_eq _ _ _

/-- What becomes of an attempt behind which others are left. -/
theorem attemptsFrom_succ (number : Nat) (earlier : List Request) (left : Nat) :
    let first := attempt server context request number earlier
    attemptsFrom delay server context request number earlier (left + 1) =
      if isTimeout first.outcome then
        match sleep delay with
        | .error fault => { first with outcome := .error fault }
        | .ok () => first.followedBy
            (attemptsFrom delay server context request (number + 1) (earlier ++ [request]) left)
      else first := rfl

theorem attempt_log (number : Nat) (earlier : List Request) :
    ∀ entry ∈ (attempt server context request number earlier).log, entry.source = .transport := by
  intro entry member
  unfold attempt at member
  rw [List.mem_cons] at member
  rcases member with rfl | member
  · rfl
  · split at member
    · rw [List.mem_singleton.mp member]
      rfl
    · split at member
      · rw [List.mem_singleton.mp member]
        rfl
      · cases member

theorem attemptsFrom_log (number : Nat) (earlier : List Request) (left : Nat) :
    ∀ entry ∈ (attemptsFrom delay server context request number earlier left).log,
      entry.source = .transport := by
  induction left generalizing number earlier with
  | zero => exact attempt_log server context request number earlier
  | succ left ih =>
    have first := attempt_log server context request number earlier
    rw [attemptsFrom_succ]
    split
    · split
      · exact first
      · exact List.forall_mem_append.mpr ⟨first, ih _ _⟩
    · exact first

/-! Requests. -/

/-- All that goes out is one request, once for every attempt. -/
theorem exists_requests_attemptsFrom (number : Nat) (earlier : List Request) (left : Nat) :
    ∃ retries ≤ left, (attemptsFrom delay server context request number earlier left).requests =
      List.replicate (retries + 1) request := by
  induction left generalizing number earlier with
  | zero => exact ⟨0, Nat.le_refl 0, rfl⟩
  | succ left ih =>
    rw [attemptsFrom_succ]
    split
    · split
      · exact ⟨0, Nat.zero_le _, rfl⟩
      · obtain ⟨retries, bounded, requests⟩ := ih (number + 1) (earlier ++ [request])
        exact ⟨retries + 1, Nat.succ_le_succ bounded, congrArg (request :: ·) requests⟩
    · exact ⟨0, Nat.zero_le _, rfl⟩

theorem send_log (earlier : List Request) :
    ∀ entry ∈ (transport.send server earlier context request).log, entry.source = .transport := by
  rw [send_eq]
  exact attemptsFrom_log _ _ _ _ _ _ _

/-- All that goes out is the request as it is prepared, once for every attempt. -/
theorem send_requests (earlier : List Request) :
    ∀ sent ∈ (transport.send server earlier context request).requests,
      sent = transport.prepare request := by
  obtain ⟨retries, -, requests⟩ := exists_requests_attemptsFrom transport.retryDelay server context
    (transport.prepare request) 1 earlier (transport.attempts - 1)
  rw [send_eq, requests]
  exact fun sent => List.eq_of_mem_replicate

theorem send_requests_ne_nil (earlier : List Request) :
    (transport.send server earlier context request).requests ≠ [] := by
  obtain ⟨retries, -, requests⟩ := exists_requests_attemptsFrom transport.retryDelay server context
    (transport.prepare request) 1 earlier (transport.attempts - 1)
  rw [send_eq, requests]
  exact List.cons_ne_nil _ _

/-! Outcomes. -/

/-- What comes back was answered to the request. -/
theorem exists_reply_attemptsFrom (number : Nat) (earlier : List Request) (left : Nat)
    {response : Response}
    (replied : (attemptsFrom delay server context request number earlier left).outcome =
      .ok response) :
    ∃ before, server before request = .ok response := by
  induction left generalizing number earlier with
  | zero => exact ⟨earlier, replied⟩
  | succ left ih =>
    rw [attemptsFrom_succ] at replied
    split at replied
    · split at replied
      · cases replied
      · exact ih _ _ replied
    · exact ⟨earlier, replied⟩

theorem exists_reply_of_send (earlier : List Request) {response : Response}
    (replied : (transport.send server earlier context request).outcome = .ok response) :
    ∃ before, server before (transport.prepare request) = .ok response := by
  rw [send_eq] at replied
  exact exists_reply_attemptsFrom _ _ _ _ _ _ _ replied

/-- The waits between attempts, if there are any, are not refused. -/
def Waits : Prop := 1 < transport.attempts → sleep transport.retryDelay = .ok ()

/-- A request went out, and the same again after each timeout; its last attempt decided. -/
structure Exchange.Retried (server : Server) (request : Request) (earlier : List Request)
    (retries : Nat) (exchange : Exchange) : Prop where
  requests : exchange.requests = List.replicate (retries + 1) request
  outcome : exchange.outcome = server (earlier ++ List.replicate retries request) request
  timeouts : ∀ k < retries, isTimeout (server (earlier ++ List.replicate k request) request) = true

theorem attempt_retried (number : Nat) (earlier : List Request) :
    (attempt server context request number earlier).Retried server request earlier 0 where
  requests := rfl
  outcome := by
    rw [List.replicate_zero, List.append_nil]
    rfl
  timeouts k less := absurd less k.not_lt_zero

theorem exists_retried_attemptsFrom (number : Nat) (earlier : List Request) (left : Nat)
    (waits : 0 < left → sleep delay = .ok ()) :
    ∃ retries ≤ left, (attemptsFrom delay server context request number earlier left).Retried server
      request earlier retries := by
  induction left generalizing number earlier with
  | zero => exact ⟨0, Nat.le_refl 0, attempt_retried server context request number earlier⟩
  | succ left ih =>
    rw [attemptsFrom_succ, waits (Nat.succ_pos left)]
    dsimp only
    split
    · rename_i timedOut
      obtain ⟨retries, bounded, retried⟩ := ih (number + 1) (earlier ++ [request])
        fun _ => waits (Nat.succ_pos left)
      have behind (k : Nat) : earlier ++ [request] ++ List.replicate k request =
          earlier ++ List.replicate (k + 1) request := by
        rw [List.append_assoc, List.singleton_append, List.replicate_succ]
      refine ⟨retries + 1, Nat.succ_le_succ bounded, ?_, ?_, fun k less => ?_⟩
      · exact congrArg (request :: ·) retried.requests
      · rw [← behind]
        exact retried.outcome
      · cases k with
        | zero =>
          rw [List.replicate_zero, List.append_nil]
          exact timedOut
        | succ k =>
          rw [← behind]
          exact retried.timeouts k (Nat.lt_of_succ_lt_succ less)
    · exact ⟨0, Nat.zero_le _, attempt_retried server context request number earlier⟩

variable {transport} (waits : transport.Waits)

include waits

theorem exists_retried_send (earlier : List Request) :
    ∃ retries ≤ transport.attempts - 1, (transport.send server earlier context request).Retried
      server (transport.prepare request) earlier retries := by
  rw [send_eq]
  exact exists_retried_attemptsFrom _ _ _ _ _ _ _ fun more => waits (by omega)

theorem isRequest_of_send {server : Server} (failsByRequest : server.FailsByRequest)
    (earlier : List Request) {fault : Fault}
    (failed : (transport.send server earlier context request).outcome = .error fault) :
    fault.kind.isRequest = true := by
  obtain ⟨retries, -, retried⟩ := exists_retried_send server context request waits earlier
  exact failsByRequest _ _ fault (retried.outcome.symm.trans failed)

end Transport
end MavenResolution.Http
