import MavenResolution.Decimal.Binary64
import MavenResolution.Http.Basic
import MavenResolution.Log

/-! Attempts at a request, and the waits between them. The loop that repeats an attempt is tenacity's
`Retrying`: it is given here by what its documentation says of it. -/
namespace MavenResolution.Http

open Decimal

/-- What sending gives: the outcome of the last attempt, the requests that went out, and what the
log says. -/
structure Transport.Exchange where
  outcome : Outcome
  requests : List Request
  log : List Log.Entry

/-- One exchange, and another one behind it that decides. -/
def Transport.Exchange.followedBy (first next : Transport.Exchange) : Transport.Exchange :=
  ⟨next.outcome, first.requests ++ next.requests, first.log ++ next.log⟩

open Transport (Exchange)

/-! Waiting, as `time.sleep` does it. -/

/-- A time in nanoseconds is of this size at most. -/
def timeLimit : Int := Nat.pow 2 63

/-- A number of seconds times a thousand million, rounded. -/
def nanoseconds (negative : Bool) (mantissa : Nat) (exponent : Int) : Binary64 :=
  let (numerator, denominator) := Binary64.scale (mantissa * Nat.pow 10 9) 1 (-exponent)
  Binary64.ofRatio negative numerator denominator

def timeOverflow : Fault := ⟨.overflow, "timestamp too large to convert to C _PyTime_t"⟩

/-- Waits for a number of seconds. A number that is none, too large or below zero is refused. -/
def sleep : Binary64 → Except Fault Unit
  | .nan => .error ⟨.value, "Invalid value NaN (not a number)"⟩
  | .infinite _ => .error timeOverflow
  | .finite negative mantissa exponent =>
    match (nanoseconds negative mantissa exponent).truncate? with
    | none => .error timeOverflow
    | some time =>
      if time < -timeLimit ∨ timeLimit ≤ time then .error timeOverflow
      else if negative ∧ mantissa ≠ 0 then .error ⟨.value, "sleep length must be non-negative"⟩
      else .ok ()

/-! Repeating. -/

/-- What an attempt does, by its number and the requests before it. -/
abbrev Attempt := Nat → List Request → Exchange

/-- What `Retrying` is set up with: `stop_after_attempt`, `wait_fixed`, and the outcomes after which
another attempt is made. -/
structure Retrying.Policy where
  attempts : Nat
  delay : Binary64
  again : Outcome → Bool

namespace Retrying

variable (delay : Binary64) (again : Outcome → Bool) (attempt : Attempt)

/-- An attempt, and as many more as are left while their outcomes call for it. -/
def repeatFrom (number : Nat) (earlier : List Request) : (left : Nat) → Exchange
  | 0 => attempt number earlier
  | left + 1 =>
    let first := attempt number earlier
    if again first.outcome then
      match sleep delay with
      | .error fault => { first with outcome := .error fault }
      | .ok () => first.followedBy (repeatFrom (number + 1) (earlier ++ first.requests) left)
    else first

/-- Only the numbers of attempts tell how many were made before. -/
theorem repeatFrom_succ (number : Nat) (earlier : List Request) (left : Nat) :
    repeatFrom delay again attempt (number + 1) earlier left =
      repeatFrom delay again (fun number => attempt (number + 1)) number earlier left := by
  induction left generalizing number earlier with
  | zero => rfl
  | succ left ih => simp only [repeatFrom, ih]

end Retrying

/-- tenacity's `Retrying`, set up with `reraise`: the calls of an attempt by what its documentation
says of them. -/
structure Retrying where
  call : Retrying.Policy → Attempt → List Request → Exchange
  /-- An outcome that is not to be retried is what the calls come to. -/
  decided : ∀ policy attempt earlier, policy.again (attempt 1 earlier).outcome = false →
    call policy attempt earlier = attempt 1 earlier
  /-- `stop_after_attempt`: the exception of the last attempt is raised as it is. -/
  stopped : ∀ policy attempt earlier, policy.attempts ≤ 1 →
    call policy attempt earlier = attempt 1 earlier
  /-- `wait_fixed`, where the wait is refused. -/
  refused : ∀ policy attempt earlier fault, policy.again (attempt 1 earlier).outcome = true →
    1 < policy.attempts → sleep policy.delay = .error fault →
      call policy attempt earlier = { attempt 1 earlier with outcome := .error fault }
  /-- `wait_fixed`: behind the wait there is one attempt less, and the next one has the next
  number. -/
  waited : ∀ policy attempt earlier, policy.again (attempt 1 earlier).outcome = true →
    1 < policy.attempts → sleep policy.delay = .ok () →
      call policy attempt earlier = (attempt 1 earlier).followedBy
        (call { policy with attempts := policy.attempts - 1 } (fun number => attempt (number + 1))
          (earlier ++ (attempt 1 earlier).requests))

namespace Retrying

/-- A loop that does what is documented. -/
def loop : Retrying where
  call policy attempt earlier :=
    repeatFrom policy.delay policy.again attempt 1 earlier (policy.attempts - 1)
  decided policy attempt earlier final := by
    cases policy.attempts - 1 <;> simp [repeatFrom, final]
  stopped policy attempt earlier single := by
    rw [Nat.sub_eq_zero_of_le single, repeatFrom]
  refused policy attempt earlier fault again several slept := by
    obtain ⟨left, more⟩ : ∃ left, policy.attempts - 1 = left + 1 := ⟨policy.attempts - 2, by omega⟩
    simp only [more, repeatFrom, again, slept, if_true]
  waited policy attempt earlier again several slept := by
    obtain ⟨left, more⟩ : ∃ left, policy.attempts - 1 = left + 1 := ⟨policy.attempts - 2, by omega⟩
    rw [more, repeatFrom, if_pos again, slept, repeatFrom_succ]
    rfl

end Retrying
end MavenResolution.Http
