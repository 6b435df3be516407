/-
# How often and when an attempt is repeated

The delay doubles with each retry, sixteen times at most, and no delay is longer than
the policy allows, not even one that the server asks for.

All retries of a run are counted together, whatever their causes, and no chance is
involved: the delay before a retry is known from the policy, the count and the response.
-/
import PlainLink.Retry.Cause
import PlainLink.Time.Duration

namespace PlainLink

/-- A budget of retries, and the delays before them. -/
structure RetryPolicy where
  /-- Retries after the first attempt. -/
  maxRetries : Nat := 0
  /-- The delay before the first retry. -/
  baseDelay : Duration := .ofMillis 250
  /-- No delay is longer. -/
  maxDelay : Duration := .ofSeconds 30
  deriving DecidableEq, Repr

namespace RetryPolicy

/-- How often the delay doubles at most. -/
def maxDoublings : Nat := 16

/-- The delay before a retry; the first retry has number 1. -/
def backoff (p : RetryPolicy) (retry : Nat) : Duration :=
  (p.baseDelay.times (Nat.pow 2 (min (retry - 1) maxDoublings))).atMost p.maxDelay

theorem backoff_le (p : RetryPolicy) (retry : Nat) :
    (p.backoff retry).nanos ≤ p.maxDelay.nanos :=
  Nat.min_le_right _ _

/-- A delay that the server asks for, shortened to what the policy allows. -/
def clamp (p : RetryPolicy) (requested : Duration) : Duration :=
  requested.atMost p.maxDelay

theorem clamp_le (p : RetryPolicy) (requested : Duration) :
    (p.clamp requested).nanos ≤ p.maxDelay.nanos :=
  Nat.min_le_right _ _

/-- The delay before the next retry, after `done` retries; `none` if there is to be none. -/
def next? (p : RetryPolicy) (done : Nat) (cause : Cause) : Option Duration :=
  if p.maxRetries ≤ done || cause == .other then none
  else some (p.backoff (done + 1))

/-- There is a next retry exactly while the budget lasts and the cause is
one that is repeated. -/
theorem next?_eq_none_iff {p : RetryPolicy} {done : Nat} {cause : Cause} :
    p.next? done cause = none ↔ p.maxRetries ≤ done ∨ cause = .other := by
  unfold next?
  split
  · next h => simpa using h
  · next h => simpa using h

theorem next?_eq_some_iff {p : RetryPolicy} {done : Nat} {cause : Cause} {delay : Duration} :
    p.next? done cause = some delay ↔
      done < p.maxRetries ∧ cause ≠ .other ∧ p.backoff (done + 1) = delay := by
  unfold next?
  split
  · next h =>
      rcases (by simpa using h : p.maxRetries ≤ done ∨ cause = .other) with hspent | hother
      · simp [Nat.not_lt.2 hspent]
      · simp [hother]
  · next h =>
      obtain ⟨hleft, hcause⟩ : done < p.maxRetries ∧ cause ≠ .other := by simpa using h
      simp [hleft, hcause]

end RetryPolicy

end PlainLink
