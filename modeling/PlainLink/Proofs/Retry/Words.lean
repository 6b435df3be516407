/-
# Delays in machine words

The budget of retries and their count are words of 32 bits, the spans of a policy spans
in words.  The delay before a retry is computed here by checked operations only, and
comes out as the policy says.

    doublings    how often the delay is doubled, sixteen times at most
    backoff?     the delay that the policy gives
    next?        the count with the next retry, and the delay before it

A checked operation has no result where it would overflow, so that the whole computation
has one only if no step of it wrapped.  It does have one (`next?_exact`): multiples of a
span stop at the longest span before they overflow.
-/
import PlainLink.Retry.Policy
import PlainLink.Proofs.Time.Words

namespace PlainLink.RetryPolicy

/-- The nanoseconds that are waited after `done` retries: what is asked for or, if nothing is,
the first delay doubled that many times, and neither more than the policy allows. -/
def exactNanos (p : RetryPolicy) (done : Nat) : Option Duration → Nat
  | some asked => min asked.nanos p.maxDelay.nanos
  | none => min (p.baseDelay.nanos * 2 ^ min done 16) p.maxDelay.nanos

theorem exactNanos_le (p : RetryPolicy) (done : Nat) (asked : Option Duration) :
    p.exactNanos done asked ≤ p.maxDelay.nanos := by
  cases asked <;> exact Nat.min_le_right _ _

/-- Where nothing is asked for, no delay is shorter than one before it. -/
theorem exactNanos_mono (p : RetryPolicy) {done later : Nat} (h : done ≤ later) :
    p.exactNanos done none ≤ p.exactNanos later none := by
  have hdoublings : min done 16 ≤ min later 16 := by omega
  have hpower : 2 ^ min done 16 ≤ 2 ^ min later 16 := Nat.pow_le_pow_right (by decide) hdoublings
  have hproduct := Nat.mul_le_mul_left p.baseDelay.nanos hpower
  show min _ p.maxDelay.nanos ≤ min _ p.maxDelay.nanos
  omega

/-- That multiples stop at the longest span does not matter: no delay is longer
than a span can be. -/
theorem nanos_backoff {p : RetryPolicy} (h : p.maxDelay.nanos ≤ Duration.longest.nanos)
    (done : Nat) :
    (p.backoff (done + 1)).nanos = p.exactNanos done none := by
  show min (min (p.baseDelay.nanos * 2 ^ min done 16) Duration.longest.nanos) p.maxDelay.nanos =
    min (p.baseDelay.nanos * 2 ^ min done 16) p.maxDelay.nanos
  rw [Nat.min_assoc, Nat.min_eq_right h]

structure Words where
  maxRetries : BitVec 32
  baseDelay : Duration.Words
  maxDelay : Duration.Words

namespace Words

def policy (p : Words) : RetryPolicy :=
  ⟨p.maxRetries.toNat, p.baseDelay.duration, p.maxDelay.duration⟩

/-- How often the delay is doubled before a retry; there is no retry before the first. -/
def doublings (retry : BitVec 32) : Nat :=
  min (if retry = 0 then 0 else retry - 1).toNat 16

theorem doublings_eq (retry : BitVec 32) :
    doublings retry = min (retry.toNat - 1) maxDoublings := by
  unfold doublings
  split
  · next h =>
    rw [h]
    rfl
  · next h =>
    have hpositive : (1 : BitVec 32) ≤ retry := by bv_omega
    rw [BitVec.toNat_sub_of_le hpositive]
    rfl

/-- The delay before a retry, if no step of its computation overflows. -/
def backoff? (p : Words) (retry : BitVec 32) : Option Duration.Words := do
  let factor ← Word.shiftLeft? 1 (doublings retry)
  let multiple ← p.baseDelay.times? factor
  return multiple.atMost p.maxDelay

theorem backoff?_eq (p : Words) (retry : BitVec 32) :
    ∃ w, p.backoff? retry = some w ∧ w.duration = p.policy.backoff retry.toNat := by
  have hle : doublings retry ≤ 16 := Nat.min_le_right _ _
  have hfits : (1 : BitVec 32).toNat * 2 ^ doublings retry < 2 ^ 32 := by
    show 1 * 2 ^ doublings retry < 2 ^ 32
    rw [Nat.one_mul]
    exact Nat.pow_lt_pow_right (by decide) (Nat.lt_of_le_of_lt hle (by decide))
  obtain ⟨factor, hfactor, hvalue⟩ :=
    Word.shiftLeft?_of_lt (Nat.lt_of_le_of_lt hle (by decide)) hfits
  obtain ⟨multiple, hmultiple, hduration⟩ := p.baseDelay.times?_eq factor
  refine ⟨multiple.atMost p.maxDelay, ?_, ?_⟩
  · rw [backoff?, hfactor]
    show (p.baseDelay.times? factor).bind (fun multiple => some (multiple.atMost p.maxDelay)) = _
    rw [hmultiple]
    rfl
  · have hpower : factor.toNat = Nat.pow 2 (min (retry.toNat - 1) maxDoublings) := by
      rw [hvalue, doublings_eq]
      exact Nat.one_mul _
    rw [Duration.Words.duration_atMost, hduration, hpower]
    rfl

/-- The count of retries with the next one, and the delay before that, after `done` retries and
given what was asked for; if no step of the computation overflows. -/
def next? (p : Words) (done : BitVec 32) (asked : Option Duration.Words) :
    Option (BitVec 32 × Duration.Words) := do
  let retry ← Word.add? done 1
  let backoff ← p.backoff? retry
  return (retry, (asked.map (·.atMost p.maxDelay)).getD backoff)

/-- While the budget lasts nothing overflows, and the delay is exact. -/
theorem next?_exact (p : Words) {done : BitVec 32} (h : done.toNat < p.maxRetries.toNat)
    (asked : Option Duration.Words) :
    ∃ retry w, p.next? done asked = some (retry, w) ∧ retry.toNat = done.toNat + 1 ∧
      w.duration.nanos = p.policy.exactNanos done.toNat (asked.map (·.duration)) := by
  have hroom : done.toNat + 1 < 2 ^ 32 := Nat.lt_of_le_of_lt h p.maxRetries.isLt
  obtain ⟨retry, hretry, hcount⟩ := (Word.add?_exact done 1).exists_of_lt hroom
  obtain ⟨backoff, hbackoff, hduration⟩ := p.backoff?_eq retry
  have hnext : p.next? done asked =
      some (retry, (asked.map (·.atMost p.maxDelay)).getD backoff) := by
    rw [next?, hretry]
    show (p.backoff? retry).bind _ = _
    rw [hbackoff]
    rfl
  refine ⟨retry, _, hnext, hcount, ?_⟩
  cases asked with
  | none =>
      show backoff.duration.nanos = _
      rw [hduration, hcount]
      exact nanos_backoff p.maxDelay.duration_le _
  | some asked => exact congrArg Duration.nanos (asked.duration_atMost p.maxDelay)

end Words

end PlainLink.RetryPolicy
