/-
# How long a run waits

All retries of a run are counted together, whether the network failed or a status came
back, and whatever redirections were followed between them.  The count alone gives the
delay before the next one, unless the response that is repeated asks for another; and
neither the server's number nor a large budget makes any step of the computation leave
the words of the machine.

So three things are put together here: what the policy says of the delay after `k`
retries (`RetryPolicy.exactNanos`), that the state of a run counts its retries, and that
the same delay comes out of a computation with checked operations on words
(`RetryPolicy.Words.next?`).  A server can ask for a delay by a number or by a date, and
with a clock that shows a time of the calendar neither is more than a span can hold
(`retryAfter?_le`).

Main statement: `run_delays_exact`.
-/
import PlainLink.Proofs.Resolve.Reach
import PlainLink.Proofs.Retry.Words
import PlainLink.Proofs.Text.Digits

namespace PlainLink

/-! ## What a server can ask for -/

/-- The last part of a date that is read lies in the calendar, and at most in a leap second. -/
theorem Instant.ofDate?_le {d : Date} {t : TimeOfDay} {offset : Int} {weekday : Option Weekday}
    {i : Instant} (h : Instant.ofDate? d t offset weekday = some i) :
    i.seconds ≤ Instant.lastSecond ∧ i.nanos ≤ nanosPerSecond := by
  unfold Instant.ofDate? at h
  split at h
  · cases hsecond : if t.second = 60 then (59, nanosPerSecond) else (t.second, 0) with
    | mk second nanos =>
      have hnanos : nanos ≤ nanosPerSecond := by
        split at hsecond
        · cases hsecond
          exact Nat.le_refl _
        · cases hsecond
          exact Nat.zero_le _
      rw [hsecond] at h
      dsimp only at h
      split at h
      · next hrange =>
        cases h
        exact ⟨of_decide_eq_true (Bool.and_eq_true_iff.1 hrange).2, hnanos⟩
      · cases h
  · cases h

theorem Time.mailDate?_le {t : Text} {i : Instant} (h : Time.mailDate? t = some i) :
    i.seconds ≤ Instant.lastSecond ∧ i.nanos ≤ nanosPerSecond := by
  unfold Time.mailDate? at h
  -- Each part of the date is a bind of its own, and the last one leaves a pair.
  iterate 13 obtain ⟨_, -, h⟩ := Option.bind_eq_some_iff.1 h
  split at h
  split at h
  · cases h
  · exact Instant.ofDate?_le h

/-- What passes between two instants of the calendar is less than the longest span. -/
theorem Instant.nanosSince_le {a start : Instant}
    (hstart : Instant.first.seconds ≤ start.seconds)
    (hseconds : a.seconds ≤ Instant.lastSecond) (hnanos : a.nanos ≤ nanosPerSecond) :
    a.nanosSince start ≤ Duration.longest.nanos := by
  have hlongest : Duration.longest.nanos = 18446744073709551616 * 1000000000 - 1 := rfl
  have hstart : (-8334601228800 : Int) ≤ start.seconds := hstart
  have hseconds : a.seconds ≤ 8210266876799 := hseconds
  have hnanos : a.nanos ≤ 1000000000 := hnanos
  unfold Instant.nanosSince
  dsimp only [nanosPerSecond]
  rw [hlongest]
  omega

/-- A server cannot ask for more than the longest span, neither by a number nor by a date. -/
theorem retryAfter?_le {value : Text} {now : Instant} {asked : Duration}
    (hnow : Instant.first.seconds ≤ now.seconds) (h : retryAfter? value now = some asked) :
    asked.nanos ≤ Duration.longest.nanos := by
  unfold retryAfter? at h
  dsimp only at h
  split at h
  · next seconds hseconds =>
    cases h
    obtain ⟨-, -, -, -, -, -, -, hle⟩ := Text.natUpTo?_eq_some_iff.1 hseconds
    have hmost : seconds ≤ 18446744073709551615 := hle
    show seconds * 1000000000 ≤ 18446744073709551616 * 1000000000 - 1
    omega
  · obtain ⟨date, hdate, rfl⟩ := Option.map_eq_some_iff.1 h
    obtain ⟨hseconds, hnanos⟩ := Time.mailDate?_le hdate
    exact Int.toNat_le.2 (Instant.nanosSince_le hnow hseconds hnanos)

/-- The delay that a reply asks for by the first header field for it.  A
fault asks for none. -/
def askedDelay? (now : Instant) : Except Fault Response → Option Duration
  | .ok response => (response.headers.first? "retry-after".toList).bind (retryAfter? · now)
  | .error _ => none

theorem askedDelay?_le {now : Instant} {reply : Except Fault Response} {asked : Duration}
    (hnow : Instant.first.seconds ≤ now.seconds) (h : askedDelay? now reply = some asked) :
    asked.nanos ≤ Duration.longest.nanos := by
  cases reply with
  | error f => cases h
  | ok response =>
      obtain ⟨value, -, hvalue⟩ := Option.bind_eq_some_iff.1 h
      exact retryAfter?_le hnow hvalue

namespace Resolver

variable {r : Resolver}

/-! ## One retry -/

/-- Before a response is repeated as long is waited as it asks for, or else as its number
among the retries says. -/
theorem nanos_delay (hmost : r.options.retry.maxDelay.nanos ≤ Duration.longest.nanos)
    (now : Instant) (response : Response) (done : Nat) :
    (r.delay now response (r.options.retry.backoff (done + 1))).nanos =
      r.options.retry.exactNanos done (askedDelay? now (.ok response)) := by
  have hasked : (response.headers.first? "retry-after".toList).bind (retryAfter? · now) =
      askedDelay? now (.ok response) := rfl
  unfold Resolver.delay
  rw [hasked]
  cases askedDelay? now (.ok response) with
  | none => exact RetryPolicy.nanos_backoff hmost done
  | some asked => rfl

theorem retry_waits {s : RunState} {delay : Duration}
    (hmost : r.options.retry.maxDelay.nanos ≤ Duration.longest.nanos)
    (h : (r.attempt s).step = .retry delay) :
    s.retries < r.options.retry.maxRetries ∧
      delay.nanos = r.options.retry.exactNanos s.retries
        (askedDelay? (r.network s.attempts).delayedAt (r.attempt s).reply) := by
  have hleads := r.attempt_leads s
  rw [h] at hleads
  generalize (r.attempt s).reply = reply at hleads
  cases hleads with
  | faultRetried hleft _ hdelay =>
      exact ⟨hleft, hdelay ▸ RetryPolicy.nanos_backoff hmost s.retries⟩
  | statusRetried _ hleft hdelay => exact ⟨hleft, hdelay ▸ nanos_delay hmost _ _ s.retries⟩

/-! ## The retries of a run -/

/-- What is at a place of a list that was made from another one comes from an element there,
with as many elements before it that something was made from. -/
theorem exists_of_getElem?_filterMap {α β : Type} {f : α → Option β} {p : α → Bool}
    (hf : ∀ a, (f a).isSome = p a) {l : List α} {k : Nat} {b : β}
    (h : (l.filterMap f)[k]? = some b) :
    ∃ front a behind, l = front ++ a :: behind ∧ f a = some b ∧ front.countP p = k := by
  obtain ⟨hk, hb⟩ := List.getElem?_eq_some_iff.1 h
  have hcut : l.filterMap f = (l.filterMap f).take k ++ b :: (l.filterMap f).drop (k + 1) := by
    rw [← hb, List.cons_getElem_drop_succ, List.take_append_drop]
  obtain ⟨start, more, rfl, hstart, hmore⟩ := List.filterMap_eq_append_iff.1 hcut
  obtain ⟨passed, a, behind, rfl, hpassed, ha, -⟩ := List.filterMap_eq_cons_iff.1 hmore
  refine ⟨start ++ passed, a, behind, (List.append_assoc ..).symm, ha, ?_⟩
  have hlength : ((start ++ passed).filterMap f).length = k := by
    rw [List.filterMap_append, hstart, List.filterMap_eq_nil_iff.2 hpassed, List.append_nil,
      List.length_take]
    omega
  rw [← hlength, List.length_filterMap_eq_countP]
  exact congrArg (List.countP · _) (funext fun a => (hf a).symm)

theorem exists_retry_of_delays {run : Run} {k : Nat} {delay : Duration}
    (h : run.delays[k]? = some delay) :
    ∃ front a behind, run.attempts = front ++ a :: behind ∧ a.step = .retry delay ∧
      front.countP (·.step.isRetry) = k := by
  obtain ⟨front, a, behind, hcut, ha, hk⟩ := exists_of_getElem?_filterMap
    (p := fun a : Attempt => a.step.isRetry) (fun a => by cases a.step <;> rfl) h
  refine ⟨front, a, behind, hcut, ?_, hk⟩
  cases hstep : a.step with
  | retry found => rw [hstep] at ha; cases ha; rfl
  | _ => rw [hstep] at ha; cases ha

/-- Every delay of a run is exact.  There are at most as many as the budget allows retries.
The one at place `k`, after `k` retries from any cause, is waited by an attempt with as many
retries before it; it is what the reply asks for in its first header field for that or, if
nothing can be read there or the transfer failed, the first delay doubled `k` times but no
more than sixteen, and in neither case more than the policy allows.  The machine computes it,
and counts the retry, from the numbers of the policy in words without an overflow.  Doubled
delays do not fall, and while the clock shows a time of the calendar, what a server can ask
for is held by words too. -/
theorem run_delays_exact {r : Resolver} {p : RetryPolicy.Words} (hp : r.options.retry = p.policy)
    (url : Text) :
    (r.run url).delays.length ≤ p.maxRetries.toNat ∧
    (∀ k delay, (r.run url).delays[k]? = some delay →
      ∃ front a behind, (r.run url).attempts = front ++ a :: behind ∧ a.step = .retry delay ∧
        front.countP (·.step.isRetry) = k ∧
        let asked := askedDelay? (r.network front.length).delayedAt a.reply
        delay.nanos = p.policy.exactNanos k asked ∧ delay.nanos ≤ p.maxDelay.duration.nanos ∧
        ∃ done : BitVec 32, done.toNat = k ∧
          ∀ held : Option Duration.Words, held.map (·.duration) = asked →
            ∃ retry w, p.next? done held = some (retry, w) ∧ retry.toNat = k + 1 ∧
              w.duration = delay) ∧
    (∀ i j, i ≤ j → p.policy.exactNanos i none ≤ p.policy.exactNanos j none) ∧
    ∀ now reply asked, Instant.first.seconds ≤ now.seconds → askedDelay? now reply = some asked →
      ∃ held : Duration.Words, held.duration = asked := by
  have hmost : r.options.retry.maxDelay.nanos ≤ Duration.longest.nanos :=
    hp ▸ p.maxDelay.duration_le
  have hdelays (k : Nat) (delay : Duration) (h : (r.run url).delays[k]? = some delay) :
      ∃ front a behind, (r.run url).attempts = front ++ a :: behind ∧ a.step = .retry delay ∧
        front.countP (·.step.isRetry) = k ∧ k < p.maxRetries.toNat ∧
        delay.nanos =
          p.policy.exactNanos k (askedDelay? (r.network front.length).delayedAt a.reply) := by
    obtain ⟨front, a, behind, hcut, hstep, hk⟩ := exists_retry_of_delays h
    obtain ⟨s, t, hstart, hreach, rfl, -⟩ := run_cut hcut
    obtain ⟨hroom, hnanos⟩ := retry_waits hmost hstep
    have hretries : t.retries = k := by
      rw [hreach.retries_eq, (start_eq_ok hstart).1, Nat.zero_add, hk]
    have hattempts : t.attempts = front.length := by
      rw [hreach.attempts_eq, (start_state hstart).1, Nat.zero_add]
    rw [hp, hretries] at hroom
    rw [hp, hretries, hattempts] at hnanos
    exact ⟨front, _, behind, hcut, hstep, hk, hroom, hnanos⟩
  refine ⟨?_, ?_, fun i j => p.policy.exactNanos_mono, ?_⟩
  · refine Nat.le_of_not_lt fun hlong => ?_
    obtain ⟨_, _, _, -, -, -, hroom, -⟩ := hdelays _ _ (List.getElem?_eq_getElem hlong)
    exact Nat.lt_irrefl _ hroom
  · intro k delay h
    obtain ⟨front, a, behind, hcut, hstep, hk, hroom, hnanos⟩ := hdelays k delay h
    have hdone : (BitVec.ofNat 32 k).toNat = k := by
      rw [BitVec.toNat_ofNat, Nat.mod_eq_of_lt (Nat.lt_trans hroom p.maxRetries.isLt)]
    have hle : delay.nanos ≤ p.maxDelay.duration.nanos := by
      rw [hnanos]
      exact p.policy.exactNanos_le k _
    refine ⟨front, a, behind, hcut, hstep, hk, hnanos, hle, _, hdone, fun held hheld => ?_⟩
    obtain ⟨retry, w, hnext, hcount, hw⟩ := p.next?_exact (hdone.symm ▸ hroom) held
    rw [hdone] at hcount hw
    refine ⟨retry, w, hnext, hcount, ?_⟩
    have hsame : w.duration.nanos = delay.nanos := by rw [hw, hheld, hnanos]
    exact congrArg Duration.mk hsame
  · intro now reply asked hnow hasked
    exact Duration.Words.exists_words (askedDelay?_le hnow hasked)

/-- Four retries, the first after a second and none after more than the longest span. -/
def longPolicy : RetryPolicy.Words :=
  ⟨4, ⟨1, 0, by decide⟩, .longest⟩

/-- A resolver with that policy.  The host asks for as many seconds as a number can tell, then
does not answer, then redirects, and what it redirects to is busy. -/
def asksForLong : Resolver where
  store := .empty
  options := { retry := longPolicy.policy }
  network := .ofList
    [{ status := 503, lines := ["Retry-After: 18446744073709551615".toUTF8.toList] },
      { fault := some .timeout }, { status := 302, lines := ["Location: /b".toUTF8.toList] },
      { status := 429, lines := ["Retry-After: soon".toUTF8.toList] }, {}] {} ⟨0, 0⟩

/-- The retry after the redirection is the third of its run. -/
theorem asksForLong_delays :
    asksForLong.options.retry = longPolicy.policy ∧
    (asksForLong.run "http://a.example/".toList).delays =
      [.ofSeconds 18446744073709551615, .ofSeconds 2, .ofSeconds 4] ∧
    ∃ front a behind, (asksForLong.run "http://a.example/".toList).attempts =
      front ++ a :: behind ∧
      a.step = .retry (.ofSeconds 4) ∧ front.countP (·.step.isRetry) = 2 := by
  have hdelays : (asksForLong.run "http://a.example/".toList).delays =
      [.ofSeconds 18446744073709551615, .ofSeconds 2, .ofSeconds 4] := by decide +kernel
  have hthird :
      (asksForLong.run "http://a.example/".toList).delays[2]? = some (.ofSeconds 4) := by
    rw [hdelays]
    rfl
  obtain ⟨front, a, behind, hcut, hstep, hcount, -⟩ :=
    (run_delays_exact rfl "http://a.example/".toList).2.1 2 (.ofSeconds 4) hthird
  exact ⟨rfl, hdelays, front, a, behind, hcut, hstep, hcount⟩

end Resolver

end PlainLink
