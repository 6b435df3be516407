/-
# Following a URL to its end

A URL is cleaned and requested, and so is the target of every redirection, until a
response names no further one.  One budget of retries and one jar of cookies serve the
whole run.  A run is recorded attempt by attempt: what was asked, what came back, and
what was done about it.

That a run ends is not a matter of what the network answers.  Each attempt but the last
takes one from what is left of the two budgets (`left_after_lt`), and the recursion is
on that.
-/
import PlainLink.Resolve.Attempt

namespace PlainLink

/-- A run: its attempts, and how it ended. -/
structure Run where
  attempts : List Attempt
  result : Except ResolveError Text

namespace Run

/-- The transfers that were performed. -/
def transfers (run : Run) : List Transfer :=
  run.attempts.filterMap (·.transfer)

def delays (run : Run) : List Duration :=
  run.attempts.filterMap fun a =>
    match a.step with
    | .retry delay => some delay
    | _ => none

end Run

namespace Resolver

/-- What is left of the two budgets.  Each attempt but the last takes one from it. -/
def left (r : Resolver) (s : RunState) : Nat :=
  (r.options.maxRedirects - s.redirects) + (r.options.retry.maxRetries - s.retries)

theorem left_after_lt {r : Resolver} {s : RunState} (h : (r.attempt s).step.continues) :
    r.left (r.after s (r.attempt s)) < r.left s := by
  unfold left
  rw [after_redirects, after_retries]
  cases hstep : (r.attempt s).step with
  | finish result => simp [hstep, Step.continues] at h
  | retry delay =>
      have hroom := retries_lt_of_isRetry (r := r) (s := s) (by rw [hstep]; rfl)
      simp only [Step.isRetry, Step.isFollow, if_true, Bool.false_eq_true, if_false]
      omega
  | follow target next =>
      have hroom := redirects_lt_of_isFollow (r := r) (s := s) (by rw [hstep]; rfl)
      simp only [Step.isRetry, Step.isFollow, if_true, Bool.false_eq_true, if_false]
      omega

/-- Goes on from a state until an attempt ends the run. -/
def proceed (r : Resolver) (s : RunState) : Run :=
  let a := r.attempt s
  match _step : a.step with
  | .finish result => ⟨[a], result⟩
  | .retry _ | .follow _ _ =>
    let rest := proceed r (r.after s a)
    ⟨a :: rest.attempts, rest.result⟩
termination_by r.left s
decreasing_by all_goals exact left_after_lt (by simp [a, Step.continues, _step])

/-- Where the run for a text begins. -/
def start (r : Resolver) (url : Text) : Except CleanError RunState := do
  let current ← Url.parse (← r.cleaned url)
  return { current, jar := .empty (r.options.policy r.store) }

def run (r : Resolver) (url : Text) : Run :=
  match r.start url with
  | .ok s => r.proceed s
  | .error e => ⟨[], .error (.rejected e)⟩

end Resolver

end PlainLink
