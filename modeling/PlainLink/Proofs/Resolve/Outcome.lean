/-
# What a result says about its run

A run ends by its last attempt, but what the result means lies in all of them: how many
retries were made, and how many targets came up.  `Justifies` reads each kind of result
off the recorded attempts alone, without the state of the loop:

    an answer            the last response is not repeated, and names no target or the URL itself
    a rejected text      cleaning refuses it; it is the last target, or the first text of the run
    a failed transfer    the last reply is the fault, and all retries were made or none
                         would help
    a bad status         the last response has it, and all retries were made
    too many targets     one more came up than may be followed

Each of the exits of an attempt is one of `Leads`, and the counters of the state count
the attempts before it, so the last attempt of a path justifies the result that it gives
(`Reaches.justifies`).

Main statement: `run_justifies_result`.
-/
import PlainLink.Proofs.Resolve.Reach

namespace PlainLink.Resolver

instance (r : Resolver) (status : Nat) : Decidable (r.repeats status) :=
  inferInstanceAs (Decidable (_ ∧ _))

/-! ## Targets -/

/-- The target that came up in an attempt: its response is not repeated and redirects. -/
def target? (r : Resolver) (a : Attempt) : Option Text :=
  match a.reply with
  | .ok response =>
    if r.repeats response.status then none else r.redirect? a.request.url response
  | .error _ => none

/-- The targets that came up in a row of attempts. -/
def targets (r : Resolver) (attempts : List Attempt) : List Text :=
  attempts.filterMap r.target?

variable {r : Resolver} {s t : RunState} {before : List Attempt}

theorem target?_of_redirect {response : Response} {target : Text}
    (hreply : (r.attempt s).reply = .ok response) (hstatus : ¬ r.repeats response.status)
    (htarget : r.redirect? s.current response = some target) :
    r.target? (r.attempt s) = some target := by
  rw [target?, hreply]
  dsimp only
  rw [if_neg hstatus, attempt_request_url, htarget]

theorem target?_of_isRetry (h : (r.attempt s).step.isRetry) :
    r.target? (r.attempt s) = none := by
  have hleads := r.attempt_leads s
  cases hreply : (r.attempt s).reply with
  | error f => rw [target?, hreply]
  | ok response =>
      rw [hreply] at hleads
      generalize (r.attempt s).step = step at h hleads
      cases hleads with
      | statusRetried hstatus _ _ => rw [target?, hreply]; exact if_pos hstatus
      | _ => cases h

theorem target?_of_isFollow (h : (r.attempt s).step.isFollow) :
    ∃ target, r.target? (r.attempt s) = some target := by
  have hleads := r.attempt_leads s
  generalize hreply : (r.attempt s).reply = reply, (r.attempt s).step = step at h hleads
  cases hleads with
  | followed hstatus htarget _ _ _ => exact ⟨_, target?_of_redirect hreply hstatus htarget⟩
  | _ => cases h

theorem targets_append_attempt (r : Resolver) (before : List Attempt) (a : Attempt) :
    r.targets (before ++ [a]) = r.targets before ++ (r.target? a).toList := by
  rw [targets, targets, List.filterMap_append]
  cases h : r.target? a with
  | none => simp [h]
  | some target => simp [h]

theorem Reaches.targets_length (h : r.Reaches s before t) :
    (r.targets before).length = before.countP (·.step.isFollow) := by
  induction h with
  | start => rfl
  | @next before t _ hgoes ih =>
      rw [targets_append_attempt, List.length_append, ih, List.countP_append,
        List.countP_singleton]
      cases hstep : (r.attempt t).step with
      | finish result => rw [hstep] at hgoes; cases hgoes
      | retry delay =>
          rw [target?_of_isRetry (by rw [hstep]; rfl)]
          rfl
      | follow target next =>
          obtain ⟨target, htarget⟩ := target?_of_isFollow (r := r) (s := t) (by rw [hstep]; rfl)
          rw [htarget]
          rfl

/-! ## Results -/

/-- What a row of attempts shows about the result of the run for a text. -/
def Justifies (r : Resolver) (url : Text) (attempts : List Attempt) :
    Except ResolveError Text → Prop
  | .ok final => ∃ before last response,
      attempts = before ++ [last] ∧ last.request.url.text = final ∧
      last.transfer.isSome ∧ last.reply = .ok response ∧ ¬ r.repeats response.status ∧
      match location? response with
      | some location => Text.requote (last.request.url.locate location) = final
      | none => r.options.readsPages = false ∨
          pageTarget? r.store.bodyRules last.request.url response = none
  | .error (.connect final fault) => ∃ before last,
      attempts = before ++ [last] ∧ last.request.url.text = final ∧ last.reply = .error fault ∧
      (Cause.ofFault fault = .other ∨
        before.countP (·.step.isRetry) = r.options.retry.maxRetries)
  | .error (.maxRetries final status) => ∃ before last response,
      attempts = before ++ [last] ∧ last.request.url.text = final ∧
      last.reply = .ok response ∧ response.status = status ∧
      status ∈ r.options.repeatedStatuses ∧ 0 < r.options.retry.maxRetries ∧
      before.countP (·.step.isRetry) = r.options.retry.maxRetries
  | .error (.tooManyRedirects final most) =>
      most = r.options.maxRedirects ∧
      (r.targets attempts).length = r.options.maxRedirects + 1 ∧
      ∃ target, (r.targets attempts).getLast? = some target ∧ r.cleaned target = .ok final
  | .error (.rejected e) =>
      let latest := (r.targets attempts).getLast?.getD url
      r.cleaned latest = .error e ∨
        ∃ cleaned, r.cleaned latest = .ok cleaned ∧ Url.parse cleaned = .error e

/-- A response that redirects to nothing names the current URL or no target at all. -/
theorem of_redirect?_eq_none {current : Url} {response : Response}
    (h : r.redirect? current response = none) :
    match location? response with
    | some location => Text.requote (current.locate location) = current.text
    | none => r.options.readsPages = false ∨
        pageTarget? r.store.bodyRules current response = none := by
  unfold redirect? at h
  cases hlocation : location? response with
  | some location =>
      rw [hlocation] at h
      dsimp only at h ⊢
      split at h
      · next hsame => exact hsame
      · cases h
  | none =>
      rw [hlocation] at h
      have hpage : r.inPage? current response = none := Option.map_eq_none_iff.1 h
      dsimp only
      unfold inPage? at hpage
      split at hpage
      · exact .inr hpage
      · next hreads => exact .inl (Bool.not_eq_true _ ▸ hreads)

/-- The last attempt of a path justifies the result that it gives. -/
theorem Reaches.justifies {url : Text} {result : Except ResolveError Text}
    (hreach : r.Reaches s before t) (hs : s.retries = 0) (hs' : s.redirects = 0)
    (hend : (r.attempt t).step = .finish result) :
    r.Justifies url (before ++ [r.attempt t]) result := by
  have hretries := hreach.retries_eq
  have hretries_le := hreach.retries_le (by omega)
  have hredirects := hreach.redirects_eq
  have hredirects_le := hreach.redirects_le (by omega)
  have hlength := hreach.targets_length
  have hleads := r.attempt_leads t
  generalize hreply : (r.attempt t).reply = reply at hleads
  rw [hend] at hleads
  cases hleads with
  | faultFinal hfinal =>
      refine ⟨before, _, rfl, by rw [attempt_request_url], hreply, ?_⟩
      rcases hfinal with hspent | hother
      · exact .inr (by omega)
      · exact .inl hother
  | statusFinal hstatus hspent =>
      exact ⟨before, _, _, rfl, by rw [attempt_request_url], hreply, rfl, hstatus.1, hstatus.2,
        by omega⟩
  | arrived hstatus hnone =>
      refine ⟨before, _, _, rfl, by rw [attempt_request_url],
        transfer_isSome_of_reply hreply, hreply, hstatus, ?_⟩
      rw [attempt_request_url]
      exact of_redirect?_eq_none hnone
  | targetRejected hstatus htarget herror =>
      refine .inl ?_
      rw [targets_append_attempt, target?_of_redirect hreply hstatus htarget]
      simpa using herror
  | redirectsSpent hstatus htarget hcleaned hspent =>
      rw [Justifies, targets_append_attempt, target?_of_redirect hreply hstatus htarget]
      refine ⟨rfl, ?_, _, by simp, hcleaned⟩
      rw [List.length_append, hlength, Option.toList_some, List.length_singleton]
      omega
  | cleanedRejected hstatus htarget hcleaned _ herror =>
      refine .inr ⟨_, ?_, herror⟩
      rw [targets_append_attempt, target?_of_redirect hreply hstatus htarget]
      simpa using hcleaned

theorem start_eq_error {url : Text} {e : CleanError} (h : r.start url = .error e) :
    r.cleaned url = .error e ∨
      ∃ cleaned, r.cleaned url = .ok cleaned ∧ Url.parse cleaned = .error e := by
  unfold start at h
  cases hclean : r.cleaned url with
  | error e' => rw [hclean] at h; cases h; exact .inl rfl
  | ok cleaned =>
      cases hparse : Url.parse cleaned with
      | error e' =>
          obtain rfl : e' = e := by simpa [hclean, hparse, bind, Except.bind] using h
          exact .inr ⟨cleaned, rfl, hparse⟩
      | ok current => simp [hclean, hparse, bind, Except.bind, pure, Except.pure] at h

/-- The attempts of a run justify its result, whatever the network answers. -/
theorem run_justifies_result (r : Resolver) (url : Text) :
    r.Justifies url (r.run url).attempts (r.run url).result := by
  cases hstart : r.start url with
  | error e =>
      rw [run_of_start_eq_error hstart]
      exact start_eq_error hstart
  | ok s =>
      obtain ⟨hs, hs', -⟩ := start_eq_ok hstart
      obtain ⟨before, t, result, hreach, hend, hrun⟩ := r.proceed_reaches s
      rw [run_of_start_eq_ok hstart, hrun]
      exact hreach.justifies hs hs' hend

end PlainLink.Resolver
