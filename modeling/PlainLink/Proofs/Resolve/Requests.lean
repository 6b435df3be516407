/-
# Which URLs a run requests

The first request is for the cleaned text.  After that, each request either repeats the
one before, because that one failed in a way that is retried, or is for the cleaned form
of the target that the response to the one before named.  Nothing else is ever
requested, and what a run answers with was requested last.

`Succeeds` says of two attempts what has to be true for one to come right after the
other, in terms of what the first one got.  A path of a run is a chain of attempts under
it (`Reaches.isChain`), and what a transfer is set to is the URL of its request.

Main statement: `requests_follow_targets`.
-/
import Mathlib.Data.List.Chain
import PlainLink.Proofs.Http.Setups
import PlainLink.Proofs.Resolve.Reach

namespace PlainLink.Resolver

/-- The target that a response names: its first `Location`, else its first `Content-Location`,
else what the page says, if pages are read. -/
def named? (r : Resolver) (current : Url) (response : Response) : Option Text :=
  match location? response with
  | some location => some (current.locate location)
  | none =>
    if r.options.readsPages then pageTarget? r.store.bodyRules current response else none

/-- The attempt `b` may come right after the attempt `a`. -/
inductive Succeeds (r : Resolver) (a b : Attempt) : Prop
  | faultRetried {f : Fault} {delay : Duration} :
      a.reply = .error f → Cause.ofFault f ≠ .other → a.step = .retry delay →
      b.request.url = a.request.url → Succeeds r a b
  | statusRetried {response : Response} {delay : Duration} :
      a.reply = .ok response → r.repeats response.status → a.step = .retry delay →
      b.request.url = a.request.url → Succeeds r a b
  | followed {response : Response} {target cleaned : Text} :
      a.reply = .ok response → ¬ r.repeats response.status →
      r.named? a.request.url response = some target →
      a.step = .follow (Text.requote target) b.request.url →
      r.cleaned (Text.requote target) = .ok cleaned → Url.parse cleaned = .ok b.request.url →
      Succeeds r a b

variable {r : Resolver} {s t : RunState} {before : List Attempt}

/-- A target that is followed is the one that the response names, requoted once. -/
theorem named?_of_redirect? {current : Url} {response : Response} {target : Text}
    (h : r.redirect? current response = some target) :
    ∃ named, r.named? current response = some named ∧ Text.requote named = target := by
  unfold redirect? at h
  unfold named?
  cases hlocation : location? response with
  | none =>
      rw [hlocation] at h
      exact Option.map_eq_some_iff.1 h
  | some location =>
      rw [hlocation] at h
      dsimp only at h
      split at h
      · cases h
      · exact ⟨_, rfl, Option.some.inj h⟩

theorem succeeds_of_continues (h : (r.attempt s).step.continues) :
    r.Succeeds (r.attempt s) (r.attempt (r.after s (r.attempt s))) := by
  have hleads := r.attempt_leads s
  generalize hreply : (r.attempt s).reply = reply, hstep : (r.attempt s).step = step at h hleads
  have hagain (hretry : (r.attempt s).step.isRetry) :
      (r.attempt (r.after s (r.attempt s))).request.url = (r.attempt s).request.url := by
    rw [attempt_request_url, attempt_request_url, after_current_of_isRetry hretry]
  cases hleads with
  | faultRetried _ hcause _ =>
      exact .faultRetried hreply hcause hstep (hagain (by rw [hstep]; rfl))
  | statusRetried hstatus _ _ =>
      exact .statusRetried hreply hstatus hstep (hagain (by rw [hstep]; rfl))
  | followed hstatus htarget hcleaned _ hnext =>
      obtain ⟨named, hnamed, rfl⟩ := named?_of_redirect? htarget
      refine .followed hreply hstatus ?_ ?_ hcleaned ?_
      · rwa [attempt_request_url]
      · rw [attempt_request_url, after_current_of_follow hstep, hstep]
      · rw [attempt_request_url, after_current_of_follow hstep, hnext]
  | _ => cases h

/-- The attempts of a path, with the one that it leads to, come one after the other. -/
theorem Reaches.isChain (h : r.Reaches s before t) :
    (before ++ [r.attempt t]).IsChain r.Succeeds := by
  induction h with
  | start => exact .singleton _
  | next _ hgoes ih =>
      refine List.isChain_append.2 ⟨ih, .singleton _, ?_⟩
      simp only [List.getLast?_concat, List.head?_cons, Option.mem_some_iff]
      rintro _ rfl _ rfl
      exact succeeds_of_continues hgoes

theorem Reaches.head?_eq (h : r.Reaches s before t) :
    (before ++ [r.attempt t]).head? = some (r.attempt s) := by
  induction h with
  | start => rfl
  | next _ _ ih => rw [List.head?_append, ih]; rfl

/-- An answer is the URL of the attempt that gives it, and its transfer was performed. -/
theorem finish_ok_eq {final : Text} (h : (r.attempt s).step = .finish (.ok final)) :
    (r.attempt s).transfer.isSome ∧ s.current.text = final := by
  have hleads := r.attempt_leads s
  generalize hreply : (r.attempt s).reply = reply at hleads
  rw [h] at hleads
  cases hleads with
  | arrived _ _ => exact ⟨transfer_isSome_of_reply hreply, rfl⟩

theorem Reaches.exists_state (h : r.Reaches s before t) :
    ∀ a ∈ before ++ [r.attempt t], ∃ u, a = r.attempt u := by
  induction h with
  | start =>
      intro a ha
      exact ⟨s, List.mem_singleton.1 ha⟩
  | next _ _ ih =>
      intro a ha
      rcases List.mem_append.1 ha with hearlier | hlast
      · exact ih a hearlier
      · exact ⟨_, List.mem_singleton.1 hlast⟩

theorem start_toOption (r : Resolver) (url : Text) :
    (r.start url).toOption.map (·.current) =
      (r.cleaned url).toOption.bind fun cleaned => (Url.parse cleaned).toOption := by
  unfold start
  cases r.cleaned url with
  | error e => rfl
  | ok cleaned =>
      show (Except.toOption (do let current ← Url.parse cleaned; _)).map _ = _
      cases hparse : Url.parse cleaned with
      | error e => simp [Except.toOption, bind, Except.bind, hparse]
      | ok current => simp [Except.toOption, bind, Except.bind, pure, Except.pure, hparse]

/-- The first URL that a run requests is that of the cleaned text; each later one repeats the
one before it or is that of the cleaned target which the response before it named; what is sent
is the URL of the request; and the answer, if there is one, was requested last. -/
theorem requests_follow_targets (r : Resolver) (url : Text) :
    (∀ e, r.cleaned url = .error e → (r.run url).attempts = []) ∧
    ((r.run url).attempts.head?.map (·.request.url) =
      (r.cleaned url).toOption.bind fun cleaned => (Url.parse cleaned).toOption) ∧
    (r.run url).attempts.IsChain r.Succeeds ∧
    (∀ a ∈ (r.run url).attempts, ∀ transfer ∈ a.transfer,
      transfer.url = some a.request.url.text) ∧
    (∀ final, (r.run url).result = .ok final →
      ∃ last ∈ (r.run url).attempts.getLast?,
        last.transfer.isSome ∧ last.request.url.text = final) := by
  rw [← start_toOption]
  cases hstart : r.start url with
  | error e =>
      rw [run_of_start_eq_error hstart]
      refine ⟨fun _ _ => rfl, rfl, .nil, ?_, ?_⟩
      · intro a ha
        cases ha
      · intro final hfinal
        cases hfinal
  | ok s =>
      obtain ⟨-, -, cleaned, hcleaned, -⟩ := start_eq_ok hstart
      obtain ⟨before, t, result, hreach, hend, hrun⟩ := r.proceed_reaches s
      rw [run_of_start_eq_ok hstart, hrun]
      refine ⟨?_, ?_, hreach.isChain, ?_, ?_⟩
      · intro e he
        rw [hcleaned] at he
        cases he
      · rw [hreach.head?_eq, Option.map_some, attempt_request_url]
        rfl
      · intro a ha transfer htransfer
        obtain ⟨u, rfl⟩ := hreach.exists_state a ha
        obtain ⟨hdone, rfl⟩ := transfer_eq_some_iff.1 htransfer
        exact (Request.setUp_done hdone).url
      · intro final hfinal
        subst hfinal
        obtain ⟨htransfer, htext⟩ := finish_ok_eq hend
        exact ⟨_, List.getLast?_concat, htransfer, by rw [attempt_request_url, htext]⟩

end PlainLink.Resolver
