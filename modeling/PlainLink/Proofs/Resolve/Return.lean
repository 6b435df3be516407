/-
# Redirections back to the current URL

A response that redirects to the URL that was asked for ends the run: a client that went
on would ask the same question for ever.  What is compared is the requoted target,
before it is cleaned:

    http://a.example/x     the current URL: the run ends
    http://a.example/x?    another text, though cleaning drops the question mark: the URL
                           is requested again, and the budget is one less

A target that only its cleaning turns into the current URL is therefore followed like
any other, and takes one from the budget each time.  It is the budget that ends such a
run.

Main statement: `return_to_current`.
-/
import Mathlib.Control.Monad.Basic
import PlainLink.Proofs.Resolve.Reach

namespace PlainLink.Resolver

variable {r : Resolver} {s : RunState} {response : Response} {location : Text}

/-- The target that a header names, requoted. -/
def headerTarget (current : Url) (location : Text) : Text :=
  Text.requote (current.locate location)

theorem redirect?_of_location (hlocation : location? response = some location) :
    r.redirect? s.current response =
      if headerTarget s.current location = s.current.text then none
      else some (headerTarget s.current location) := by
  unfold redirect?
  rw [hlocation]
  rfl

/-- A target that is the current URL ends the run with it. -/
theorem step_of_same (hreply : (r.attempt s).reply = .ok response)
    (hstatus : ¬ r.repeats response.status) (hlocation : location? response = some location)
    (hsame : headerTarget s.current location = s.current.text) :
    (r.attempt s).step = .finish (.ok s.current.text) := by
  have hnone : r.redirect? s.current response = none := by
    rw [redirect?_of_location hlocation, if_pos hsame]
  have hleads := r.attempt_leads s
  rw [hreply] at hleads
  generalize (r.attempt s).step = step at hleads
  cases hleads with
  | arrived _ _ => rfl
  | statusRetried hrepeats _ _ => exact absurd hrepeats hstatus
  | statusFinal hrepeats _ => exact absurd hrepeats hstatus
  | targetRejected _ htarget _ => cases hnone.symm.trans htarget
  | redirectsSpent _ htarget _ _ => cases hnone.symm.trans htarget
  | cleanedRejected _ htarget _ _ _ => cases hnone.symm.trans htarget
  | followed _ htarget _ _ _ => cases hnone.symm.trans htarget

/-- Any other target whose cleaned form is a URL is followed, or is one too many. -/
theorem step_of_other (hreply : (r.attempt s).reply = .ok response)
    (hstatus : ¬ r.repeats response.status) (hlocation : location? response = some location)
    (hother : headerTarget s.current location ≠ s.current.text) {cleaned : Text} {next : Url}
    (hcleaned : r.cleaned (headerTarget s.current location) = .ok cleaned)
    (hnext : Url.parse cleaned = .ok next) :
    (r.attempt s).step =
      if s.redirects < r.options.maxRedirects then .follow (headerTarget s.current location) next
      else .finish (.error (.tooManyRedirects cleaned r.options.maxRedirects)) := by
  have htarget : r.redirect? s.current response = some (headerTarget s.current location) := by
    rw [redirect?_of_location hlocation, if_neg hother]
  have hleads := r.attempt_leads s
  rw [hreply] at hleads
  generalize (r.attempt s).step = step at hleads
  cases hleads with
  | arrived _ hnone => cases hnone.symm.trans htarget
  | statusRetried hrepeats _ _ => exact absurd hrepeats hstatus
  | statusFinal hrepeats _ => exact absurd hrepeats hstatus
  | targetRejected _ hsome herror =>
      cases hsome.symm.trans htarget
      cases herror.symm.trans hcleaned
  | redirectsSpent _ hsome hok hspent =>
      cases hsome.symm.trans htarget
      cases hok.symm.trans hcleaned
      rw [if_neg (Nat.not_lt.2 hspent)]
  | cleanedRejected _ hsome hok _ herror =>
      cases hsome.symm.trans htarget
      cases hok.symm.trans hcleaned
      cases herror.symm.trans hnext
  | followed _ hsome hok hroom hparse =>
      cases hsome.symm.trans htarget
      cases hok.symm.trans hcleaned
      cases hparse.symm.trans hnext
      rw [if_pos hroom]

/-- A response that is not repeated and whose header names the current URL, requoted, ends the
run with that URL: no redirection is counted, and nothing is requested any more.  A header that
names another text, requoted or not, is a redirection even if its target cleans to the current
URL: the URL is requested again, unless the budget is used up.

The second part leaves out a location that means the current URL as it stands and is another
text only because requoting undoes one of its escapes.  Nothing in the proof needs that; of
such a location the statement says neither that it is followed nor that it is not.  That a
budget which is used up ends the run presumes that it is less than 2^32 - 1 where redirections
are counted in words. -/
theorem return_to_current {url : Text} {before behind : List Attempt} {a : Attempt}
    {response : Response} {location : Text}
    (hrun : (r.run url).attempts = before ++ a :: behind) (hreply : a.reply = .ok response)
    (hstatus : ¬ r.repeats response.status) (hlocation : location? response = some location) :
    (headerTarget a.request.url location = a.request.url.text →
      a.step = .finish (.ok a.request.url.text) ∧ behind = [] ∧
      (r.run url).result = .ok a.request.url.text) ∧
    (a.request.url.locate location ≠ a.request.url.text →
      headerTarget a.request.url location ≠ a.request.url.text →
      ∀ cleaned, r.cleaned (headerTarget a.request.url location) = .ok cleaned →
      Url.parse cleaned = .ok a.request.url →
      if before.countP (·.step.isFollow) < r.options.maxRedirects then
        a.step = .follow (headerTarget a.request.url location) a.request.url ∧
        ∃ next rest, behind = next :: rest ∧ next.request.url = a.request.url
      else
        behind = [] ∧
        (r.run url).result = .error (.tooManyRedirects cleaned r.options.maxRedirects)) := by
  obtain ⟨s, t, hstart, hreach, rfl, hproceed⟩ := run_cut hrun
  obtain ⟨-, hs, -⟩ := start_eq_ok hstart
  have hcount : t.redirects = before.countP (·.step.isFollow) := by
    rw [hreach.redirects_eq, hs, Nat.zero_add]
  rw [attempt_request_url]
  constructor
  · intro hsame
    have hstep := step_of_same hreply hstatus hlocation hsame
    rw [proceed_of_finish hstep] at hproceed
    obtain ⟨hattempts, hresult⟩ := Run.mk.inj hproceed
    exact ⟨hstep, (List.tail_eq_of_cons_eq hattempts).symm, hresult.symm⟩
  · intro _ hother cleaned hcleaned hnext
    have hstep := step_of_other hreply hstatus hlocation hother hcleaned hnext
    rw [hcount] at hstep
    split
    · next hroom =>
      rw [if_pos hroom] at hstep
      refine ⟨hstep, ?_⟩
      rw [proceed_of_continues (by rw [hstep]; rfl)] at hproceed
      obtain ⟨rest, hrest⟩ := r.proceed_head (r.after t (r.attempt t))
      have hbehind := List.tail_eq_of_cons_eq (Run.mk.inj hproceed).1
      refine ⟨_, rest, hbehind.symm.trans hrest, ?_⟩
      rw [attempt_request_url, after_current_of_follow hstep]
    · next hspent =>
      rw [if_neg hspent] at hstep
      rw [proceed_of_finish hstep] at hproceed
      obtain ⟨hattempts, hresult⟩ := Run.mk.inj hproceed
      exact ⟨(List.tail_eq_of_cons_eq hattempts).symm, hresult.symm⟩

/-- A resolver with one redirection, and a page that redirects to itself, first
with an empty query. -/
def bounced : Resolver where
  store := .empty
  options := { maxRedirects := 1 }
  network := .ofList
    [{ status := 302, lines := ["Location: /x?".toUTF8.toList] },
      { status := 302, lines := ["Location: //a.example/x".toUTF8.toList] }] {} ⟨0, 0⟩

/-- Where the run for the page begins. -/
def bouncedStart : RunState where
  current := ⟨.http, "a.example".toList, none, "/x".toList, [], []⟩
  jar := .empty (.allowListed .empty)

theorem start_bounced : bounced.start "http://a.example/x".toList = .ok bouncedStart := by
  have hcleaned :
      bounced.cleaned "http://a.example/x".toList = .ok "http://a.example/x".toList := by
    decide +kernel
  have hparse : Url.parse "http://a.example/x".toList = .ok bouncedStart.current := by
    decide +kernel
  unfold start
  rw [hcleaned]
  show (do let current ← Url.parse "http://a.example/x".toList; _) = _
  rw [hparse]
  rfl

/-- Where the run stands after its first attempt. -/
def bouncedAgain : RunState :=
  bounced.after bouncedStart (bounced.attempt bouncedStart)

theorem run_bounced :
    (bounced.run "http://a.example/x".toList).attempts =
      [bounced.attempt bouncedStart, bounced.attempt bouncedAgain] := by
  have hend : (bounced.attempt bouncedAgain).step.continues = false := by decide +kernel
  rw [run_of_start_eq_ok start_bounced, proceed_of_continues (by decide +kernel)]
  show _ :: (bounced.proceed bouncedAgain).attempts = _
  cases hstep : (bounced.attempt bouncedAgain).step with
  | finish result => rw [proceed_of_finish hstep]
  | _ => rw [hstep] at hend; cases hend

theorem reply_bounced_first :
    (bounced.attempt bouncedStart).reply = .ok ⟨302, [("Location".toList, "/x?".toList)],
      [], false⟩ := by
  decide +kernel

theorem reply_bounced_again :
    (bounced.attempt bouncedAgain).reply =
      .ok ⟨302, [("Location".toList, "//a.example/x".toList)], [], false⟩ := by
  decide +kernel

theorem not_repeats_bounced (status : Nat) : ¬ bounced.repeats status := fun h =>
  absurd h.2 (by decide)

/-- The empty query goes, so the page is requested a second time; then
the page names itself. -/
theorem return_bounced :
    (bounced.attempt bouncedStart).reply =
      .ok ⟨302, [("Location".toList, "/x?".toList)], [], false⟩ ∧
    (bounced.attempt bouncedStart).step = .follow "http://a.example/x?".toList
      bouncedStart.current ∧
    (bounced.attempt bouncedAgain).reply =
      .ok ⟨302, [("Location".toList, "//a.example/x".toList)], [], false⟩ ∧
    (bounced.run "http://a.example/x".toList).result = .ok "http://a.example/x".toList := by
  have hrun : (bounced.run "http://a.example/x".toList).attempts =
      [] ++ bounced.attempt bouncedStart :: [bounced.attempt bouncedAgain] := run_bounced
  have hrun' : (bounced.run "http://a.example/x".toList).attempts =
      [bounced.attempt bouncedStart] ++ bounced.attempt bouncedAgain :: [] := run_bounced
  have hback : location? ⟨302, [("Location".toList, "/x?".toList)], [], false⟩ =
      some "/x?".toList := by decide
  have hhere : location? ⟨302, [("Location".toList, "//a.example/x".toList)], [], false⟩ =
      some "//a.example/x".toList := by decide
  have hfirst := return_to_current hrun reply_bounced_first (not_repeats_bounced 302) hback
  have hagain := return_to_current hrun' reply_bounced_again (not_repeats_bounced 302) hhere
  rw [attempt_request_url] at hfirst
  refine ⟨reply_bounced_first, ?_, reply_bounced_again, ?_⟩
  · have hstep := hfirst.2 (by decide +kernel) (by decide +kernel) "http://a.example/x".toList
      (by decide +kernel) (by decide +kernel)
    exact hstep.1
  · have htext :
        (bounced.attempt bouncedAgain).request.url.text = "http://a.example/x".toList := by
      decide +kernel
    have hresult := (hagain.1 (by decide +kernel)).2.2
    exact hresult.trans (congrArg Except.ok htext)

/-- A target that only its cleaning turns into the current URL does not end the run. -/
theorem return_by_cleaning_continues :
    ¬ ∀ (r : Resolver) (url : Text) (before behind : List Attempt) (a : Attempt)
      (response : Response) (location : Text),
      (r.run url).attempts = before ++ a :: behind → a.reply = .ok response →
      ¬ r.repeats response.status → location? response = some location →
      (a.request.url.locate location = a.request.url.text ∨
        (r.cleaned (headerTarget a.request.url location)).toOption.bind
          (fun cleaned => (Url.parse cleaned).toOption) = some a.request.url) →
      behind = [] ∧ (r.run url).result = .ok a.request.url.text := by
  intro h
  have hends := h bounced "http://a.example/x".toList [] _ _ _ "/x?".toList run_bounced
    reply_bounced_first (not_repeats_bounced 302) (by decide) (.inr (by decide +kernel))
  cases hends.1

end PlainLink.Resolver
