/-
# One attempt to get on

An attempt requests the current URL and decides by the reply.  A run goes through the
decisions in this order:

    a fault            repeated if it is of the network or of time that ran out, as long as
                       there are retries left; otherwise the run fails
    a failed status    the same, but only where there is a budget of retries at all
    a header           names a target, which is cleaned and followed, unless its requoted
                       form is the current URL: then the run ends with that
    a page             names a target, which is cleaned and followed, if pages are read
    anything else      the run ends with the current URL

`Leads` lists what a reply can lead to, and `attempt_leads` says that an attempt does
just that; all that is known about runs rests on it.  Everything that comes from outside
is in an `Encounter`: what the setup of the transfer meets, the answer, and three
readings of the clock, one for each use.

Redirections and retries are counted by numbers without a bound here.  A counter of 32
bits holds them as long as both budgets stay below its end (`run_within_budgets`).
-/
import PlainLink.Resolve.Options
import PlainLink.Resolve.Page
import PlainLink.Retry.After
import PlainLink.Url.Location

namespace PlainLink

/-! ## Errors -/

inductive ResolveError where
  /-- The URL, or the target of a redirection, is no URL of the Web. -/
  | rejected (e : CleanError)
  /-- A transfer failed, and was not repeated any more. -/
  | connect (url : Text) (fault : Fault)
  /-- A status that is repeated came back until the budget was used up. -/
  | maxRetries (url : Text) (status : Nat)
  | tooManyRedirects (url : Text) (most : Nat)
  deriving DecidableEq, Repr

namespace ResolveError

/-- The network or the server is to blame. -/
def isConnect : ResolveError → Bool
  | connect _ _ | maxRetries _ _ => true
  | rejected _ | tooManyRedirects _ _ => false

/-- The URL that was being worked on. -/
def url : ResolveError → Text
  | rejected e => e.url
  | connect url _ => url
  | maxRetries url _ => url
  | tooManyRedirects url _ => url

def message : ResolveError → Text
  | rejected (.invalidScheme url scheme) =>
    "unrecognized URI or unsupported protocol ".toList ++ Text.quoted scheme ++ " in ".toList
      ++ Text.quoted url
  | rejected e => e.message
  | connect url f => "connection error for ".toList ++ url ++ ": ".toList ++ Text.ofNat f.code
  | maxRetries url status =>
    "exceeded maximum allowed retries for ".toList ++ url ++ " (last status ".toList
      ++ Text.ofNat status ++ ")".toList
  | tooManyRedirects url most =>
    "exceeded maximum allowed redirects (".toList ++ Text.ofNat most ++ ") at ".toList ++ url

end ResolveError

/-! ## The world outside -/

/-- What one attempt meets outside.  The clock is read anew each time that it is asked. -/
structure Encounter where
  /-- What the setup of the transfer meets. -/
  conditions : Conditions
  /-- The answer to the transfer, if it is performed. -/
  exchange : Exchange
  /-- The time when the cookies for the request are chosen. -/
  chosenAt : Instant
  /-- The time when the cookies of the response are kept. -/
  keptAt : Instant
  /-- The time when a delay that the response asks for is worked out. -/
  delayedAt : Instant

/-- An encounter at one point of time. -/
def Encounter.at (now : Instant) (conditions : Conditions) (exchange : Exchange) :
    Encounter where
  conditions := conditions
  exchange := exchange
  chosenAt := now
  keptAt := now
  delayedAt := now

/-- What each attempt of a run meets, counted from 0. -/
def Network := Nat → Encounter

/-- A network that gives the listed answers, and after them none. -/
def Network.ofList (answers : List Exchange) (conditions : Conditions) (now : Instant) :
    Network :=
  fun n => .at now conditions ((answers[n]?).getD .refused)

/-! ## Attempts -/

inductive Step where
  /-- The run is over. -/
  | finish (result : Except ResolveError Text)
  /-- The same URL is requested again after a delay. -/
  | retry (delay : Duration)
  /-- The cleaned form of a target is requested. -/
  | follow (target : Text) (next : Url)

namespace Step

/-- The run goes on. -/
def continues : Step → Bool
  | finish _ => false
  | retry _ | follow _ _ => true

/-- The same URL is requested again. -/
def isRetry : Step → Bool
  | retry _ => true
  | finish _ | follow _ _ => false

def isFollow : Step → Bool
  | follow _ _ => true
  | finish _ | retry _ => false

end Step

structure Attempt where
  request : Request
  /-- The calls that set the options of the transfer. -/
  calls : List Call
  /-- The transfer that was performed; a setting that fails for good leaves none. -/
  transfer : Option Transfer
  reply : Except Fault Response
  step : Step

/-- Where a run stands between two attempts. -/
structure RunState where
  current : Url
  jar : CookieJar
  redirects : Nat := 0
  retries : Nat := 0
  /-- How many attempts were made. -/
  attempts : Nat := 0

structure Resolver where
  store : Store
  options : ResolveOptions
  network : Network

namespace Resolver

def cleaned (r : Resolver) (target : Text) : Except CleanError Text :=
  r.store.clean r.options.clean target

/-- Goes on to the cleaned form of a target, if `redirects` leave room for one more. -/
def follow (r : Resolver) (redirects : Nat) (target : Text) : Step :=
  match r.cleaned target with
  | .error e => .finish (.error (.rejected e))
  | .ok url =>
    if r.options.maxRedirects ≤ redirects then
      .finish (.error (.tooManyRedirects url r.options.maxRedirects))
    else match Url.parse url with
      | .error e => .finish (.error (.rejected e))
      | .ok next => .follow target next

/-- The header fields that redirect, the first of them first. -/
def location? (response : Response) : Option Text :=
  match response.headers.first? "location".toList with
  | some location => some location
  | none => response.headers.first? "content-location".toList

/-- The delay before a retry: what the server asks for, else what the policy says. -/
def delay (r : Resolver) (now : Instant) (response : Response) (backoff : Duration) : Duration :=
  match (response.headers.first? "retry-after".toList).bind (retryAfter? · now) with
  | some requested => r.options.retry.clamp requested
  | none => backoff

/-- The target that a page names, if pages are read. -/
def inPage? (r : Resolver) (current : Url) (response : Response) : Option Text :=
  if r.options.readsPages then pageTarget? r.store.bodyRules current response else none

/-- The target that a response redirects to.  A header that names the current URL redirects to
nothing. -/
def redirect? (r : Resolver) (current : Url) (response : Response) : Option Text :=
  match location? response with
  | some location =>
    let target := Text.requote (current.locate location)
    if target = current.text then none else some target
  | none => (r.inPage? current response).map Text.requote

/-- What a response that is not repeated leads to. -/
def onFinal (r : Resolver) (current : Url) (redirects : Nat) (response : Response) : Step :=
  match r.redirect? current response with
  | some target => r.follow redirects target
  | none => .finish (.ok current.text)

def onResponse (r : Resolver) (s : RunState) (response : Response) : Step :=
  let cause := Cause.ofStatus r.options.repeatedStatuses response.status
  if cause ≠ .other ∧ 0 < r.options.retry.maxRetries then
    match r.options.retry.next? s.retries cause with
    | some backoff => .retry (r.delay (r.network s.attempts).delayedAt response backoff)
    | none => .finish (.error (.maxRetries s.current.text response.status))
  else r.onFinal s.current s.redirects response

def onFault (r : Resolver) (s : RunState) (f : Fault) : Step :=
  match r.options.retry.next? s.retries (.ofFault f) with
  | some backoff => .retry backoff
  | none => .finish (.error (.connect s.current.text f))

/-- The request for the current URL, with the cookies for it. -/
def request (r : Resolver) (s : RunState) : Request :=
  .make r.options.method s.current
    (s.jar.attach s.current (r.network s.attempts).chosenAt r.options.headers)

/-- The setup of the transfer for the request. -/
def setup (r : Resolver) (s : RunState) : Setup :=
  (r.request s).setUp r.options.transferOptions (r.network s.attempts).conditions

def reply (r : Resolver) (s : RunState) : Except Fault Response :=
  (r.request s).fetch r.options.transferOptions (r.network s.attempts).conditions
    (r.network s.attempts).exchange

def attempt (r : Resolver) (s : RunState) : Attempt where
  request := r.request s
  calls := (r.setup s).calls
  transfer := (r.setup s).done?
  reply := r.reply s
  step := match r.reply s with
    | .error f => r.onFault s f
    | .ok response => r.onResponse s response

/-! ## What an attempt leads to -/

/-- A response with this status is repeated as long as the budget lasts, and is never
taken for the answer. -/
def repeats (r : Resolver) (status : Nat) : Prop :=
  status ∈ r.options.repeatedStatuses ∧ 0 < r.options.retry.maxRetries

/-- The step that a reply leads to, case by case. -/
inductive Leads (r : Resolver) (s : RunState) : Except Fault Response → Step → Prop
  | faultRetried {f : Fault} {delay : Duration} :
      s.retries < r.options.retry.maxRetries → Cause.ofFault f ≠ .other →
      r.options.retry.backoff (s.retries + 1) = delay → Leads r s (.error f) (.retry delay)
  | faultFinal {f : Fault} :
      r.options.retry.maxRetries ≤ s.retries ∨ Cause.ofFault f = .other →
      Leads r s (.error f) (.finish (.error (.connect s.current.text f)))
  | statusRetried {response : Response} {delay : Duration} :
      r.repeats response.status → s.retries < r.options.retry.maxRetries →
      r.delay (r.network s.attempts).delayedAt response
        (r.options.retry.backoff (s.retries + 1)) = delay →
      Leads r s (.ok response) (.retry delay)
  | statusFinal {response : Response} :
      r.repeats response.status → r.options.retry.maxRetries ≤ s.retries →
      Leads r s (.ok response) (.finish (.error (.maxRetries s.current.text response.status)))
  | arrived {response : Response} :
      ¬ r.repeats response.status → r.redirect? s.current response = none →
      Leads r s (.ok response) (.finish (.ok s.current.text))
  | targetRejected {response : Response} {target : Text} {e : CleanError} :
      ¬ r.repeats response.status → r.redirect? s.current response = some target →
      r.cleaned target = .error e → Leads r s (.ok response) (.finish (.error (.rejected e)))
  | redirectsSpent {response : Response} {target url : Text} :
      ¬ r.repeats response.status → r.redirect? s.current response = some target →
      r.cleaned target = .ok url → r.options.maxRedirects ≤ s.redirects →
      Leads r s (.ok response) (.finish (.error (.tooManyRedirects url r.options.maxRedirects)))
  | cleanedRejected {response : Response} {target url : Text} {e : CleanError} :
      ¬ r.repeats response.status → r.redirect? s.current response = some target →
      r.cleaned target = .ok url → s.redirects < r.options.maxRedirects →
      Url.parse url = .error e → Leads r s (.ok response) (.finish (.error (.rejected e)))
  | followed {response : Response} {target url : Text} {next : Url} :
      ¬ r.repeats response.status → r.redirect? s.current response = some target →
      r.cleaned target = .ok url → s.redirects < r.options.maxRedirects →
      Url.parse url = .ok next → Leads r s (.ok response) (.follow target next)

@[simp] theorem attempt_request (r : Resolver) (s : RunState) :
    (r.attempt s).request = r.request s :=
  rfl

@[simp] theorem attempt_request_url (r : Resolver) (s : RunState) :
    (r.attempt s).request.url = s.current :=
  rfl

@[simp] theorem attempt_calls (r : Resolver) (s : RunState) :
    (r.attempt s).calls = (r.setup s).calls :=
  rfl

@[simp] theorem attempt_transfer (r : Resolver) (s : RunState) :
    (r.attempt s).transfer = (r.setup s).done? :=
  rfl

@[simp] theorem attempt_reply (r : Resolver) (s : RunState) : (r.attempt s).reply = r.reply s :=
  rfl

theorem attempt_step (r : Resolver) (s : RunState) :
    (r.attempt s).step = match (r.attempt s).reply with
      | .error f => r.onFault s f
      | .ok response => r.onResponse s response :=
  rfl

theorem onFault_leads (r : Resolver) (s : RunState) (f : Fault) :
    r.Leads s (.error f) (r.onFault s f) := by
  unfold onFault
  split
  · next delay h =>
      obtain ⟨hleft, hcause, hdelay⟩ := RetryPolicy.next?_eq_some_iff.1 h
      exact .faultRetried hleft hcause hdelay
  · next h => exact .faultFinal (RetryPolicy.next?_eq_none_iff.1 h)

theorem onFinal_leads (r : Resolver) (s : RunState) (response : Response)
    (hstatus : ¬ r.repeats response.status) :
    r.Leads s (.ok response) (r.onFinal s.current s.redirects response) := by
  unfold onFinal
  split
  · next target htarget =>
      unfold follow
      split
      · next e he => exact .targetRejected hstatus htarget he
      · next url hurl =>
          split
          · next hspent => exact .redirectsSpent hstatus htarget hurl hspent
          · next hroom =>
              have hroom : s.redirects < r.options.maxRedirects := Nat.lt_of_not_le hroom
              split
              · next e he => exact .cleanedRejected hstatus htarget hurl hroom he
              · next next hnext => exact .followed hstatus htarget hurl hroom hnext
  · next hnone => exact .arrived hstatus hnone

theorem onResponse_leads (r : Resolver) (s : RunState) (response : Response) :
    r.Leads s (.ok response) (r.onResponse s response) := by
  unfold onResponse
  dsimp only
  split
  · next h =>
      have hrepeats : r.repeats response.status := ⟨by simpa using h.1, h.2⟩
      split
      · next backoff hnext =>
          obtain ⟨hleft, -, rfl⟩ := RetryPolicy.next?_eq_some_iff.1 hnext
          exact .statusRetried hrepeats hleft rfl
      · next hnone =>
          rcases RetryPolicy.next?_eq_none_iff.1 hnone with hspent | hother
          · exact .statusFinal hrepeats hspent
          · exact absurd hother h.1
  · next h =>
      exact r.onFinal_leads s response fun hr => h ⟨by simpa using hr.1, hr.2⟩

/-- An attempt does what its reply leads to. -/
theorem attempt_leads (r : Resolver) (s : RunState) :
    r.Leads s (r.attempt s).reply (r.attempt s).step := by
  rw [attempt_step]
  cases (r.attempt s).reply with
  | error f => exact r.onFault_leads s f
  | ok response => exact r.onResponse_leads s response

theorem retries_lt_of_isRetry {r : Resolver} {s : RunState} (h : (r.attempt s).step.isRetry) :
    s.retries < r.options.retry.maxRetries := by
  have hleads := r.attempt_leads s
  generalize (r.attempt s).reply = reply, (r.attempt s).step = step at h hleads
  cases hleads with
  | faultRetried hleft _ _ => exact hleft
  | statusRetried _ hleft _ => exact hleft
  | _ => cases h

/-- A redirection that is followed takes one from the budget, and there was one left. -/
theorem redirects_lt_of_isFollow {r : Resolver} {s : RunState}
    (h : (r.attempt s).step.isFollow) :
    s.redirects < r.options.maxRedirects := by
  have hleads := r.attempt_leads s
  generalize (r.attempt s).reply = reply, (r.attempt s).step = step at h hleads
  cases hleads with
  | followed _ _ _ hroom _ => exact hroom
  | _ => cases h

/-! ## The state after an attempt -/

/-- Where the run stands after an attempt that does not end it. -/
def after (r : Resolver) (s : RunState) (a : Attempt) : RunState :=
  let jar := match a.reply with
    | .ok response => s.jar.read s.current (response.headers.all "set-cookie".toList)
        (r.network s.attempts).keptAt
    | .error _ => s.jar
  let s := { s with jar, attempts := s.attempts + 1 }
  match a.step with
  | .finish _ => s
  | .retry _ => { s with retries := s.retries + 1 }
  | .follow _ next => { s with current := next, redirects := s.redirects + 1 }

@[simp] theorem after_retries (r : Resolver) (s : RunState) (a : Attempt) :
    (r.after s a).retries = s.retries + if a.step.isRetry then 1 else 0 := by
  unfold after
  cases a.step <;> rfl

@[simp] theorem after_redirects (r : Resolver) (s : RunState) (a : Attempt) :
    (r.after s a).redirects = s.redirects + if a.step.isFollow then 1 else 0 := by
  unfold after
  cases a.step <;> rfl

@[simp] theorem after_attempts (r : Resolver) (s : RunState) (a : Attempt) :
    (r.after s a).attempts = s.attempts + 1 := by
  unfold after
  cases a.step <;> rfl

theorem after_jar (r : Resolver) (s : RunState) (a : Attempt) :
    (r.after s a).jar = match a.reply with
      | .ok response => s.jar.read s.current (response.headers.all "set-cookie".toList)
          (r.network s.attempts).keptAt
      | .error _ => s.jar := by
  unfold after
  cases a.step <;> rfl

theorem after_current_of_isRetry {r : Resolver} {s : RunState} {a : Attempt}
    (h : a.step.isRetry) :
    (r.after s a).current = s.current := by
  unfold after
  cases hstep : a.step with
  | retry delay => rfl
  | _ => simp [hstep, Step.isRetry] at h

theorem after_current_of_follow {r : Resolver} {s : RunState} {a : Attempt} {target : Text}
    {next : Url} (h : a.step = .follow target next) : (r.after s a).current = next := by
  unfold after
  rw [h]

end Resolver

end PlainLink
