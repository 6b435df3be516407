/-
# Larger budgets

A budget is asked only whether something of it is left.  A run that never found it used
up is therefore the same run under any larger budget, attempt by attempt: no request, no
delay and no answer depends on how much is left.

For retries there are two reservations.  A budget of none is not a small budget: without
one a status that would be repeated is taken for an answer.  And a run that ends with
such a status, or with a failed transfer, may have ended because the budget was used up;
what was not repeated for another reason cannot be told from the result.

Main statement: `run_of_larger_budget`.
-/
import PlainLink.Proofs.Resolve.Reach

namespace PlainLink.Resolver

variable {r : Resolver} {s : RunState} {n : Nat}

/-- The resolver with another budget of redirections. -/
def withMaxRedirects (r : Resolver) (n : Nat) : Resolver :=
  { r with options.maxRedirects := n }

/-- The resolver with another budget of retries. -/
def withMaxRetries (r : Resolver) (n : Nat) : Resolver :=
  { r with options.retry.maxRetries := n }

/-! ## Redirections -/

theorem follow_withMaxRedirects (hle : r.options.maxRedirects ≤ n) {redirects : Nat}
    {target : Text}
    (hroom : ∀ url most, r.follow redirects target ≠ .finish
    (.error (.tooManyRedirects url most))) :
    (r.withMaxRedirects n).follow redirects target = r.follow redirects target := by
  have hcleaned : (r.withMaxRedirects n).cleaned target = r.cleaned target := rfl
  unfold follow at hroom ⊢
  rw [hcleaned]
  cases hclean : r.cleaned target with
  | error e => rfl
  | ok url =>
      rw [hclean] at hroom
      dsimp only at hroom ⊢
      split at hroom
      · exact absurd rfl (hroom _ _)
      · next hleft =>
          have hleft' : ¬ (r.withMaxRedirects n).options.maxRedirects ≤ redirects := fun h =>
            hleft (Nat.le_trans hle h)
          rw [if_neg hleft, if_neg hleft']

theorem onResponse_withMaxRedirects (hle : r.options.maxRedirects ≤ n) {response : Response}
    (hroom : ∀ url most,
      r.onResponse s response ≠ .finish (.error (.tooManyRedirects url most))) :
    (r.withMaxRedirects n).onResponse s response = r.onResponse s response := by
  unfold onResponse at hroom ⊢
  dsimp only at hroom ⊢
  split at hroom
  · next hrepeats =>
      rw [if_pos hrepeats]
      exact if_pos hrepeats
  · next hrepeats =>
      rw [if_neg hrepeats]
      refine (if_neg hrepeats).trans ?_
      unfold onFinal at hroom ⊢
      have hredirect : (r.withMaxRedirects n).redirect? s.current response =
        r.redirect? s.current response := rfl
      rw [hredirect]
      cases htarget : r.redirect? s.current response with
      | none => rfl
      | some target =>
          rw [htarget] at hroom
          exact follow_withMaxRedirects hle hroom

theorem attempt_withMaxRedirects (hle : r.options.maxRedirects ≤ n)
    (hroom : ∀ url most, (r.attempt s).step ≠ .finish (.error (.tooManyRedirects url most))) :
    (r.withMaxRedirects n).attempt s = r.attempt s := by
  refine attempt_congr rfl rfl rfl (fun _ _ => rfl) fun response hreply => ?_
  refine onResponse_withMaxRedirects hle fun url most => ?_
  have hstep := hroom url most
  rwa [attempt_step, attempt_reply, hreply] at hstep

/-! ## Retries -/

/-- A retry that a policy grants, it grants with a larger budget, after the same delay. -/
theorem next?_of_le {p : RetryPolicy} {done : Nat} {cause : Cause} {delay : Duration}
    (hle : p.maxRetries ≤ n) (h : p.next? done cause = some delay) :
    { p with maxRetries := n }.next? done cause = some delay := by
  obtain ⟨hleft, hcause, hdelay⟩ := RetryPolicy.next?_eq_some_iff.1 h
  exact RetryPolicy.next?_eq_some_iff.2 ⟨Nat.lt_of_lt_of_le hleft hle, hcause, hdelay⟩

theorem onFault_withMaxRetries (hle : r.options.retry.maxRetries ≤ n) {f : Fault}
    (hleft : ∀ url f', r.onFault s f ≠ .finish (.error (.connect url f'))) :
    (r.withMaxRetries n).onFault s f = r.onFault s f := by
  unfold onFault at hleft ⊢
  cases hnext : r.options.retry.next? s.retries (.ofFault f) with
  | none =>
      rw [hnext] at hleft
      exact absurd rfl (hleft _ _)
  | some backoff =>
      have hnext' : (r.withMaxRetries n).options.retry.next? s.retries (.ofFault f) =
        some backoff := next?_of_le hle hnext
      rw [hnext']

theorem onResponse_withMaxRetries (hpositive : 1 ≤ r.options.retry.maxRetries)
    (hle : r.options.retry.maxRetries ≤ n) {response : Response}
    (hleft : ∀ url status, r.onResponse s response ≠ .finish (.error (.maxRetries url status))) :
    (r.withMaxRetries n).onResponse s response = r.onResponse s response := by
  have hpositive' : 0 < (r.withMaxRetries n).options.retry.maxRetries :=
    Nat.lt_of_lt_of_le hpositive hle
  have hstatuses : (r.withMaxRetries n).options.repeatedStatuses = r.options.repeatedStatuses :=
    rfl
  unfold onResponse at hleft ⊢
  dsimp only at hleft ⊢
  rw [hstatuses]
  by_cases hcause : Cause.ofStatus r.options.repeatedStatuses response.status = .other
  · rw [if_neg fun h => h.1 hcause, if_neg fun h => h.1 hcause]
    rfl
  · rw [if_pos ⟨hcause, hpositive⟩] at hleft
    rw [if_pos ⟨hcause, hpositive'⟩, if_pos ⟨hcause, hpositive⟩]
    cases hnext : r.options.retry.next? s.retries
        (Cause.ofStatus r.options.repeatedStatuses response.status) with
    | none =>
        rw [hnext] at hleft
        exact absurd rfl (hleft _ _)
    | some backoff =>
        have hnext' : (r.withMaxRetries n).options.retry.next? s.retries
            (Cause.ofStatus r.options.repeatedStatuses response.status) = some backoff :=
          next?_of_le hle hnext
        rw [hnext']
        rfl

theorem attempt_withMaxRetries (hpositive : 1 ≤ r.options.retry.maxRetries)
    (hle : r.options.retry.maxRetries ≤ n)
    (hfault : ∀ url f, (r.attempt s).step ≠ .finish (.error (.connect url f)))
    (hstatus : ∀ url status, (r.attempt s).step ≠ .finish (.error (.maxRetries url status))) :
    (r.withMaxRetries n).attempt s = r.attempt s := by
  refine attempt_congr rfl rfl rfl (fun f hreply => ?_) fun response hreply => ?_
  · refine onFault_withMaxRetries hle fun url f' => ?_
    have hstep := hfault url f'
    rwa [attempt_step, attempt_reply, hreply] at hstep
  · refine onResponse_withMaxRetries hpositive hle fun url status => ?_
    have hstep := hstatus url status
    rwa [attempt_step, attempt_reply, hreply] at hstep

/-! ## Runs -/

theorem Reaches.result_eq {before : List Attempt} {t : RunState}
    {result : Except ResolveError Text} (h : r.Reaches s before t)
    (hend : (r.attempt t).step = .finish result) : (r.proceed s).result = result := by
  rw [h.proceed_eq, proceed_of_finish hend]

/-- A resolver that differs in a budget only, and makes the same attempts unless one finds the
budget used up, makes the same run unless the result says so. -/
theorem run_congr_of_result {r r' : Resolver} (spent : Except ResolveError Text → Prop)
    (hstart : ∀ url, r'.start url = r.start url) (hafter : ∀ t a, r'.after t a = r.after t a)
    (hattempt : ∀ t, (∀ result, spent result → (r.attempt t).step ≠ .finish result) →
      r'.attempt t = r.attempt t) {url : Text} (hresult : ¬ spent (r.run url).result) :
    r'.run url = r.run url := by
  unfold run at hresult ⊢
  rw [hstart]
  cases hs : r.start url with
  | error e => rfl
  | ok s =>
      rw [hs] at hresult
      refine proceed_congr_of_reaches (fun before t hreach => hattempt t ?_) hafter
      intro result hspent hend
      exact hresult (hreach.result_eq hend ▸ hspent)

/-- A run that does not end for want of redirections is the same under a larger budget of
them: the same attempts with the same delays, and the same result.  So is a run with
retries that ends neither at a status that is repeated nor at a failed transfer, under a
larger budget of retries. -/
theorem run_of_larger_budget (r : Resolver) (url : Text) (n : Nat) :
    (r.options.maxRedirects ≤ n →
      (∀ target most, (r.run url).result ≠ .error (.tooManyRedirects target most)) →
      (r.withMaxRedirects n).run url = r.run url) ∧
    (1 ≤ r.options.retry.maxRetries → r.options.retry.maxRetries ≤ n →
      (∀ current status, (r.run url).result ≠ .error (.maxRetries current status)) →
      (∀ current f, (r.run url).result ≠ .error (.connect current f)) →
      (r.withMaxRetries n).run url = r.run url) := by
  constructor
  · intro hle hresult
    have hstart : ∀ url, (r.withMaxRedirects n).start url = r.start url := fun _ => rfl
    have hafter : ∀ t a, (r.withMaxRedirects n).after t a = r.after t a := fun _ _ => rfl
    refine run_congr_of_result
      (fun result => ∃ target most, result = .error (.tooManyRedirects target most))
      hstart hafter (fun t hroom => ?_) ?_
    · exact attempt_withMaxRedirects hle fun target most => hroom _ ⟨target, most, rfl⟩
    · rintro ⟨target, most, h⟩
      exact hresult target most h
  · intro hpositive hle hstatus hfault
    have hstart : ∀ url, (r.withMaxRetries n).start url = r.start url := fun _ => rfl
    have hafter : ∀ t a, (r.withMaxRetries n).after t a = r.after t a := fun _ _ => rfl
    refine run_congr_of_result
      (fun result => (∃ current status, result = .error (.maxRetries current status)) ∨
        ∃ current f, result = .error (.connect current f))
      hstart hafter (fun t hleft => ?_) ?_
    · exact attempt_withMaxRetries hpositive hle
        (fun current f => hleft _ (.inr ⟨current, f, rfl⟩))
        fun current status => hleft _ (.inl ⟨current, status, rfl⟩)
    · rintro (⟨current, status, h⟩ | ⟨current, f, h⟩)
      · exact hstatus current status h
      · exact hfault current f h

/-- The run that uses both budgets up to the last ends well, so larger ones
change nothing in it. -/
theorem larger_budgets_unused :
    (busyThenMoved.run "http://a.example/".toList).result.toOption =
      some "http://a.example/b".toList ∧
    (busyThenMoved.withMaxRedirects 2).run "http://a.example/".toList =
      busyThenMoved.run "http://a.example/".toList ∧
    (busyThenMoved.withMaxRetries 2).run "http://a.example/".toList =
      busyThenMoved.run "http://a.example/".toList := by
  have hresult : (busyThenMoved.run "http://a.example/".toList).result.toOption =
      some "http://a.example/b".toList := by decide +kernel
  have hok : ∀ e, (busyThenMoved.run "http://a.example/".toList).result ≠ .error e := by
    intro e he
    rw [he] at hresult
    cases hresult
  have hlarger := run_of_larger_budget busyThenMoved "http://a.example/".toList 2
  exact ⟨hresult, hlarger.1 (by decide) fun _ _ => hok _,
    hlarger.2 (by decide) (by decide) (fun _ _ => hok _) fun _ _ => hok _⟩

end PlainLink.Resolver
