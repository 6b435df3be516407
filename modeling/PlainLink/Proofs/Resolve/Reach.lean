/-
# How far a run can go

`Reaches` is the loop of a run without its end: attempts that do not end it, one after
the other.  Every run is such a path and one attempt more (`proceed_reaches`), and no
path is longer than the two budgets together, however retries and redirections take
turns and whatever the network answers: each attempt takes one from what is left
(`Reaches.length_add_left_le`).

The counters of a state are counts of the attempts before it, by kind
(`Reaches.retries_eq`, `Reaches.redirects_eq`), and stay within the budgets.  With
budgets below the end of a word of 32 bits they fit into one, the next increment
included.

Two runs are compared along such a path.  `proceed_congr_view` does it in general:
resolvers whose attempts look alike through some view, at the states that one of them
comes to, make runs that look alike.  What later modules show of runs with another
network, other bodies or other budgets are cases of this.

Main statement: `run_within_budgets`.
-/
import PlainLink.Resolve.Run

namespace PlainLink.Resolver

/-- The attempts `before`, none of which ends the run, lead from the state `s` to another. -/
inductive Reaches (r : Resolver) (s : RunState) : List Attempt → RunState → Prop
  | start : Reaches r s [] s
  | next {before : List Attempt} {t : RunState} :
      Reaches r s before t → (r.attempt t).step.continues →
      Reaches r s (before ++ [r.attempt t]) (r.after t (r.attempt t))

variable {r : Resolver} {s t : RunState} {before : List Attempt}

theorem Reaches.cons (hstep : (r.attempt s).step.continues)
    (h : r.Reaches (r.after s (r.attempt s)) before t) :
    r.Reaches s (r.attempt s :: before) t := by
  induction h with
  | start => exact .next .start hstep
  | next _ hnext ih => exact .next ih hnext

/-! ## A run is a path to an attempt that ends it -/

theorem proceed_of_finish {result : Except ResolveError Text}
    (h : (r.attempt s).step = .finish result) : r.proceed s = ⟨[r.attempt s], result⟩ := by
  rw [proceed]
  split
  · next found hfound => rw [h] at hfound; cases hfound; rfl
  all_goals next hother => rw [h] at hother; cases hother

theorem proceed_of_continues (h : (r.attempt s).step.continues) :
    r.proceed s =
      ⟨r.attempt s :: (r.proceed (r.after s (r.attempt s))).attempts,
        (r.proceed (r.after s (r.attempt s))).result⟩ := by
  rw [proceed]
  split
  · next hfinish => rw [hfinish] at h; cases h
  all_goals rfl

theorem proceed_reaches (r : Resolver) (s : RunState) :
    ∃ (before : List Attempt) (t : RunState) (result : Except ResolveError Text),
      r.Reaches s before t ∧ (r.attempt t).step = .finish result ∧
        r.proceed s = ⟨before ++ [r.attempt t], result⟩ := by
  induction hleft : r.left s using Nat.strongRecOn generalizing s with
  | ind left ih =>
      subst hleft
      cases hstep : (r.attempt s).step with
      | finish result => exact ⟨[], s, result, .start, hstep, proceed_of_finish hstep⟩
      | _ =>
          have hgoes : (r.attempt s).step.continues := by rw [hstep]; rfl
          obtain ⟨before, t, result, hreach, hend, hrun⟩ := ih _ (left_after_lt hgoes) _ rfl
          refine ⟨r.attempt s :: before, t, result, hreach.cons hgoes, hend, ?_⟩
          rw [proceed_of_continues hgoes, hrun]
          rfl

theorem proceed_head (r : Resolver) (s : RunState) :
    ∃ behind, (r.proceed s).attempts = r.attempt s :: behind := by
  cases hstep : (r.attempt s).step with
  | finish result => exact ⟨[], by rw [proceed_of_finish hstep]⟩
  | _ => exact ⟨_, by rw [proceed_of_continues (by rw [hstep]; rfl)]⟩

/-- Cut before one of its attempts, a run is a path to a state and the run from there. -/
theorem proceed_cut {front behind : List Attempt} {a : Attempt}
    (h : (r.proceed s).attempts = front ++ a :: behind) :
    ∃ t, r.Reaches s front t ∧ a = r.attempt t ∧
      r.proceed t = ⟨a :: behind, (r.proceed s).result⟩ := by
  obtain ⟨more, hmore⟩ := r.proceed_head s
  induction front generalizing s more with
  | nil =>
      obtain ⟨rfl, rfl⟩ : r.attempt s = a ∧ more = behind := by simpa using hmore.symm.trans h
      exact ⟨s, .start, rfl, by rw [← hmore]⟩
  | cons b front ih =>
      obtain ⟨rfl, rfl⟩ : r.attempt s = b ∧ more = front ++ a :: behind := by
        simpa using hmore.symm.trans h
      cases hstep : (r.attempt s).step with
      | finish result =>
          rw [proceed_of_finish hstep] at hmore
          simp at hmore
      | _ =>
          have hgoes : (r.attempt s).step.continues := by rw [hstep]; rfl
          rw [proceed_of_continues hgoes] at hmore ⊢
          obtain ⟨later, hlater⟩ := r.proceed_head (r.after s (r.attempt s))
          have hrest := List.tail_eq_of_cons_eq hmore
          obtain ⟨t, hreach, ha, hrun⟩ := ih hrest later hlater
          exact ⟨t, hreach.cons hgoes, ha, hrun⟩

theorem Reaches.proceed_eq (h : r.Reaches s before t) :
    r.proceed s = ⟨before ++ (r.proceed t).attempts, (r.proceed t).result⟩ := by
  induction h with
  | start => rfl
  | next _ hgoes ih =>
      rw [ih, proceed_of_continues hgoes, List.append_assoc, List.singleton_append]

/-! ## Attempts and runs of two resolvers -/

/-- Resolvers that set up the same transfer and get the same reply, which leads to the same
step, make the same attempt. -/
theorem attempt_congr {r r' : Resolver} {s s' : RunState}
    (hrequest : r'.request s' = r.request s) (hsetup : r'.setup s' = r.setup s)
    (hreply : r'.reply s' = r.reply s)
    (hfault : ∀ f, r.reply s = .error f → r'.onFault s' f = r.onFault s f)
    (hresponse : ∀ response, r.reply s = .ok response →
      r'.onResponse s' response = r.onResponse s response) :
    r'.attempt s' = r.attempt s := by
  unfold attempt
  rw [hrequest, hsetup, hreply]
  cases hcase : r.reply s with
  | error f =>
      dsimp only
      rw [hfault f hcase]
  | ok response =>
      dsimp only
      rw [hresponse response hcase]

/-- Resolvers whose attempts look alike on the way of one of them, do the same next and leave
the same state, make runs that look alike and have the same result. -/
theorem proceed_congr_view {r r' : Resolver} {α : Type} (view : Attempt → α)
    (hview : ∀ before t, r.Reaches s before t → view (r'.attempt t) = view (r.attempt t))
    (hstep : ∀ before t, r.Reaches s before t → (r'.attempt t).step = (r.attempt t).step)
    (hafter : ∀ before t, r.Reaches s before t →
      r'.after t (r'.attempt t) = r.after t (r.attempt t)) :
    (r'.proceed s).attempts.map view = (r.proceed s).attempts.map view ∧
      (r'.proceed s).result = (r.proceed s).result := by
  induction hleft : r.left s using Nat.strongRecOn generalizing s with
  | ind left ih =>
      subst hleft
      have hlook := hview [] s .start
      have hsame := hstep [] s .start
      cases hcase : (r.attempt s).step with
      | finish result =>
          rw [proceed_of_finish hcase, proceed_of_finish (hsame.trans hcase)]
          exact ⟨congrArg ([·]) hlook, rfl⟩
      | _ =>
          have hgoes : (r.attempt s).step.continues := by rw [hcase]; rfl
          have hgoes' : (r'.attempt s).step.continues := by rw [hsame]; exact hgoes
          obtain ⟨hattempts, hresult⟩ := ih _ (left_after_lt hgoes)
            (fun before t hreach => hview _ t (hreach.cons hgoes))
            (fun before t hreach => hstep _ t (hreach.cons hgoes))
            (fun before t hreach => hafter _ t (hreach.cons hgoes)) rfl
          rw [proceed_of_continues hgoes, proceed_of_continues hgoes', hafter [] s .start]
          refine ⟨?_, hresult⟩
          rw [List.map_cons, List.map_cons, hlook, hattempts]

/-- Resolvers that make the same attempts on the way of one of them make the same run. -/
theorem proceed_congr_of_reaches {r r' : Resolver}
    (hattempt : ∀ before t, r.Reaches s before t → r'.attempt t = r.attempt t)
    (hafter : ∀ t a, r'.after t a = r.after t a) : r'.proceed s = r.proceed s := by
  obtain ⟨hattempts, hresult⟩ := proceed_congr_view id hattempt
    (fun before t hreach => congrArg Attempt.step (hattempt before t hreach))
    (fun before t hreach => by rw [hattempt before t hreach, hafter])
  rw [List.map_id, List.map_id] at hattempts
  calc r'.proceed s
      = ⟨(r'.proceed s).attempts, (r'.proceed s).result⟩ := rfl
    _ = r.proceed s := by rw [hattempts, hresult]

theorem proceed_congr {r r' : Resolver} (hattempt : ∀ s, r'.attempt s = r.attempt s)
    (hafter : ∀ s a, r'.after s a = r.after s a) (s : RunState) : r'.proceed s = r.proceed s :=
  proceed_congr_of_reaches (fun _ t _ => hattempt t) hafter

/-! ## The counters count the steps of the path -/

theorem Reaches.retries_eq (h : r.Reaches s before t) :
    t.retries = s.retries + before.countP (·.step.isRetry) := by
  induction h with
  | start => rfl
  | next _ _ ih =>
      rw [after_retries, ih, List.countP_append, List.countP_singleton, Nat.add_assoc]

theorem Reaches.redirects_eq (h : r.Reaches s before t) :
    t.redirects = s.redirects + before.countP (·.step.isFollow) := by
  induction h with
  | start => rfl
  | next _ _ ih =>
      rw [after_redirects, ih, List.countP_append, List.countP_singleton, Nat.add_assoc]

theorem Reaches.attempts_eq (h : r.Reaches s before t) :
    t.attempts = s.attempts + before.length := by
  induction h with
  | start => rfl
  | next _ _ ih =>
      rw [after_attempts, ih, List.length_append, List.length_singleton, Nat.add_assoc]

theorem Reaches.retries_le (h : r.Reaches s before t)
    (hs : s.retries ≤ r.options.retry.maxRetries) :
    t.retries ≤ r.options.retry.maxRetries := by
  induction h with
  | start => exact hs
  | next _ _ ih =>
      rw [after_retries]
      split
      · next hretry => exact retries_lt_of_isRetry hretry
      · exact ih

theorem Reaches.redirects_le (h : r.Reaches s before t)
    (hs : s.redirects ≤ r.options.maxRedirects) : t.redirects ≤ r.options.maxRedirects := by
  induction h with
  | start => exact hs
  | next _ _ ih =>
      rw [after_redirects]
      split
      · next hfollow => exact redirects_lt_of_isFollow hfollow
      · exact ih

/-- Each attempt takes one from what is left. -/
theorem Reaches.length_add_left_le (h : r.Reaches s before t) :
    before.length + r.left t ≤ r.left s := by
  induction h with
  | start => exact Nat.le_of_eq (Nat.zero_add _)
  | next _ hgoes ih =>
      have hlt := left_after_lt hgoes
      rw [List.length_append, List.length_singleton]
      omega

/-! ## What an attempt sends -/

theorem reply_of_fault {f : Fault} (h : (r.setup s).fault = some f) : r.reply s = .error f := by
  unfold setup at h
  rw [reply, Request.fetch, h]

theorem reply_of_done (h : (r.setup s).fault = none) :
    r.reply s = (r.network s.attempts).exchange.answer (Text.upper r.options.method)
      r.options.transferOptions.maxBodyBytes := by
  unfold setup at h
  rw [reply, Request.fetch, h]
  rfl

theorem transfer_of_done (h : (r.setup s).fault = none) :
    (r.attempt s).transfer = some (r.setup s).transfer :=
  if_neg (by simp [h])

theorem transfer_eq_some_iff {transfer : Transfer} :
    (r.attempt s).transfer = some transfer ↔
      (r.setup s).fault = none ∧ (r.setup s).transfer = transfer := by
  rw [attempt_transfer, Setup.done?]
  cases (r.setup s).fault <;> simp

theorem transfer_eq_none_iff : (r.attempt s).transfer = none ↔ (r.setup s).fault.isSome := by
  rw [attempt_transfer, Setup.done?]
  cases (r.setup s).fault <;> simp

theorem fault_eq_none_of_reply {response : Response} (h : r.reply s = .ok response) :
    (r.setup s).fault = none := by
  cases hfault : (r.setup s).fault with
  | none => rfl
  | some f => cases (reply_of_fault hfault).symm.trans h

theorem transfer_isSome_of_reply {response : Response}
    (h : (r.attempt s).reply = .ok response) : (r.attempt s).transfer.isSome := by
  rw [transfer_of_done (fault_eq_none_of_reply h)]
  rfl

/-! ## Runs of a text -/

theorem start_state {url : Text} (h : r.start url = .ok s) :
    s = { current := s.current, jar := .empty (r.options.policy r.store) } ∧
      ∃ cleaned, r.cleaned url = .ok cleaned ∧ Url.parse cleaned = .ok s.current := by
  unfold start at h
  cases hclean : r.cleaned url with
  | error e => rw [hclean] at h; cases h
  | ok cleaned =>
      cases hparse : Url.parse cleaned with
      | error e => simp [hclean, hparse, bind, Except.bind] at h
      | ok current =>
          obtain rfl : { current, jar := .empty (r.options.policy r.store) } = s := by
            simpa [hclean, hparse, bind, Except.bind, pure, Except.pure] using h
          exact ⟨rfl, cleaned, rfl, hparse⟩

theorem start_eq_ok {url : Text} (h : r.start url = .ok s) :
    s.retries = 0 ∧ s.redirects = 0 ∧
      ∃ cleaned, r.cleaned url = .ok cleaned ∧ Url.parse cleaned = .ok s.current := by
  obtain ⟨hs, hcleaned⟩ := start_state h
  exact ⟨by rw [hs], by rw [hs], hcleaned⟩

theorem run_of_start_eq_ok {url : Text} (h : r.start url = .ok s) : r.run url = r.proceed s := by
  unfold run
  rw [h]

theorem run_of_start_eq_error {url : Text} {e : CleanError} (h : r.start url = .error e) :
    r.run url = ⟨[], .error (.rejected e)⟩ := by
  unfold run
  rw [h]

/-- Cut before one of its attempts, the run of a text is a path from where it starts to a
state, and the run from there. -/
theorem run_cut {url : Text} {front behind : List Attempt} {a : Attempt}
    (h : (r.run url).attempts = front ++ a :: behind) :
    ∃ s t, r.start url = .ok s ∧ r.Reaches s front t ∧ a = r.attempt t ∧
      r.proceed t = ⟨a :: behind, (r.run url).result⟩ := by
  cases hstart : r.start url with
  | error e =>
      rw [run_of_start_eq_error hstart] at h
      simp at h
  | ok s =>
      rw [run_of_start_eq_ok hstart] at h ⊢
      obtain ⟨t, hreach, ha, hrun⟩ := proceed_cut h
      exact ⟨s, t, rfl, hreach, ha, hrun⟩

theorem left_of_start {url : Text} (h : r.start url = .ok s) :
    r.left s = r.options.maxRedirects + r.options.retry.maxRetries := by
  obtain ⟨hretries, hredirects, -⟩ := start_eq_ok h
  rw [left, hretries, hredirects, Nat.sub_zero, Nat.sub_zero]

theorem run_attempts_length_le (r : Resolver) (url : Text) :
    (r.run url).attempts.length ≤ 1 + r.options.maxRedirects + r.options.retry.maxRetries := by
  cases h : r.start url with
  | error e => rw [run_of_start_eq_error h]; exact Nat.zero_le _
  | ok s =>
      obtain ⟨before, t, result, hreach, -, hrun⟩ := r.proceed_reaches s
      have hlength := hreach.length_add_left_le
      rw [left_of_start h] at hlength
      rw [run_of_start_eq_ok h, hrun, List.length_append, List.length_singleton]
      omega

/-- A run ends by an attempt that answers, after at most as many others as the two budgets
hold together.  At every attempt the counters are the numbers of all retries and all
redirections before it, never more than the budgets, and they fit into 32 bits, the next
increment included. -/
theorem run_within_budgets (r : Resolver) (url : Text)
    (hredirects : r.options.maxRedirects < UInt32.size - 1)
    (hretries : r.options.retry.maxRetries < UInt32.size) :
    (r.run url).attempts.length ≤ 1 + r.options.maxRedirects + r.options.retry.maxRetries ∧
    (r.run url).transfers.length ≤ (r.run url).attempts.length ∧
    ∀ s, r.start url = .ok s →
      (∃ before t result, r.Reaches s before t ∧ (r.attempt t).step = .finish result ∧
        r.run url = ⟨before ++ [r.attempt t], result⟩) ∧
      ∀ before t, r.Reaches s before t →
        before.length ≤ r.options.maxRedirects + r.options.retry.maxRetries ∧
        t.retries = before.countP (·.step.isRetry) ∧ t.retries ≤ r.options.retry.maxRetries ∧
        t.redirects = before.countP (·.step.isFollow) ∧ t.redirects ≤ r.options.maxRedirects ∧
        ((r.attempt t).step.isRetry → t.retries + 1 < UInt32.size) ∧
        t.redirects + 1 < UInt32.size := by
  refine ⟨r.run_attempts_length_le url, List.length_filterMap_le .., ?_⟩
  intro s hstart
  obtain ⟨hs, hs', -⟩ := start_eq_ok hstart
  constructor
  · rw [run_of_start_eq_ok hstart]
    exact r.proceed_reaches s
  · intro before t hreach
    have hlength := hreach.length_add_left_le
    rw [left_of_start hstart] at hlength
    have hle := hreach.retries_le (by omega)
    have hle' := hreach.redirects_le (by omega)
    refine ⟨by omega, ?_, hle, ?_, hle', ?_, by omega⟩
    · rw [hreach.retries_eq, hs, Nat.zero_add]
    · rw [hreach.redirects_eq, hs', Nat.zero_add]
    · intro hretry
      have hlt := retries_lt_of_isRetry hretry
      omega

/-- A resolver with one retry and one redirection, and a host that is
busy first, then moved. -/
def busyThenMoved : Resolver where
  store := .empty
  options := { maxRedirects := 1, retry := { maxRetries := 1 } }
  network := .ofList
    [{ status := 503 }, { status := 302, lines := ["Location: /b".toUTF8.toList] }, {}] {} ⟨0, 0⟩

/-- Both budgets are used up in a run of three attempts, the most that they allow. -/
theorem budgets_used_up :
    busyThenMoved.options.maxRedirects < UInt32.size - 1 ∧
    busyThenMoved.options.retry.maxRetries < UInt32.size ∧
    (busyThenMoved.run "http://a.example/".toList).attempts.length = 3 ∧
    (busyThenMoved.run "http://a.example/".toList).attempts.length ≤
      1 + busyThenMoved.options.maxRedirects + busyThenMoved.options.retry.maxRetries :=
  ⟨by decide, by decide, by decide +kernel,
    (run_within_budgets busyThenMoved _ (by decide) (by decide)).1⟩

end PlainLink.Resolver
