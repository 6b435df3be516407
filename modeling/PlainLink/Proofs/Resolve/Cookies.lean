/-
# Where the cookies of a request come from

A request carries only cookies that its own run has set.  Each of them was set by a line
of a response to an earlier request, was let in by the policy, is alive, and goes to a
host that its line covers together with the host that sent it.  What a failed transfer
brought leaves no trace, in the cookies or elsewhere.

The invariant is about the jar of a state: each of its cookies was set during the
attempts before it (`SetDuring`, `Reaches.setDuring`).  One attempt adds what the lines
of its response have set (`mem_after_jar`), and a repeated attempt counts as well: the
cookies of a response with a status that is repeated go out with the repetition.  What
the jar checks when it gives a cookie to a request makes it a warranted one
(`SetDuring.warranted`).

Main statement: `cookies_have_origin`.
-/
import PlainLink.Proofs.Cookie.Origin
import PlainLink.Proofs.Resolve.Reach

namespace PlainLink.Resolver

variable {r : Resolver} {s t : RunState} {before : List Attempt} {c : Cookie} {line : Text}
  {origin : Url}

/-! ## Cookies that were set -/

/-- One of some attempts, a request for `origin`, brought a response with the line that sets
the cookie, and the policy let the cookie in. -/
def SetDuring (r : Resolver) (attempts : List Attempt) (c : Cookie) (line : Text)
    (origin : Url) :
    Prop :=
  ∃ i a response, attempts[i]? = some a ∧ a.request.url = origin ∧ a.reply = .ok response ∧
    line ∈ response.headers.all "set-cookie".toList ∧
    Cookie.ofLine? line origin (r.network i).keptAt = some c ∧
    (r.options.policy r.store).allows c.policyDomain

theorem SetDuring.append (h : r.SetDuring before c line origin) (more : List Attempt) :
    r.SetDuring (before ++ more) c line origin := by
  obtain ⟨i, a, response, hi, hset⟩ := h
  refine ⟨i, a, response, ?_, hset⟩
  rw [List.getElem?_append_left (List.getElem?_eq_some_iff.1 hi).1, hi]

theorem SetDuring.exists_ofLine? (h : r.SetDuring before c line origin) :
    ∃ now, Cookie.ofLine? line origin now = some c := by
  obtain ⟨i, a, response, -, -, -, -, hset, -⟩ := h
  exact ⟨_, hset⟩

theorem SetDuring.allowed (h : r.SetDuring before c line origin) :
    (r.options.policy r.store).allows c.policyDomain := by
  obtain ⟨i, a, response, -, -, -, -, -, hallowed⟩ := h
  exact hallowed

theorem jar_of_start {url : Text} (h : r.start url = .ok s) :
    s.jar = .empty (r.options.policy r.store) ∧ s.attempts = 0 := by
  obtain ⟨hs, -⟩ := start_state h
  rw [hs]
  exact ⟨rfl, rfl⟩

theorem after_policy (r : Resolver) (s : RunState) (a : Attempt) :
    (r.after s a).jar.policy = s.jar.policy := by
  rw [after_jar]
  split
  · exact CookieJar.policy_read ..
  · rfl

theorem Reaches.policy_eq (h : r.Reaches s before t) : t.jar.policy = s.jar.policy := by
  induction h with
  | start => rfl
  | next _ _ ih => rw [after_policy, ih]

/-- What an attempt adds to the jar, a line of its response has set. -/
theorem mem_after_jar (h : c ∈ (r.after s (r.attempt s)).jar.cookies) :
    c ∈ s.jar.cookies ∨
      ∃ response line, (r.attempt s).reply = .ok response ∧
        line ∈ response.headers.all "set-cookie".toList ∧
        Cookie.ofLine? line s.current (r.network s.attempts).keptAt = some c ∧
        s.jar.policy.allows c.policyDomain := by
  rw [after_jar] at h
  split at h
  · next response hreply =>
      rcases CookieJar.mem_of_mem_read h with hkept | ⟨line, hline, hset⟩
      · exact .inl hkept
      · exact .inr ⟨response, line, hreply, hline, hset⟩
  · exact .inl h

/-- Whatever the turns of a run, each cookie in its jar was set during it. -/
theorem Reaches.setDuring (h : r.Reaches s before t)
    (hjar : s.jar = .empty (r.options.policy r.store)) (hfirst : s.attempts = 0)
    (hc : c ∈ t.jar.cookies) : ∃ line origin, r.SetDuring before c line origin := by
  induction h with
  | start =>
      rw [hjar] at hc
      exact absurd hc List.not_mem_nil
  | @next before t hreach _ ih =>
      rcases mem_after_jar hc with hkept | ⟨response, line, hreply, hline, hset, hallowed⟩
      · obtain ⟨line, origin, hset⟩ := ih hkept
        exact ⟨line, origin, hset.append _⟩
      · rw [hreach.attempts_eq, hfirst, Nat.zero_add] at hset
        rw [hreach.policy_eq, hjar] at hallowed
        exact ⟨line, t.current, before.length, r.attempt t, response,
          List.getElem?_concat_length, r.attempt_request_url t, hreply, hline, hset, hallowed⟩

/-! ## Cookies that are sent -/

/-- A request for `u` that comes after some attempts may carry the cookie. -/
structure Warranted (r : Resolver) (attempts : List Attempt) (u : Url) (c : Cookie) : Prop where
  alive : ¬ c.isExpired (r.network attempts.length).chosenAt
  encrypted : c.secure → u.scheme = .https
  path : Cookie.pathCovers c.path (Cookie.requestPath u)
  /-- It was set for the host that is asked, or for a domain of the two hosts. -/
  hosts : ∃ line origin, r.SetDuring attempts c line origin ∧
    (c.hostOnly ∧ Cookie.namedDomain? line = none ∧ u.host = origin.host ∨
      ∃ domain, Cookie.namedDomain? line = some domain ∧ Cookie.domainCovers domain origin.host ∧
        Cookie.domainCovers domain u.host)

/-- What `isFor` checks of a cookie that was set. -/
theorem SetDuring.warranted {u : Url} (h : r.SetDuring before c line origin)
    (hfor : c.isFor u (r.network before.length).chosenAt) : r.Warranted before u c := by
  obtain ⟨⟨⟨halive, hsecure⟩, hhost⟩, hpath⟩ :
      ((c.isExpired (r.network before.length).chosenAt = false ∧
        (c.secure = false ∨ u.scheme = .https)) ∧ c.coversHost u.host) ∧
        Cookie.pathCovers c.path (Cookie.requestPath u) := by
    simpa [Cookie.isFor] using hfor
  refine ⟨by simp [halive], fun hc => ?_, hpath, line, origin, h, ?_⟩
  · rcases hsecure with hsecure | hsecure
    · rw [hc] at hsecure
      cases hsecure
    · exact hsecure
  · obtain ⟨now, hset⟩ := h.exists_ofLine?
    rcases (Cookie.ofLine?_eq_some hset).2 with
      ⟨hnone, honly, hdomain⟩ | ⟨hsome, hwide, hcovers⟩
    · left
      rw [Cookie.coversHost, if_pos honly, hdomain] at hhost
      exact ⟨honly, hnone, beq_iff_eq.1 hhost⟩
    · right
      rw [Cookie.coversHost, if_neg hwide] at hhost
      exact ⟨c.domain, hsome, hcovers, hhost⟩

/-- The fields of a request are those of the options, or list cookies that it may carry. -/
theorem request_headers (h : r.Reaches s before t)
    (hjar : s.jar = .empty (r.options.policy r.store)) (hfirst : s.attempts = 0) :
    (r.request t).headers = r.options.headers ∨
      ∃ value, (r.request t).headers = r.options.headers.replace "Cookie".toList value ∧
        ∀ pair ∈ Cookie.pairs value, ∃ c : Cookie, c.text = pair ∧
          r.Warranted before t.current c := by
  have hnow : t.attempts = before.length := by rw [h.attempts_eq, hfirst, Nat.zero_add]
  rcases t.jar.attach_cases t.current (r.network t.attempts).chosenAt r.options.headers with
    hnone | ⟨first, more, hcookies, hattach⟩
  · exact .inl hnone
  · right
    have hsent : ∀ c ∈ first :: more,
        (∃ line origin, r.SetDuring before c line origin) ∧
          c.isFor t.current (r.network before.length).chosenAt := by
      intro c hc
      rw [← hcookies, hnow] at hc
      obtain ⟨hkept, hfor⟩ := CookieJar.mem_cookiesFor.1 hc
      exact ⟨h.setDuring hjar hfirst hkept, hfor⟩
    have htext : ∀ c ∈ first :: more, ';' ∉ c.text ∧ Text.trim c.text = c.text := by
      intro c hc
      obtain ⟨⟨line, origin, hset⟩, -⟩ := hsent c hc
      obtain ⟨now, hset⟩ := hset.exists_ofLine?
      exact Cookie.text_of_ofLine? hset
    refine ⟨_, hattach, fun pair hpair => ?_⟩
    rw [Cookie.pairs_join htext] at hpair
    obtain ⟨c, hc, rfl⟩ := List.mem_map.1 hpair
    obtain ⟨⟨line, origin, hset⟩, hfor⟩ := hsent c hc
    exact ⟨c, rfl, hset.warranted hfor⟩

/-! ## Transfers that fail -/

/-- The resolver that meets the same network, except that other lines came
before a transfer failed. -/
def withFailedLines (r : Resolver) (lines : Nat → List Bytes) : Resolver :=
  { r with
    network := fun n =>
      match (r.network n).exchange.answer (Text.upper r.options.method)
          r.options.transferOptions.maxBodyBytes with
      | .error _ => { r.network n with exchange.lines := lines n }
      | .ok _ => r.network n }

theorem answer_of_error {e : Exchange} {method : Text} {most : Nat} {f : Fault}
    (h : e.answer method most = .error f) (lines : List Bytes) :
    ({ e with lines } : Exchange).answer method most = .error f := by
  have hsent : Exchange.sentBody { e with lines } method = e.sentBody method := rfl
  rw [Exchange.answer_eq] at h ⊢
  rw [hsent]
  by_cases hlong : most < (e.sentBody method).length
  · rw [if_pos hlong] at h
    cases h
  · rw [if_neg hlong] at h ⊢
    cases hfault : e.fault with
    | none => rw [hfault] at h; cases h
    | some g => rw [hfault] at h; exact h

theorem network_withFailedLines (r : Resolver) (lines : Nat → List Bytes) (n : Nat) :
    ∃ e : Exchange, (r.withFailedLines lines).network n = { r.network n with exchange := e } ∧
      e.answer (Text.upper r.options.method) r.options.transferOptions.maxBodyBytes =
        (r.network n).exchange.answer (Text.upper r.options.method)
          r.options.transferOptions.maxBodyBytes := by
  unfold withFailedLines
  dsimp only
  split
  · next f hf => exact ⟨_, rfl, (answer_of_error hf (lines n)).trans hf.symm⟩
  · exact ⟨_, rfl, rfl⟩

theorem attempt_withFailedLines (r : Resolver) (lines : Nat → List Bytes) (s : RunState) :
    (r.withFailedLines lines).attempt s = r.attempt s := by
  obtain ⟨e, hnetwork, hanswer⟩ := r.network_withFailedLines lines s.attempts
  have hrequest : (r.withFailedLines lines).request s = r.request s := by
    unfold request
    rw [hnetwork]
    rfl
  have hsetup : (r.withFailedLines lines).setup s = r.setup s := by
    unfold setup
    rw [hrequest, hnetwork]
    rfl
  have hreply : (r.withFailedLines lines).reply s = r.reply s := by
    cases hfault : (r.setup s).fault with
    | some f => rw [reply_of_fault hfault, reply_of_fault (hsetup ▸ hfault)]
    | none =>
        rw [reply_of_done hfault, reply_of_done (hsetup ▸ hfault), hnetwork]
        exact hanswer
  refine attempt_congr hrequest hsetup hreply (fun _ _ => rfl) fun response _ => ?_
  unfold onResponse
  rw [hnetwork]
  rfl

theorem after_withFailedLines (r : Resolver) (lines : Nat → List Bytes) (s : RunState)
    (a : Attempt) : (r.withFailedLines lines).after s a = r.after s a := by
  obtain ⟨e, hnetwork, -⟩ := r.network_withFailedLines lines s.attempts
  unfold after
  rw [hnetwork]

theorem run_withFailedLines (r : Resolver) (lines : Nat → List Bytes) (url : Text) :
    (r.withFailedLines lines).run url = r.run url := by
  have hproceed := proceed_congr (r.attempt_withFailedLines lines)
    (r.after_withFailedLines lines)
  unfold run
  rw [show (r.withFailedLines lines).start url = r.start url from rfl]
  cases r.start url with
  | error e => rfl
  | ok s => exact hproceed s

/-- A request has the fields of the options, except for a `Cookie` field that lists cookies of
its own run: each was set by a line of a response to an earlier request and let in by the
policy, is alive at the time, keeps to encrypted connections if it has to, and covers the
path; and either the host is the one that set it, or the line names a domain that covers both
hosts.  Where the policy lets none in, the fields are those of the options.  Lines of failed
transfers never count. -/
theorem cookies_have_origin (r : Resolver) (url : Text) :
    (∀ before a behind, (r.run url).attempts = before ++ a :: behind →
      a.request.headers = r.options.headers ∨
        ∃ value, a.request.headers = r.options.headers.replace "Cookie".toList value ∧
          ∀ pair ∈ Cookie.pairs value,
            ∃ c : Cookie, c.text = pair ∧ r.Warranted before a.request.url c) ∧
    (r.options.policy r.store = .rejectAll →
      ∀ a ∈ (r.run url).attempts, a.request.headers = r.options.headers) ∧
    ∀ lines, (r.withFailedLines lines).run url = r.run url := by
  have horigin : ∀ before a behind, (r.run url).attempts = before ++ a :: behind →
      a.request.headers = r.options.headers ∨
        ∃ value, a.request.headers = r.options.headers.replace "Cookie".toList value ∧
          ∀ pair ∈ Cookie.pairs value,
            ∃ c : Cookie, c.text = pair ∧ r.Warranted before a.request.url c := by
    intro before a behind hrun
    obtain ⟨s, t, hstart, hreach, rfl, -⟩ := run_cut hrun
    obtain ⟨hjar, hfirst⟩ := jar_of_start hstart
    rw [attempt_request_url, attempt_request]
    exact request_headers hreach hjar hfirst
  refine ⟨horigin, ?_, fun lines => r.run_withFailedLines lines url⟩
  intro hreject a ha
  obtain ⟨before, behind, hrun⟩ := List.append_of_mem ha
  rcases horigin before a behind hrun with hplain | ⟨value, -, hpairs⟩
  · exact hplain
  · -- A field lists a cookie at least, and the policy would have let it in.
    obtain ⟨pair, more, hcut⟩ := List.exists_cons_of_ne_nil (List.splitOn_ne_nil ';' value)
    have hmem : Text.trim pair ∈ Cookie.pairs value := by
      rw [Cookie.pairs, hcut]
      exact List.mem_cons_self
    obtain ⟨c, -, hwarranted⟩ := hpairs _ hmem
    obtain ⟨line, origin, hset, -⟩ := hwarranted.hosts
    have hallowed := hset.allowed
    rw [hreject] at hallowed
    cases hallowed

/-- A resolver that keeps all cookies, and a host that sets one for its domain and moves to a
subdomain; the next transfer fails after a line that would set another. -/
def sharedCookie : Resolver where
  store := .empty
  options := { cookiePolicy := some .allowAll, retry := { maxRetries := 1 } }
  network := .ofList
    [{ status := 302, lines := ["Set-Cookie: a=1; Domain=a.example; Path=/".toUTF8.toList,
        "Location: http://b.a.example/x".toUTF8.toList] },
      { lines := ["Set-Cookie: b=2".toUTF8.toList], fault := some .timeout }, {}] {} ⟨0, 0⟩

/-- The cookie goes to the subdomain, before the failure and after it, and no other does. -/
theorem cookies_shared :
    ∃ a b c, (sharedCookie.run "http://a.example/".toList).attempts = [a, b, c] ∧
      b.request.headers.all "Cookie".toList = ["a=1".toList] ∧
      c.request.headers.all "Cookie".toList = ["a=1".toList] ∧
      ∃ cookie : Cookie, cookie.text = "a=1".toList ∧
        sharedCookie.Warranted [a, b] c.request.url cookie := by
  have hcookies : (sharedCookie.run "http://a.example/".toList).attempts.map
      (·.request.headers.all "Cookie".toList) = [[], ["a=1".toList], ["a=1".toList]] := by
    decide +kernel
  obtain ⟨a, rest, hattempts, -, hrest⟩ := List.map_eq_cons_iff.1 hcookies
  obtain ⟨b, rest, rfl, hb, hrest⟩ := List.map_eq_cons_iff.1 hrest
  obtain ⟨c, rest, rfl, hc, hrest⟩ := List.map_eq_cons_iff.1 hrest
  obtain rfl := List.map_eq_nil_iff.1 hrest
  refine ⟨a, b, c, hattempts, hb, hc, ?_⟩
  rcases (cookies_have_origin sharedCookie "http://a.example/".toList).1 [a,
      b] c [] hattempts with
    hplain | ⟨value, hvalue, hpairs⟩
  · have hnone : sharedCookie.options.headers.all "Cookie".toList = [] := by decide +kernel
    rw [hplain, hnone] at hc
    cases hc
  · rw [hvalue, Headers.all_replace] at hc
    obtain rfl : value = "a=1".toList := by simpa using hc
    exact hpairs _ (by decide +kernel)

end PlainLink.Resolver
