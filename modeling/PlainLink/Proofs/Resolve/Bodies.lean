/-
# Bodies that are not read

Where pages are not read there is no room for a body: one that comes ends its transfer,
and an empty one or one that is not sent at all does not.  Either way the answer is made
of the status and the header, and what tells the two apart, the mark that the body was
cut, is never asked for.  So bodies have no say in such a run.

`unmarked` forgets the mark.  An attempt with other bodies is the same up to that
(`unmarked_attempt_withBodies`), and so are the step that it leads to and the state
after it, so that the runs are compared under this view.  A transfer that fails by
itself is left its body: a body that is cut first would keep it from failing.

Main statement: `run_withBodies`.
-/
import PlainLink.Proofs.Resolve.Reach
import PlainLink.Rule.Document

namespace PlainLink

/-- The response without the mark that its body was cut. -/
def Response.unmarked (response : Response) : Response :=
  { response with truncated := false }

/-- The attempt without the mark that the body of its response was cut. -/
def Attempt.unmarked (a : Attempt) : Attempt :=
  { a with reply := a.reply.map Response.unmarked }

theorem Exchange.unmarked_answer {e : Exchange} (hfault : e.fault = none) (method : Text) :
    (e.answer method 0).map Response.unmarked =
      .ok { status := e.status, headers := .ofLines (e.lines.map Utf8.decode), body := [],
            truncated := false } := by
  rw [Exchange.answer_eq, hfault]
  split
  · rfl
  · next hfits =>
    have hempty : e.sentBody method = [] :=
      List.length_eq_zero_iff.1 (Nat.eq_zero_of_not_pos hfits)
    rw [hempty]
    rfl

/-- What does not depend on the mark is the same of attempts that differ in it alone. -/
theorem filterMap_congr_unmarked {α : Type} {f : Attempt → Option α}
    (hf : ∀ a, f a.unmarked = f a) {as bs : List Attempt}
    (h : as.map Attempt.unmarked = bs.map Attempt.unmarked) :
    as.filterMap f = bs.filterMap f := by
  have hthrough : f ∘ Attempt.unmarked = f := funext hf
  calc as.filterMap f
      = (as.map Attempt.unmarked).filterMap f := by rw [List.filterMap_map, hthrough]
    _ = (bs.map Attempt.unmarked).filterMap f := by rw [h]
    _ = bs.filterMap f := by rw [List.filterMap_map, hthrough]

namespace Resolver

/-- The resolver that meets the same network with other bodies. -/
def withBodies (r : Resolver) (bodies : Nat → List Bytes) : Resolver :=
  { r with network := fun n => { r.network n with exchange.body := bodies n } }

/-! ## The mark is not asked for -/

theorem step_of_unmarked (r : Resolver) (s : RunState) :
    (r.attempt s).step = match (r.reply s).map Response.unmarked with
      | .error f => r.onFault s f
      | .ok response => r.onResponse s response := by
  rw [attempt_step, attempt_reply]
  cases r.reply s <;> rfl

theorem after_unmarked (r : Resolver) (s : RunState) (a : Attempt) :
    r.after s a.unmarked = r.after s a := by
  obtain ⟨request, calls, transfer, reply, step⟩ := a
  cases reply <;> rfl

/-! ## Other bodies -/

section

variable {r : Resolver} {bodies : Nat → List Bytes} (hunread : r.options.readsPages = false)
  (hbodies : ∀ n,
    (r.network n).exchange.fault = none ∨ bodies n = (r.network n).exchange.body)

include hunread hbodies

theorem unmarked_reply_withBodies (s : RunState) :
    ((r.withBodies bodies).reply s).map Response.unmarked =
      (r.reply s).map Response.unmarked := by
  have hroom : r.options.transferOptions.maxBodyBytes = 0 := if_neg (by simp [hunread])
  cases hfault : (r.setup s).fault with
  | some f => rw [reply_of_fault hfault, reply_of_fault (r := r.withBodies bodies) hfault]
  | none =>
      rw [reply_of_done hfault, reply_of_done (r := r.withBodies bodies) hfault]
      show (Exchange.answer { (r.network s.attempts).exchange with body := bodies s.attempts }
          (Text.upper r.options.method) r.options.transferOptions.maxBodyBytes).map _ =
        ((r.network s.attempts).exchange.answer (Text.upper r.options.method)
          r.options.transferOptions.maxBodyBytes).map _
      rw [hroom]
      rcases hbodies s.attempts with hnone | hsame
      · rw [Exchange.unmarked_answer hnone]
        exact Exchange.unmarked_answer
          (e := { (r.network s.attempts).exchange with body := bodies s.attempts }) hnone _
      · rw [hsame]

/-- An attempt differs with other bodies in the mark alone. -/
theorem unmarked_attempt_withBodies (s : RunState) :
    ((r.withBodies bodies).attempt s).unmarked = (r.attempt s).unmarked := by
  have hreply := unmarked_reply_withBodies hunread hbodies s
  have hstep : ((r.withBodies bodies).attempt s).step = (r.attempt s).step := by
    rw [step_of_unmarked, step_of_unmarked, hreply]
    rfl
  calc ((r.withBodies bodies).attempt s).unmarked
      = ⟨r.request s, (r.setup s).calls, (r.setup s).done?,
          ((r.withBodies bodies).reply s).map Response.unmarked,
          ((r.withBodies bodies).attempt s).step⟩ := rfl
    _ = (r.attempt s).unmarked := by
        rw [hreply, hstep]
        rfl

theorem proceed_withBodies (s : RunState) :
    ((r.withBodies bodies).proceed s).attempts.map Attempt.unmarked =
        (r.proceed s).attempts.map Attempt.unmarked ∧
      ((r.withBodies bodies).proceed s).result = (r.proceed s).result := by
  have hsame := unmarked_attempt_withBodies hunread hbodies
  refine proceed_congr_view _ (fun _ t _ => hsame t) (fun _ t _ => ?_) fun _ t _ => ?_
  · have hstep := congrArg Attempt.step (hsame t)
    exact hstep
  · rw [← after_unmarked, hsame, ← after_unmarked r]
    rfl

end

/-- If pages are not wanted, or the method is `HEAD` in letters of any case, what stands in the
bodies does not count: with other bodies, in other pieces and of other lengths, the same
requests are made, the same transfers are performed, the same delays are kept, and the result
is the same.  The bodies of transfers that fail by themselves are left alone, because one that
is cut does not fail. -/
theorem run_withBodies (r : Resolver) (bodies : Nat → List Bytes) (url : Text)
    (hunread : r.options.readPages = false ∨ Text.sameLetters r.options.method "HEAD".toList)
    (hbodies : ∀ n,
      (r.network n).exchange.fault = none ∨ bodies n = (r.network n).exchange.body) :
    ((r.withBodies bodies).run url).result = (r.run url).result ∧
    ((r.withBodies bodies).run url).attempts.map (·.request) =
      (r.run url).attempts.map (·.request) ∧
    ((r.withBodies bodies).run url).transfers = (r.run url).transfers ∧
    ((r.withBodies bodies).run url).delays = (r.run url).delays := by
  have hunread : r.options.readsPages = false := by
    rcases hunread with hunwanted | hhead
    · rw [ResolveOptions.readsPages, hunwanted, Bool.false_and]
    · rw [ResolveOptions.readsPages, hhead, Bool.not_true, Bool.and_false]
  have hrun : ((r.withBodies bodies).run url).attempts.map Attempt.unmarked =
        (r.run url).attempts.map Attempt.unmarked ∧
      ((r.withBodies bodies).run url).result = (r.run url).result := by
    cases hstart : r.start url with
    | error e =>
        rw [run_of_start_eq_error hstart,
          run_of_start_eq_error (r := r.withBodies bodies) hstart]
        exact ⟨rfl, rfl⟩
    | ok s =>
        rw [run_of_start_eq_ok hstart, run_of_start_eq_ok (r := r.withBodies bodies) hstart]
        exact proceed_withBodies hunread hbodies s
  obtain ⟨hattempts, hresult⟩ := hrun
  refine ⟨hresult, ?_, ?_, ?_⟩
  · have hrequests :=
      filterMap_congr_unmarked (f := some ∘ Attempt.request) (fun _ => rfl) hattempts
    rw [List.filterMap_eq_map] at hrequests
    exact hrequests
  · exact filterMap_congr_unmarked (fun _ => rfl) hattempts
  · exact filterMap_congr_unmarked (fun _ => rfl) hattempts

/-- A rule for the pages of one site. -/
def movedRule : List BodyRule :=
  (BodyRuleText.compile ⟨"moved".toList, none, ["a.example".toList],
    ["to=(.+)".toList]⟩).toOption.toList

/-- A resolver that asks by `Head` although it would read pages, and a server that is busy
once, then moves to where it stays. -/
def headOnly : Resolver where
  store := ⟨[], movedRule, .empty⟩
  options := { method := "Head".toList, readPages := true, retry := { maxRetries := 1 } }
  network n := .at ⟨0, 0⟩ {}
    (if n = 0 then { status := 503, lines := ["Retry-After: 2".toUTF8.toList] }
    else if n = 1 then { status := 302, lines := ["Location: /b".toUTF8.toList] }
    else {})

/-- Pages that would move a reader elsewhere, in two pieces. -/
def movingPages (_ : Nat) : List Bytes :=
  ["to=http://b".toUTF8.toList, ".example/".toUTF8.toList]

/-- With the pages and without them the server's delay is kept, the same requests are made, and
the end is the same. -/
theorem movingPages_unread :
    ((headOnly.withBodies movingPages).run "http://a.example/".toList).result.toOption =
      some "http://a.example/b".toList ∧
    ((headOnly.withBodies movingPages).run "http://a.example/".toList).attempts.map (·.request) =
      (headOnly.run "http://a.example/".toList).attempts.map (·.request) ∧
    ((headOnly.withBodies movingPages).run "http://a.example/".toList).transfers =
      (headOnly.run "http://a.example/".toList).transfers ∧
    ((headOnly.withBodies movingPages).run "http://a.example/".toList).delays =
      [.ofSeconds 2] := by
  have hfaults : ∀ n, (headOnly.network n).exchange.fault = none := by
    intro n
    show (if n = 0 then _ else if n = 1 then _ else _ : Exchange).fault = none
    split
    · rfl
    · split <;> rfl
  obtain ⟨hresult, hrequests, htransfers, hdelays⟩ := run_withBodies headOnly movingPages
    "http://a.example/".toList (.inr (by decide)) fun n => .inl (hfaults n)
  refine ⟨?_, hrequests, htransfers, ?_⟩
  · rw [hresult]
    decide +kernel
  · rw [hdelays]
    decide +kernel

/-- Asked for by `GET`, the last page does move the resolver. -/
example : ((({ headOnly with options.method := "GET".toList } : Resolver).withBodies
  movingPages).run
    "http://a.example/".toList).result.toOption = some "http://b.example/".toList := by
  decide +kernel

end Resolver

end PlainLink
