/-
# Failures that pass

A failure that is repeated leaves no trace but its retry: the URL, the cookies and the
redirections stay what they were, so that the attempt after it asks what the failed one
asked.  A run in which such failures come between the answers is therefore the run
without them, each request of which is made once more for each failure before its
answer.

The two runs are followed side by side.  `Shadows` relates their states: one of them
stands before answer `k`, and the other has some of the failures before that answer
behind it.  A failure moves the second run alone (`Shadows.retry`), the answer moves
both (`Shadows.answered`), and the induction of `Shadows.proceed_eq` is on what the
budgets leave to the run without failures.

The failures may be of any kind that is repeated, a setting that fails included; only
where the calls of a failed attempt fail as those of the answered one do is the same
transfer repeated too.

Main statement: `run_withInserted`.
-/
import Mathlib.Data.List.Basic
import PlainLink.Proofs.Resolve.Reach

namespace PlainLink

/-! ## Encounters with others inserted -/

namespace Network

/-- How many encounters are inserted before encounter `k`. -/
def insertedBefore (inserted : Nat → List Encounter) (k : Nat) : Nat :=
  ((List.range k).flatMap inserted).length

/-- The encounters in their order, those of `inserted k` right before encounter `k`. -/
def interleave (network : Network) (inserted : Nat → List Encounter) : Network := fun n =>
  (((List.range (n + 1)).flatMap fun k => inserted k ++ [network k])[n]?).getD (network n)

variable {network : Network} {inserted : Nat → List Encounter} {k : Nat}

theorem insertedBefore_succ (inserted : Nat → List Encounter) (k : Nat) :
    insertedBefore inserted (k + 1) = insertedBefore inserted k + (inserted k).length := by
  simp [insertedBefore, List.range_succ]

theorem length_blocks (network : Network) (inserted : Nat → List Encounter) (k : Nat) :
    ((List.range k).flatMap fun j => inserted j ++ [network j]).length =
      insertedBefore inserted k + k := by
  induction k with
  | zero => rfl
  | succ k ih =>
      rw [List.range_succ, List.flatMap_append, List.length_append, ih, insertedBefore_succ]
      simp
      omega

theorem interleave_eq {i : Nat} {e : Encounter} (h : (inserted k ++ [network k])[i]? = some e) :
    interleave network inserted (insertedBefore inserted k + k + i) = e := by
  have hsplit : List.range (insertedBefore inserted k + k + i + 1) =
      List.range k ++ k :: (List.range (insertedBefore inserted k + i)).map (k + 1 + ·) := by
    rw [show insertedBefore inserted k + k + i + 1 = k + (1 + (insertedBefore inserted k + i)) by
        omega,
      List.range_add, List.range_add, List.map_append, List.map_map]
    simp [Function.comp_def, Nat.add_assoc]
  have hi := (List.getElem?_eq_some_iff.1 h).1
  rw [interleave, hsplit, List.flatMap_append, List.flatMap_cons,
    List.getElem?_append_right (by rw [length_blocks]; omega), length_blocks,
    Nat.add_sub_cancel_left, List.getElem?_append_left hi, h]
  rfl

end Network

namespace Resolver

/-! ## Failures and answers -/

/-- The encounter is a failure that is repeated, and sets no cookie: a request that
fails in the network or for lack of time, whatever arrived before, or a response with a
status that is repeated. -/
def Transient (r : Resolver) (request : Request) (e : Encounter) : Prop :=
  match request.fetch r.options.transferOptions e.conditions e.exchange with
  | .error f => Cause.ofFault f ≠ .other
  | .ok response => response.status ∈ r.options.repeatedStatuses ∧
      response.headers.all "set-cookie".toList = []

instance (r : Resolver) (request : Request) (e : Encounter) :
    Decidable (r.Transient request e) :=
  match h : request.fetch r.options.transferOptions e.conditions e.exchange with
  | .error f => decidable_of_iff (Cause.ofFault f ≠ .other) (by rw [Transient, h])
  | .ok response => decidable_of_iff (response.status ∈ r.options.repeatedStatuses ∧
      response.headers.all "set-cookie".toList = []) (by rw [Transient, h])

/-- The attempt was answered, by a response with a status that is not repeated. -/
def Answered (r : Resolver) (a : Attempt) : Prop :=
  ∃ response, a.reply = .ok response ∧ response.status ∉ r.options.repeatedStatuses

/-- The resolver that meets others between the encounters of its network. -/
def withInserted (r : Resolver) (inserted : Nat → List Encounter) : Resolver :=
  { r with network := r.network.interleave inserted }

/-- What an attempt asks and sends. -/
def sent (a : Attempt) : Request × Option Transfer :=
  (a.request, a.transfer)

/-- What is sent for a request in an encounter. -/
def sentIn (r : Resolver) (request : Request) (e : Encounter) : Request × Option Transfer :=
  (request, (request.setUp r.options.transferOptions e.conditions).done?)

/-! ## Two runs side by side -/

/-- The run without failures stands at `s`, before answer `k`, and the one with them at `s'`,
where `i` of the failures before that answer have passed. -/
structure Shadows (inserted : Nat → List Encounter) (k i : Nat) (s s' : RunState) : Prop where
  current : s'.current = s.current
  jar : s'.jar = s.jar
  redirects : s'.redirects = s.redirects
  attempts : s.attempts = k
  place : s'.attempts = Network.insertedBefore inserted k + k + i
  retries : s'.retries = Network.insertedBefore inserted k + i

variable {r : Resolver} {inserted : Nat → List Encounter} {k i : Nat} {s s' : RunState}
  {e : Encounter}

theorem Shadows.network_eq (h : Shadows inserted k i s s')
    (he : (inserted k ++ [r.network k])[i]? = some e) :
    (r.withInserted inserted).network s'.attempts = e := by
  rw [h.place]
  exact Network.interleave_eq he

theorem Shadows.request_eq (h : Shadows inserted k i s s')
    (he : (inserted k ++ [r.network k])[i]? = some e)
    (hclock : e.chosenAt = (r.network k).chosenAt) :
    (r.withInserted inserted).request s' = r.request s := by
  unfold request
  rw [h.network_eq he, h.current, h.jar, hclock, h.attempts]
  rfl

theorem Shadows.reply_eq (h : Shadows inserted k i s s')
    (he : (inserted k ++ [r.network k])[i]? = some e)
    (hclock : e.chosenAt = (r.network k).chosenAt) :
    (r.withInserted inserted).reply s' =
      (r.request s).fetch r.options.transferOptions e.conditions e.exchange := by
  unfold reply
  rw [h.request_eq he hclock, h.network_eq he]
  rfl

theorem Shadows.sent_eq (h : Shadows inserted k i s s')
    (he : (inserted k ++ [r.network k])[i]? = some e)
    (hclock : e.chosenAt = (r.network k).chosenAt) :
    sent ((r.withInserted inserted).attempt s') = r.sentIn (r.request s) e := by
  rw [sent, attempt_request, attempt_transfer, setup, h.request_eq he hclock, h.network_eq he]
  rfl

/-- As long as there are retries left, a failure is repeated, and leaves the jar as it is. -/
theorem isRetry_of_transient {q : Request}
    (hreply : r.reply s = q.fetch r.options.transferOptions e.conditions e.exchange)
    (htransient : r.Transient q e) (hroom : s.retries < r.options.retry.maxRetries) :
    (r.attempt s).step.isRetry ∧ (r.after s (r.attempt s)).jar = s.jar := by
  rw [Transient] at htransient
  rw [after_jar, attempt_step, attempt_reply, hreply]
  cases hanswer : q.fetch r.options.transferOptions e.conditions e.exchange with
  | error f =>
      rw [hanswer] at htransient
      have hnext := RetryPolicy.next?_eq_some_iff.2 ⟨hroom, htransient, rfl⟩
      refine ⟨?_, rfl⟩
      dsimp only
      rw [onFault, hnext]
      rfl
  | ok response =>
      rw [hanswer] at htransient
      obtain ⟨hstatus, hcookies⟩ := htransient
      have hcause : Cause.ofStatus r.options.repeatedStatuses response.status ≠ .other :=
        fun h => Cause.ofStatus_eq_other_iff.1 h hstatus
      have hnext := RetryPolicy.next?_eq_some_iff.2 ⟨hroom, hcause, rfl⟩
      dsimp only
      rw [hcookies, onResponse, if_pos ⟨hcause, Nat.zero_lt_of_lt hroom⟩, hnext]
      exact ⟨rfl, rfl⟩

/-- A failure is repeated and changes nothing but the counters. -/
theorem Shadows.retry (h : Shadows inserted k i s s') (he : (inserted k)[i]? = some e)
    (hclock : e.chosenAt = (r.network k).chosenAt) (htransient : r.Transient (r.request s) e)
    (hleft : Network.insertedBefore inserted k + i < r.options.retry.maxRetries) :
    ((r.withInserted inserted).attempt s').step.isRetry ∧
      Shadows inserted k (i + 1) s
        ((r.withInserted inserted).after s' ((r.withInserted inserted).attempt s')) := by
  have hi := (List.getElem?_eq_some_iff.1 he).1
  have hreply := h.reply_eq ((List.getElem?_append_left hi).trans he) hclock
  have hroom : s'.retries < (r.withInserted inserted).options.retry.maxRetries := by
    rw [h.retries]
    exact hleft
  obtain ⟨hstep, hjar⟩ := isRetry_of_transient hreply htransient hroom
  have hnofollow : ((r.withInserted inserted).attempt s').step.isFollow = false := by
    cases hcase : ((r.withInserted inserted).attempt s').step with
    | retry delay => rfl
    | _ => simp [hcase, Step.isRetry] at hstep
  refine ⟨hstep, ?_, hjar.trans h.jar, ?_, h.attempts, ?_, ?_⟩
  · rw [after_current_of_isRetry hstep, h.current]
  · rw [after_redirects, hnofollow, h.redirects]
    rfl
  · rw [after_attempts, h.place, Nat.add_assoc _ i 1]
  · rw [after_retries, if_pos hstep, h.retries, Nat.add_assoc]

/-- All failures before an answer are repeated, with the request that it is the answer to. -/
theorem Shadows.failures (h : Shadows inserted k i s s') (hi : i ≤ (inserted k).length)
    (hclock : ∀ e ∈ inserted k, e.chosenAt = (r.network k).chosenAt)
    (htransient : ∀ e ∈ inserted k, r.Transient (r.request s) e)
    (hbudget : Network.insertedBefore inserted (k + 1) ≤ r.options.retry.maxRetries) :
    ∃ before t, (r.withInserted inserted).Reaches s' before t ∧
      before.map sent = ((inserted k).drop i).map (r.sentIn (r.request s)) ∧
      Shadows inserted k (inserted k).length s t := by
  induction hmissing : (inserted k).length - i generalizing i s' with
  | zero =>
      obtain rfl : i = (inserted k).length := by omega
      exact ⟨[], s', .start, by simp, h⟩
  | succ missing ih =>
      have hlt : i < (inserted k).length := by omega
      have hleft : Network.insertedBefore inserted k + i < r.options.retry.maxRetries := by
        rw [Network.insertedBefore_succ] at hbudget
        omega
      have he := List.getElem?_eq_getElem hlt
      have hmem := List.getElem_mem hlt
      obtain ⟨hstep, hnext⟩ := h.retry he (hclock _ hmem) (htransient _ hmem) hleft
      obtain ⟨before, t, hreach, hbefore, hend⟩ := ih hnext hlt (by omega)
      have hgoes : ((r.withInserted inserted).attempt s').step.continues := by
        cases hcase : ((r.withInserted inserted).attempt s').step with
        | finish result => rw [hcase] at hstep; cases hstep
        | _ => rfl
      refine ⟨_, t, hreach.cons hgoes, ?_, hend⟩
      rw [List.map_cons, hbefore, List.drop_eq_getElem_cons hlt, List.map_cons,
        h.sent_eq ((List.getElem?_append_left hlt).trans he) (hclock _ hmem)]

/-- After the failures the answer comes to the same attempt as without them. -/
theorem Shadows.answered (h : Shadows inserted k (inserted k).length s s')
    (hanswered : r.Answered (r.attempt s)) :
    (r.withInserted inserted).attempt s' = r.attempt s ∧
    ((r.attempt s).step.isFollow →
      Shadows inserted (k + 1) 0 (r.after s (r.attempt s))
        ((r.withInserted inserted).after s' (r.attempt s))) := by
  obtain ⟨response, hreply, hstatus⟩ := hanswered
  have hnetwork : (r.withInserted inserted).network s'.attempts = r.network s.attempts := by
    rw [h.network_eq List.getElem?_concat_length, h.attempts]
  have hrequest := h.request_eq (r := r) List.getElem?_concat_length rfl
  have hsame : (r.withInserted inserted).attempt s' = r.attempt s := by
    refine attempt_congr hrequest ?_ ?_ (fun f hf => ?_) fun other hother => ?_
    · rw [setup, hrequest, hnetwork]
      rfl
    · rw [reply, hrequest, hnetwork]
      rfl
    · cases hf.symm.trans hreply
    · cases hother.symm.trans hreply
      have hcause : Cause.ofStatus r.options.repeatedStatuses response.status = .other :=
        Cause.ofStatus_eq_other_iff.2 hstatus
      rw [onResponse, onResponse, if_neg fun hrepeated => hrepeated.1 hcause,
        if_neg fun hrepeated => hrepeated.1 hcause, h.current, h.redirects]
      rfl
  refine ⟨hsame, fun hfollow => ?_⟩
  cases hstep : (r.attempt s).step with
  | follow target next =>
      have hnoretry : (r.attempt s).step.isRetry = false := by rw [hstep]; rfl
      refine ⟨?_, ?_, ?_, ?_, ?_, ?_⟩
      · rw [after_current_of_follow hstep, after_current_of_follow hstep]
      · rw [after_jar, after_jar, hreply, h.jar, h.current, hnetwork]
      · rw [after_redirects, after_redirects, h.redirects]
      · rw [after_attempts, h.attempts]
      · rw [after_attempts, h.place, Network.insertedBefore_succ]
        omega
      · rw [after_retries, hnoretry, h.retries, Network.insertedBefore_succ]
        rfl
  | _ => rw [hstep] at hfollow; cases hfollow

/-- From there on the two runs end alike. -/
theorem Shadows.proceed_eq (h : Shadows inserted k 0 s s')
    (hclock : ∀ k, ∀ e ∈ inserted k, e.chosenAt = (r.network k).chosenAt)
    (hanswered : ∀ a ∈ (r.proceed s).attempts, r.Answered a)
    (htransient : ∀ n a, (r.proceed s).attempts[n]? = some a →
      ∀ e ∈ inserted (k + n), r.Transient a.request e)
    (hbudget : ∀ k, Network.insertedBefore inserted k ≤ r.options.retry.maxRetries) :
    ((r.withInserted inserted).proceed s').result = (r.proceed s).result ∧
    ((r.withInserted inserted).proceed s').attempts.map sent =
      ((r.proceed s).attempts.zipIdx k).flatMap fun (a, j) =>
        (inserted j).map (r.sentIn a.request) ++ [sent a] := by
  induction hleft : r.left s using Nat.strongRecOn generalizing k s s' with
  | ind left ih =>
      subst hleft
      obtain ⟨behind, hhead⟩ := r.proceed_head s
      have hfirst : r.Answered (r.attempt s) := hanswered _ (hhead ▸ List.mem_cons_self)
      obtain ⟨response, hreply, hstatus⟩ := id hfirst
      obtain ⟨before, t, hreach, hbefore, hend⟩ := h.failures (Nat.zero_le _) (hclock k)
        (htransient 0 (r.attempt s) (by rw [hhead]; rfl)) (hbudget (k + 1))
      obtain ⟨hsame, hnext⟩ := hend.answered hfirst
      rw [List.drop_zero] at hbefore
      rw [hreach.proceed_eq]
      cases hstep : (r.attempt s).step with
      | finish result =>
          have hstep' : ((r.withInserted inserted).attempt t).step = .finish result := by
            rw [hsame, hstep]
          rw [proceed_of_finish hstep, proceed_of_finish hstep', hsame]
          simp [hbefore]
      | retry delay =>
          -- The status of the response is none that is repeated.
          have hleads := r.attempt_leads s
          rw [hreply, hstep] at hleads
          cases hleads with
          | statusRetried hrepeats _ _ => exact absurd hrepeats.1 hstatus
      | follow target next =>
          have hgoes : (r.attempt s).step.continues := by rw [hstep]; rfl
          have hgoes' : ((r.withInserted inserted).attempt t).step.continues := by
            rw [hsame]
            exact hgoes
          rw [proceed_of_continues hgoes] at hanswered htransient ⊢
          rw [proceed_of_continues hgoes', hsame]
          obtain ⟨hresult, hrest⟩ := ih _ (left_after_lt hgoes) (hnext (by rw [hstep]; rfl))
            (fun a ha => hanswered a (List.mem_cons_of_mem _ ha))
            (fun n a ha => by simpa [Nat.add_assoc, Nat.add_comm 1]
              using htransient (n + 1) a ha)
            rfl
          refine ⟨hresult, ?_⟩
          simp [hbefore, hrest, List.zipIdx_cons]

/-- What an attempt of a run sends is what is sent for its request in the
encounter at its place. -/
theorem sent_eq_of_run {url : Text} {n : Nat} {a : Attempt}
    (h : (r.run url).attempts[n]? = some a) : sent a = r.sentIn a.request (r.network n) := by
  obtain ⟨hn, rfl⟩ := List.getElem?_eq_some_iff.1 h
  have hcut : (r.run url).attempts =
      (r.run url).attempts.take n ++ (r.run url).attempts[n] ::
        (r.run url).attempts.drop (n + 1) := by
    rw [← List.drop_eq_getElem_cons hn, List.take_append_drop]
  obtain ⟨s, t, hstart, hreach, ha, -⟩ := run_cut hcut
  have hattempts : t.attempts = n := by
    rw [hreach.attempts_eq, (start_state hstart).1, List.length_take_of_le (Nat.le_of_lt hn)]
    exact Nat.zero_add n
  rw [ha, ← hattempts]
  rfl

/-- Take a run in which every transfer is answered by a status that is not repeated, and a
network that puts failures between the answers, no more in all than there are retries:
requests that fail for a cause that is repeated, and responses with a repeated status that
set no cookie, each while the clock stands still.  The result stays the same, and every
request is made once more for each failure before its answer; and where the calls that set
the options of its transfer get what they get before the answer, the same transfer is
performed once more too. -/
theorem run_withInserted (r : Resolver) (url : Text) (inserted : Nat → List Encounter)
    (hclock : ∀ k, ∀ e ∈ inserted k, e.chosenAt = (r.network k).chosenAt)
    (hanswered : ∀ a ∈ (r.run url).attempts, r.Answered a)
    (htransient : ∀ k a, (r.run url).attempts[k]? = some a →
      ∀ e ∈ inserted k, r.Transient a.request e)
    (hbudget : ∀ k, ((List.range k).flatMap inserted).length ≤ r.options.retry.maxRetries) :
    ((r.withInserted inserted).run url).result = (r.run url).result ∧
    ((r.withInserted inserted).run url).attempts.map (·.request) =
      ((r.run url).attempts.zipIdx.flatMap fun (a, k) =>
        List.replicate ((inserted k).length + 1) a.request) ∧
    ((∀ k, ∀ e ∈ inserted k, e.conditions = (r.network k).conditions) →
      ((r.withInserted inserted).run url).attempts.map sent =
        (r.run url).attempts.zipIdx.flatMap fun (a, k) =>
          List.replicate ((inserted k).length + 1) (sent a)) := by
  have hruns : ((r.withInserted inserted).run url).result = (r.run url).result ∧
      ((r.withInserted inserted).run url).attempts.map sent =
        (r.run url).attempts.zipIdx.flatMap fun (a, k) =>
          (inserted k).map (r.sentIn a.request) ++ [sent a] := by
    have hstart : (r.withInserted inserted).start url = r.start url := rfl
    cases h : r.start url with
    | error e =>
        rw [run_of_start_eq_error h, run_of_start_eq_error (hstart.trans h)]
        exact ⟨rfl, rfl⟩
    | ok s =>
        rw [run_of_start_eq_ok h] at hanswered htransient ⊢
        rw [run_of_start_eq_ok (hstart.trans h)]
        obtain ⟨hs, -⟩ := start_state h
        have hshadows : Shadows inserted 0 0 s s := by
          rw [hs]
          exact ⟨rfl, rfl, rfl, rfl, rfl, rfl⟩
        exact hshadows.proceed_eq hclock hanswered (by simpa using htransient) hbudget
  obtain ⟨hresult, hsent⟩ := hruns
  refine ⟨hresult, ?_, fun hreports => ?_⟩
  · have hrequests := congrArg (List.map Prod.fst) hsent
    rw [List.map_map, List.map_flatMap] at hrequests
    refine hrequests.trans (congrArg (List.flatMap · _) (funext fun (a, k) => ?_))
    simp [sentIn, sent, Function.comp_def, List.map_const', List.replicate_succ']
  · rw [hsent]
    refine List.flatMap_congr fun (a, k) ha => ?_
    have hsame := sent_eq_of_run (List.mem_zipIdx_iff_getElem?.1 ha)
    have heach : ∀ e ∈ inserted k, r.sentIn a.request e = sent a := fun e he => by
      rw [hsame, sentIn, hreports k e he]
      rfl
    dsimp only
    rw [List.map_congr_left heach, List.map_const', List.replicate_succ']

/-- A resolver with three retries, and a host that has moved once. -/
def movedOnce : Resolver where
  store := .empty
  options := { retry := { maxRetries := 3 } }
  network := .ofList [{ status := 302, lines := ["Location: /b".toUTF8.toList] }, {}] {} ⟨0, 0⟩

/-- The host is busy before its first answer; before the second a transfer is lost after a line
that would set a cookie, and the host is busy once more. -/
def outages : Nat → List Encounter
  | 0 => [.at ⟨0, 0⟩ {} { status := 503 }]
  | 1 => [.at ⟨0, 0⟩ {} { lines := ["Set-Cookie: a=1".toUTF8.toList], fault := some .timeout },
      .at ⟨0, 0⟩ {} { status := 429 }]
  | _ => []

/-- The request for a page of the host. -/
def pageRequest (path : Text) : Request :=
  ⟨"GET".toList, ⟨.http, "a.example".toList, none, path, [], []⟩, defaultHeaders⟩

/-- The first page is asked for twice, the second three times, and the end is the same. -/
theorem outages_invisible :
    ((movedOnce.withInserted outages).run "http://a.example/".toList).result =
      (movedOnce.run "http://a.example/".toList).result ∧
    ((movedOnce.withInserted outages).run "http://a.example/".toList).attempts.map sent =
      (movedOnce.run "http://a.example/".toList).attempts.zipIdx.flatMap (fun (a, k) =>
        List.replicate ((outages k).length + 1) (sent a)) ∧
    ((movedOnce.withInserted outages).run "http://a.example/".toList).attempts.length = 5 := by
  have houtages : ∀ k, ∀ e ∈ outages k,
      e.chosenAt = (movedOnce.network k).chosenAt ∧
        e.conditions = (movedOnce.network k).conditions := by
    intro k
    match k with
    | 0 => simp [outages, movedOnce, Network.ofList, Encounter.at]
    | 1 => simp [outages, movedOnce, Network.ofList, Encounter.at]
    | k + 2 => exact fun e he => absurd he List.not_mem_nil
  have hstatuses : (movedOnce.run "http://a.example/".toList).attempts.map
      (·.reply.toOption.map (·.status)) = [some 302, some 200] := by decide +kernel
  have hanswered : ∀ a ∈ (movedOnce.run "http://a.example/".toList).attempts,
      movedOnce.Answered a := by
    intro a ha
    have hstatus := List.mem_map_of_mem (f := (·.reply.toOption.map (·.status))) ha
    rw [hstatuses] at hstatus
    cases hreply : a.reply with
    | error f => simp [hreply, Except.toOption] at hstatus
    | ok response =>
        refine ⟨response, hreply, ?_⟩
        rcases (by simpa [hreply, Except.toOption] using hstatus :
          response.status = 302 ∨ response.status = 200) with h | h <;> rw [h] <;> decide
  have htransient : ∀ k a, (movedOnce.run "http://a.example/".toList).attempts[k]? = some a →
      ∀ e ∈ outages k, movedOnce.Transient a.request e := by
    intro k a ha
    have hrequests : (movedOnce.run "http://a.example/".toList).attempts.map (·.request) =
        [pageRequest "/".toList, pageRequest "/b".toList] := by decide +kernel
    have hrequest : [pageRequest "/".toList, pageRequest "/b".toList][k]? = some a.request := by
      rw [← hrequests, List.getElem?_map, ha]
      rfl
    clear ha hrequests
    match k with
    | 0 =>
        have hpage : pageRequest "/".toList = a.request := Option.some.inj hrequest
        rw [← hpage]
        decide +kernel
    | 1 =>
        have hpage : pageRequest "/b".toList = a.request := Option.some.inj hrequest
        rw [← hpage]
        decide +kernel
    | k + 2 => exact fun e he => absurd he List.not_mem_nil
  have hbudget : ∀ k, ((List.range k).flatMap outages).length ≤ 3 := by
    intro k
    match k with
    | 0 => decide
    | 1 => decide
    | k + 2 =>
        have hrest : ((List.range k).map (2 + ·)).flatMap outages = [] := by
          rw [List.flatMap_map]
          exact List.flatMap_eq_nil_iff.2 fun j _ => by rw [Nat.add_comm]; rfl
        rw [Nat.add_comm, List.range_add, List.flatMap_append, hrest]
        decide
  obtain ⟨hresult, -, hsent⟩ := run_withInserted movedOnce "http://a.example/".toList outages
    (fun k e he => (houtages k e he).1) hanswered htransient hbudget
  exact ⟨hresult, hsent fun k e he => (houtages k e he).2, by decide +kernel⟩

end Resolver

end PlainLink
