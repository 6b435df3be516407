/-
# How the connections of a run are set up

Each attempt sets up its transfer anew, by a row of calls each of which can fail, and
fail otherwise the next time.  What is set must not depend on what came before: no
earlier attempt, retry or redirection, and no fault that is tolerated, leaves a transfer
with less than the options ask for.

`Secures` says that of one attempt, in terms of the calls that it made and of what they
failed with.  The calls are for the settings of the request, one after the other, and
get what the network has in store for this very attempt.  If none of them fails for good
the transfer is performed with all its settings; if one does, nothing is sent, and its
fault is the reply.  That a call fails for good is said by `Call.Fails`; the one failure
that is passed over is that the bundled trust anchors cannot be set at all, which is
reported by one of two faults.

Nothing of this depends on the state of the run, so an attempt is secure wherever it
stands (`attempt_secures`), and every attempt of a run is.

Main statement: `transfers_secured`.
-/
import PlainLink.Proofs.Http.Setups
import PlainLink.Proofs.Resolve.Reach

namespace PlainLink.Resolver

/-- Attempt `n` of a run performs its transfer with all settings, or does not perform it
because a call failed for good. -/
structure Secures (r : Resolver) (n : Nat) (a : Attempt) : Prop where
  calls : a.calls.map (·.setting) <+:
    a.request.settings r.options.transferOptions (r.network n).conditions.isFile
  reported : ∀ (k : Nat) (c : Call), a.calls[k]? = some c →
    c.fault = (r.network n).conditions.report k c.setting
  performed : ∀ transfer, a.transfer = some transfer →
    a.calls.map (·.setting) =
        a.request.settings r.options.transferOptions (r.network n).conditions.isFile ∧
      transfer.Fulfils a.request r.options.transferOptions
        (r.network n).conditions.isFile a.calls
  not_performed : a.transfer = none ↔ ∃ c ∈ a.calls, ∃ f, c.Fails f
  reply : ∀ c ∈ a.calls, ∀ f, c.Fails f → a.reply = .error f

theorem attempt_secures (r : Resolver) (s : RunState) : r.Secures s.attempts (r.attempt s) := by
  have hrecorded := (r.request s).setUp_recorded r.options.transferOptions
    (r.network s.attempts).conditions
  have hcalls := Setup.calls_run (r.network s.attempts).conditions.report {}
    ((r.request s).settings r.options.transferOptions (r.network s.attempts).conditions.isFile)
  refine ⟨hcalls.1, hrecorded.reported, fun transfer h => ?_, ?_, fun c hc f hf => ?_⟩
  · obtain ⟨hdone, rfl⟩ := transfer_eq_some_iff.1 h
    exact ⟨hcalls.2 hdone, Request.setUp_done hdone⟩
  · rw [transfer_eq_none_iff, Option.isSome_iff_exists]
    constructor
    · rintro ⟨f, hf⟩
      obtain ⟨c, hc, hfails⟩ := (hrecorded.fault f).1 hf
      exact ⟨c, hc, f, hfails⟩
    · rintro ⟨c, hc, f, hf⟩
      exact ⟨f, (hrecorded.fault f).2 ⟨c, hc, hf⟩⟩
  · exact reply_of_fault ((hrecorded.fault f).2 ⟨c, hc, hf⟩)

/-- Whatever the turns of a run, retries and redirections between both schemes, and whichever
calls fail: each transfer that is performed goes to the URL of its request, follows no
redirection by itself, speaks HTTP/1.1 and has the time of the options for its connection and
as a whole; if it is encrypted, the peer and the host are verified as the options say, by the
versions and ciphers of the options and against their trust anchors.  One that is verified goes
without explicit anchors only if setting the bundled ones reported that this cannot be done at
all.  With any other fault of that setting, or of any other, the transfer is not performed, and
there is no other reason not to perform it. -/
theorem transfers_secured (r : Resolver) (url : Text)
    {before behind : List Attempt} {a : Attempt}
    (h : (r.run url).attempts = before ++ a :: behind) : r.Secures before.length a := by
  obtain ⟨s, t, hstart, hreach, rfl, -⟩ := run_cut h
  have hattempts : t.attempts = before.length := by
    rw [hreach.attempts_eq, (start_state hstart).1, Nat.zero_add]
  rw [← hattempts]
  exact r.attempt_secures t

/-- A host that redirects to an encrypted one, where the setup meets something else each time:
the bundled anchors cannot be set at all, then they cannot be read, then the header lines
cannot be handed over. -/
def unsteady : Resolver where
  store := .empty
  options := { retry := { maxRetries := 3 } }
  network
    | 0 => .at ⟨0, 0⟩ {}
        { status := 302, lines := ["Location: https://b.example/".toUTF8.toList] }
    | 1 => .at ⟨0, 0⟩ { report := bundledReport (some .unknownOption) } { status := 503 }
    | 2 => .at ⟨0, 0⟩ { report := bundledReport (some .read) } {}
    | 3 => .at ⟨0, 0⟩
        { report := fun _ setting => if setting = .headerLines then some .send else none } {}
    | _ => .at ⟨0, 0⟩ {} {}

/-- The encrypted host is asked without explicit anchors, then twice not at all, then
with the bundled ones. -/
theorem unsteady_secured :
    ∃ a b c d e, (unsteady.run "http://a.example/".toList).attempts = [a, b, c, d, e] ∧
      [a, b, c, d, e].map (fun a => (a.request.url.text, a.transfer.map (·.anchors))) =
        [("http://a.example/".toList, some none), ("https://b.example/".toList, some none),
          ("https://b.example/".toList, none), ("https://b.example/".toList, none),
          ("https://b.example/".toList, some (some .bundled))] ∧
      unsteady.Secures 1 b ∧ unsteady.Secures 2 c ∧ unsteady.Secures 3 d ∧
      unsteady.Secures 4 e := by
  have hrun : (unsteady.run "http://a.example/".toList).attempts.map
      (fun a => (a.request.url.text, a.transfer.map (·.anchors))) =
        [("http://a.example/".toList, some none), ("https://b.example/".toList, some none),
          ("https://b.example/".toList, none), ("https://b.example/".toList, none),
          ("https://b.example/".toList, some (some .bundled))] := by decide +kernel
  obtain ⟨a, rest, hattempts, -, hrest⟩ := List.map_eq_cons_iff.1 hrun
  obtain ⟨b, rest, rfl, -, hrest⟩ := List.map_eq_cons_iff.1 hrest
  obtain ⟨c, rest, rfl, -, hrest⟩ := List.map_eq_cons_iff.1 hrest
  obtain ⟨d, rest, rfl, -, hrest⟩ := List.map_eq_cons_iff.1 hrest
  obtain ⟨e, rest, rfl, -, hrest⟩ := List.map_eq_cons_iff.1 hrest
  obtain rfl := List.map_eq_nil_iff.1 hrest
  have hsecond : _ = [a] ++ b :: [c, d, e] := hattempts
  have hthird : _ = [a, b] ++ c :: [d, e] := hattempts
  have hfourth : _ = [a, b, c] ++ d :: [e] := hattempts
  have hlast : _ = [a, b, c, d] ++ e :: [] := hattempts
  exact ⟨a, b, c, d, e, hattempts, hattempts ▸ hrun, transfers_secured _ _ hsecond,
    transfers_secured _ _ hthird, transfers_secured _ _ hfourth, transfers_secured _ _ hlast⟩

end PlainLink.Resolver
