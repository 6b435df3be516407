/-
# What becomes of a body

A body comes in pieces of any size, and its end can be missing: the room for it ran out,
which the transfer reports as a fault, or the transfer failed on its own account.  Only
the length of the whole body tells the two apart, at every boundary: a body that fills
the room exactly is no cut one, and with no room at all an empty one is not either.

    longer than the room    a response with a part of the body and the mark
    not longer, a fault     the fault
    not longer, no fault    a response with the whole body and no mark

That all options of the transfer were set is taken for granted here; where a setting
fails for good, nothing is sent at all.  A request for the header alone has no body to
speak of and is left out.

Main statement: `fetch_by_length`.
-/
import PlainLink.Resolve.Attempt

namespace PlainLink

theorem Request.fetch_of_done {r : Request} {o : TransferOptions} {c : Conditions}
    (h : (r.setUp o c).fault = none) (e : Exchange) :
    r.fetch o c e = e.answer r.method o.maxBodyBytes := by
  unfold fetch
  rw [h]

/-- A request that asks for more than the header, and for whose transfer all is set, gets a
response that depends on the whole body that is sent.  If that is longer than what may be kept,
the response is there whatever fault the exchange has, its body is as much of the beginning as
may be kept, and it is marked as cut.  If it is not longer, the fault of the exchange, if it
has one, is the fault of the request, and else the response has the whole body and no mark.
The same body in other pieces gets the same. -/
theorem fetch_by_length {r : Request} {o : TransferOptions} {c : Conditions}
    (hdone : (r.setUp o c).fault = none) (hmethod : r.method ≠ "HEAD".toList) (e : Exchange) :
    (o.maxBodyBytes < e.body.flatten.length →
      r.fetch o c e =
        .ok { status := e.status, headers := .ofLines (e.lines.map Utf8.decode),
              body := e.body.flatten.take o.maxBodyBytes, truncated := true }) ∧
    (e.body.flatten.length ≤ o.maxBodyBytes →
      (∀ f, e.fault = some f → r.fetch o c e = .error f) ∧
      (e.fault = none → r.fetch o c e =
        .ok { status := e.status, headers := .ofLines (e.lines.map Utf8.decode),
              body := e.body.flatten, truncated := false })) ∧
    ∀ pieces : List Bytes, pieces.flatten = e.body.flatten →
      r.fetch o c { e with body := pieces } = r.fetch o c e := by
  have hsent (e : Exchange) : e.sentBody r.method = e.body.flatten := if_neg hmethod
  have hfetch (e : Exchange) := (Request.fetch_of_done hdone e).trans (e.answer_eq r.method _)
  refine ⟨fun hlong => ?_, fun hfits => ⟨fun f hf => ?_, fun hnone => ?_⟩,
    fun pieces hsame => ?_⟩
  · rw [hfetch, hsent, if_pos hlong]
  · rw [hfetch, hsent, if_neg (Nat.not_lt.2 hfits), hf]
  · rw [hfetch, hsent, if_neg (Nat.not_lt.2 hfits), hnone]
  · rw [hfetch, hfetch, hsent, hsent, hsame]

/-- Three bytes may be kept.  Of four in two pieces the connection breaks off unnoticed; of
three it does not, and neither does a write that failed by itself. -/
theorem fetch_by_length_boundary :
    let o : TransferOptions := { timeout := .zero, tls := {}, maxBodyBytes := 3 }
    let r : Request := ⟨"GET".toList, ⟨.https, "a".toList, none, [], [], []⟩, []⟩
    -- Setting the bundled trust anchors fails in the way that is tolerated.
    let c : Conditions := { report := bundledReport (some .unknownOption) }
    (r.setUp o c).fault = none ∧ r.method ≠ "HEAD".toList ∧
    r.fetch o c { body := [[1, 2], [], [3, 4]], fault := some .receive } =
      .ok { status := 200, headers := [], body := [1, 2, 3], truncated := true } ∧
    r.fetch o c { body := [[1, 2], [3]], fault := some .receive } = .error .receive ∧
    r.fetch o c { body := [[1, 2], [3]], fault := some .write } = .error .write := by
  intro o r c
  have hdone : (r.setUp o c).fault = none := by decide +kernel
  have hmethod : r.method ≠ "HEAD".toList := by decide
  have hcut := (fetch_by_length hdone hmethod
    { body := [[1, 2], [], [3, 4]], fault := some .receive }).1 (by decide)
  have hbroken := (fetch_by_length hdone hmethod
    { body := [[1, 2], [3]], fault := some .receive }).2.1 (by decide)
  have hwrite := (fetch_by_length hdone hmethod
    { body := [[1, 2], [3]], fault := some .write }).2.1 (by decide)
  exact ⟨hdone, hmethod, hcut, hbroken.1 _ rfl, hwrite.1 _ rfl⟩

end PlainLink
