/-
# Reading the cookies of a request back

A request lists the cookies that are for it in one header field.  Cut at the semicolons,
trimmed, and cut at their first equals signs, the pieces of that field are the names and
values of these cookies, one piece for each, in the order in which they were sorted: no
name or value that a line can set makes a piece more or a piece less, or moves the cut
between a name and its value.

A value may have equals signs, blanks inside, and quotes; it has no semicolon, because
the line was cut at them.  A name has no equals sign, because the line was cut at the
first one.  So what makes the reading succeed is how lines are read, and nothing is
escaped on the way.

The cookies are sorted by the length of their paths.  That the sorting is stable is said
for each length by itself (`filter_byPath`).

Main statement: `attach_reads_back`.
-/
import PlainLink.Proofs.Cookie.Latest

namespace PlainLink

namespace CookieJar

/-! ## The order of the cookies -/

/-- How long the path of a cookie is, which decides where it stands. -/
def reach (c : Cookie) : Nat :=
  Text.byteLength c.path

theorem mem_place {c d : Cookie} {cookies : List Cookie} :
    d ∈ place c cookies ↔ d = c ∨ d ∈ cookies := by
  induction cookies with
  | nil => simp [place]
  | cons e rest ih =>
      unfold place
      split
      · exact List.mem_cons
      · simp only [List.mem_cons, ih]
        exact or_left_comm

theorem place_pairwise (c : Cookie) {cookies : List Cookie}
    (h : cookies.Pairwise fun a b => reach b ≤ reach a) :
    (place c cookies).Pairwise fun a b => reach b ≤ reach a := by
  induction cookies with
  | nil => exact List.pairwise_singleton _ _
  | cons d rest ih =>
      obtain ⟨hd, hrest⟩ := List.pairwise_cons.1 h
      unfold place
      split
      · next hle =>
        refine List.pairwise_cons.2 ⟨fun b hb => ?_, h⟩
        rcases List.mem_cons.1 hb with rfl | hb
        · exact hle
        · exact Nat.le_trans (hd b hb) hle
      · next hlt =>
        refine List.pairwise_cons.2 ⟨fun b hb => ?_, ih hrest⟩
        rcases mem_place.1 hb with rfl | hb
        · exact Nat.le_of_not_le hlt
        · exact hd b hb

theorem byPath_pairwise (cookies : List Cookie) :
    (byPath cookies).Pairwise fun a b => reach b ≤ reach a := by
  induction cookies with
  | nil => exact .nil
  | cons c rest ih => exact place_pairwise c ih

theorem filter_place (n : Nat) (c : Cookie) (cookies : List Cookie) :
    (place c cookies).filter (reach · == n) = (c :: cookies).filter (reach · == n) := by
  induction cookies with
  | nil => rfl
  | cons d rest ih =>
      unfold place
      split
      · rfl
      · next hlt =>
        by_cases hc : reach c = n
        · have hd : reach d ≠ n := fun hd => hlt (Nat.le_of_eq (hd.trans hc.symm))
          rw [List.filter_cons_of_neg (by simpa using hd), ih,
            List.filter_cons_of_pos (by simpa using hc),
              List.filter_cons_of_pos (by simpa using hc),
              List.filter_cons_of_neg (by simpa using hd)]
        · rw [List.filter_cons, ih, List.filter_cons_of_neg (by simpa using hc),
            List.filter_cons_of_neg (by simpa using hc), List.filter_cons]

/-- Cookies whose paths have one length stay in their order. -/
theorem filter_byPath (n : Nat) (cookies : List Cookie) :
    (byPath cookies).filter (reach · == n) = cookies.filter (reach · == n) := by
  induction cookies with
  | nil => rfl
  | cons c rest ih =>
      have hplace : byPath (c :: rest) = place c (byPath rest) := rfl
      rw [hplace, filter_place, List.filter_cons, ih, List.filter_cons]

end CookieJar

namespace Cookie

/-! ## The cookies of a jar -/

theorem exists_line_of_mem {policy : CookiePolicy} {history : List Received} {c : Cookie}
    (h : c ∈ (jarAfter policy history).cookies) :
    ∃ line origin now, ofLine? line origin now = some c := by
  rcases mem_readAll h with hkept | ⟨line, origin, e, -, -, -, hset, -⟩
  · exact absurd hkept List.not_mem_nil
  · exact ⟨line, origin, e.now, hset⟩

theorem splitFirst?_text {line : Text} {origin : Url} {now : Instant} {c : Cookie}
    (h : ofLine? line origin now = some c) :
    Text.splitFirst? '=' c.text = some (c.name, c.value) :=
  Text.splitFirst?_append (named_of_ofLine? h).2.1 c.value

/-! ## The header of a request -/

/-- The name of the header field that lists cookies. -/
def fieldName : Text :=
  "Cookie".toList

/-- Whatever responses a jar has read, the cookies that it holds for a request are sent by
falling length of their paths, those of one length in the order of the jar, and each once.  If
there are none, the headers stay as they are.  Otherwise they get one field for cookies, in any
letter case, and the others stay; cut at its semicolons, trimmed and cut at the first equals
signs, its value reads back as the names and values of the cookies that are sent. -/
theorem attach_reads_back (policy : CookiePolicy) (history : List Received) (u : Url)
    (now : Instant) (h : Headers) : ∃ sent : List Cookie,
      sent.Perm ((jarAfter policy history).cookies.filter (·.isFor u now)) ∧
        (sent.map key).Nodup ∧
      sent.Pairwise (fun c d => Text.byteLength d.path ≤ Text.byteLength c.path) ∧
      (∀ n, sent.filter (Text.byteLength ·.path == n) =
        ((jarAfter policy history).cookies.filter (·.isFor u now)).filter
          (Text.byteLength ·.path == n)) ∧
      ((∀ c ∈ (jarAfter policy history).cookies, ¬ c.isFor u now) →
        (jarAfter policy history).attach u now h = h) ∧
      ((∃ c ∈ (jarAfter policy history).cookies, c.isFor u now) → ∃ value,
        ((jarAfter policy history).attach u now h).filter (Text.sameLetters ·.1 fieldName) =
          [(fieldName, value)] ∧
        ((jarAfter policy history).attach u now h).filter (!Text.sameLetters ·.1 fieldName) =
          h.filter (!Text.sameLetters ·.1 fieldName) ∧
        (pairs value).map (Text.splitFirst? '=') = sent.map fun c =>
          some (c.name, c.value)) := by
  have hperm := CookieJar.byPath_perm ((jarAfter policy history).cookies.filter (·.isFor u now))
  have hsent : (jarAfter policy history).cookiesFor u now =
      CookieJar.byPath ((jarAfter policy history).cookies.filter (·.isFor u now)) := rfl
  rw [← hsent] at hperm
  refine ⟨(jarAfter policy history).cookiesFor u now, hperm, ?_, ?_, ?_, ?_, ?_⟩
  · exact (hperm.map key).nodup_iff.2
      ((nodup_key policy history).sublist (List.filter_sublist.map key))
  · exact CookieJar.byPath_pairwise _
  · exact fun n => CookieJar.filter_byPath n _
  · intro hnone
    have hcookies : (jarAfter policy history).cookiesFor u now = [] :=
      List.eq_nil_iff_forall_not_mem.2 fun c hc =>
        hnone c (CookieJar.mem_cookiesFor.1 hc).1 (CookieJar.mem_cookiesFor.1 hc).2
    rw [CookieJar.attach, CookieJar.header?, hcookies]
  · rintro ⟨d, hd, hfor⟩
    obtain ⟨c, more, hcookies⟩ := List.exists_cons_of_ne_nil
      (List.ne_nil_of_mem (CookieJar.mem_cookiesFor.2 ⟨hd, hfor⟩))
    have hlines : ∀ d ∈ c :: more, ∃ line origin now,
        ofLine? line origin now = some d := fun d hd =>
      exists_line_of_mem (CookieJar.mem_cookiesFor.1 (hcookies ▸ hd)).1
    have hattach : (jarAfter policy history).attach u now h =
        h.replace fieldName (Text.join "; ".toList ((c :: more).map (·.text))) := by
      rw [CookieJar.attach, CookieJar.header?, hcookies]
      rfl
    have hpairs :
        pairs (Text.join "; ".toList ((c :: more).map (·.text))) = (c :: more).map (·.text) := by
      refine pairs_join fun d hd => ?_
      obtain ⟨line, origin, now, hset⟩ := hlines d hd
      exact text_of_ofLine? hset
    rw [hattach, hcookies]
    refine ⟨_, h.filter_replace_same fieldName _, h.filter_replace_other fieldName _, ?_⟩
    rw [hpairs, List.map_map]
    refine List.map_congr_left fun d hd => ?_
    obtain ⟨line, origin, now, hset⟩ := hlines d hd
    exact splitFirst?_text hset

example : (jarAfter .allowAll [⟨page "a.example", ["x=".toList, "a b = c=d, e ;Path=/p".toList,
      "y=1;Path=/".toList], ⟨0, 0⟩⟩]).attach ⟨.http, "a.example".toList, none,
        "/p/q".toList, [], []⟩
      ⟨0, 0⟩ [("cookie".toList, "old".toList), ("Via".toList, [])] =
    [("Via".toList, []), ("Cookie".toList, "a b=c=d, e; x=; y=1".toList)] := by decide

end Cookie

end PlainLink
