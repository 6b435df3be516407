/-
# Where a field rule can match

A match of a field rule begins with a boundary.  In a list as it stands in a query that
is an ampersand, which is remembered as the first group, or the beginning of the text.
The other way round, a path leads on from a boundary wherever the rule may take the
whole name of the segment behind it: whether the preferred way does so is another
matter, and is not asked here.

Main statements: `lives_of_ampersand`, `lives_of_start`, `match_boundary`.
-/
import PlainLink.Proofs.Regex.Occurrence
import PlainLink.Proofs.Regex.Whole
import PlainLink.Proofs.Rule.FieldList

namespace PlainLink

open Regex

namespace Pattern

variable {e : Expr} {p : Pattern}

/-! ## Paths behind a boundary -/

section

variable (hexpr : p.regex.expr = .seq (.group 0 boundaryExpr) (.seq (e.shift 1) valueExpr))

include hexpr

/-- Behind a boundary, a path leads over a name that the rule matches in full. -/
theorem lives_of_boundary (he : e.lookless) {n t : Text} (hn : [] ∈ e.rests n) {q o : Spot}
    (ho : o ∈ boundaryExpr.outs ((q.mark 0).mark 2)) (hrest : o.rest = n ++ t) :
    Lives p.regex.program q := by
  have hlookless : (e.shift 1).lookless := (e.lookless_shift 1).trans he
  let start : Spot := ⟨o.index, o.before, n, (o.mark 3).marks⟩
  have hstart : start.extend t = o.mark 3 := by
    simp [start, Spot.extend, Spot.mark, hrest]
  rw [← e.rests_shift 1, ← Expr.map_rest_outs hlookless start] at hn
  obtain ⟨u, hu, hnil⟩ := List.mem_map.1 hn
  have hname : u.extend t ∈ (e.shift 1).outs (o.mark 3) :=
    hstart ▸ Expr.extend_mem_outs (Expr.looksBack_of_lookless hlookless) t hu
  have hvalue : u.extend t ∈ valueExpr.outs (u.extend t) :=
    List.mem_flatMap.2 ⟨_, List.mem_singleton.2 rfl, self_mem_upTo _ _⟩
  have hwhole : u.extend t ∈ p.regex.expr.outs (q.mark 0) := by
    rw [hexpr]
    exact List.mem_flatMap.2 ⟨_, List.mem_map_of_mem ho, List.mem_flatMap.2 ⟨_, hname, hvalue⟩⟩
  refine ⟨(u.extend t).mark 1, ?_⟩
  rw [p.regex.program_eq]
  exact leads_mark.2 (leads_cons.2 ⟨_, Expr.leads_of_mem_outs hwhole 0, leads_mark.2 (.done _)⟩)

/-- Behind an ampersand a path leads over a segment that the rule names in full. -/
theorem lives_of_ampersand (he : e.lookless) {s t : Text}
    (hs : [] ∈ e.rests (nameOf s)) {q : Spot} (hq : q.rest = '&' :: (s ++ t)) :
    Lives p.regex.program q := by
  obtain ⟨index, before, rest, marks⟩ := q
  obtain rfl : rest = '&' :: (s ++ t) := hq
  obtain ⟨more, houts, -⟩ :=
    boundAt_ampersand before (s ++ t) index ((2, index) :: (0, index) :: marks)
  refine lives_of_boundary hexpr he hs (houts ▸ List.mem_cons_self)
    (t := s.dropWhile (· != '=') ++ t) ?_
  rw [nameOf, ← List.append_assoc, List.takeWhile_append_dropWhile]

/-- At the beginning of a text a path leads over a segment that the rule names in full. -/
theorem lives_of_start (he : e.lookless) {s t : Text} (hs : [] ∈ e.rests (nameOf s)) {q : Spot}
    (hbefore : q.before = none) (hq : q.rest = s ++ t) : Lives p.regex.program q := by
  have hstart : (q.mark 0).mark 2 ∈ boundaryExpr.outs ((q.mark 0).mark 2) := by
    simp [boundaryExpr, Expr.altOf, Expr.outs, Spot.mem_ask, Look.holds, Spot.mark, hbefore]
  refine lives_of_boundary hexpr he hs hstart (t := s.dropWhile (· != '=') ++ t) ?_
  rw [nameOf, ← List.append_assoc, List.takeWhile_append_dropWhile]
  exact hq

end

/-! ## Boundaries of matches -/

/-- A boundary in a list is an ampersand, or nothing at the beginning of the text. -/
theorem boundary_leads {q o : Spot}
    (hrest : ∀ c ∈ q.rest.head?, separates c → c = '&')
    (h : Leads [(boundaryExpr.compile 0).1] q o) :
    (∃ t, q.rest = '&' :: t ∧ o = ⟨q.index + 1, some '&', t, q.marks⟩) ∨
      q.before = none ∧ o = q := by
  obtain ⟨index, before, text, marks⟩ := q
  have hnone : ∀ c t, text = c :: t → c ≠ '%' ∧ c ≠ '#' ∧ c ≠ '?' := by
    rintro c t rfl
    have hc := hrest c rfl
    refine ⟨?_, ?_, ?_⟩ <;> rintro rfl <;> exact absurd (hc (by decide)) (by decide)
  simp only [boundaryExpr, Expr.altOf, Expr.seqOf, charExpr, Expr.compile, leads_fork, leads_seq,
    leads_set, leads_look, leads_nil, Spot.mem_take, Spot.mem_ask, CharSet.test] at h
  rcases h with ⟨-, ⟨c, t, ht, hc, -⟩, -⟩ | ⟨-, ⟨c, t, rfl, hc, rfl⟩, rfl⟩ | ⟨-,
      ⟨c, t, ht, hc, -⟩, -⟩ |
    ⟨-, ⟨c, t, ht, hc, -⟩, -⟩ | ⟨-, ⟨c, t, ht, hc, -⟩, -⟩ | ⟨-, ⟨hstart, rfl⟩, rfl⟩
  · exact absurd (beq_iff_eq.1 hc) (hnone c t ht).1
  · obtain rfl := beq_iff_eq.1 hc
    exact .inl ⟨t, rfl, rfl⟩
  · exact absurd (beq_iff_eq.1 hc) (hnone c t ht).1
  · exact absurd (beq_iff_eq.1 hc) (hnone c t ht).2.1
  · exact absurd (beq_iff_eq.1 hc) (hnone c t ht).2.2
  · exact .inr ⟨Option.isNone_iff_eq_none.1 hstart, rfl⟩

section

variable (hexpr : p.regex.expr = .seq (.group 0 boundaryExpr) (.seq (e.shift 1) valueExpr))

include hexpr

/-- A path through a field rule goes over the boundary first, and remembers it
as the first group. -/
theorem leads_boundary {start stop : Spot} (h : Leads p.regex.program start stop) :
    ∃ o, Leads [(boundaryExpr.compile 0).1] ((start.mark 0).mark 2) o ∧ o.index ≤ stop.index ∧
      ∃ groups : Marks, stop.marks = (1, stop.index) :: (groups ++ (3, o.index) :: o.marks) ∧
        ∀ m ∈ groups, 4 ≤ m.1 := by
  let name := ((e.shift 1).compile (boundaryExpr.compile 0).2).1
  let value := (valueExpr.compile ((e.shift 1).compile (boundaryExpr.compile 0).2).2).1
  have hprogram : p.regex.program = [.mark 0,
      .seq (.seq (.mark 2) (.seq (boundaryExpr.compile 0).1 (.mark 3)))
        (.seq name value), .mark 1] := by
    rw [p.regex.program_eq, hexpr]
    rfl
  rw [hprogram, leads_mark, leads_seq, leads_seq, leads_mark, leads_seq, leads_cons] at h
  obtain ⟨o, hbound, h⟩ := h
  obtain ⟨v, hv, hstop⟩ := leads_cons.1 (leads_mark.1 h)
  obtain rfl := leads_nil.1 (leads_mark.1 hstop)
  have hslots : ∀ n ∈ [Node.seq name value], n.slotsFrom 4 := fun n hn =>
    List.mem_singleton.1 hn ▸ ⟨e.compile_slotsFrom 1 _, valueExpr.compile_slotsFrom 1 _⟩
  obtain ⟨groups, hmarks, hgroups⟩ := hv.marks hslots
  obtain ⟨taken, hto⟩ := hv.to
  refine ⟨o, hbound, ?_, groups, ?_, hgroups⟩
  · show o.index ≤ v.index
    rw [hto.index]
    exact Nat.le_add_right _ _
  · show (1, v.index) :: v.marks = _
    rw [hmarks]
    rfl

omit hexpr in
theorem group?_boundary {before : Option Char} {m : Match} {start stop : Spot} {index : Nat}
    {groups : Marks} (hfrom : m.From p.regex before start stop)
    (hmarks : stop.marks =
      (1, stop.index) :: (groups ++ (3, index) :: ((start.mark 0).mark 2).marks))
    (hgroups : ∀ m ∈ groups, 4 ≤ m.1) :
    m.group? 1 = some (start.rest.take (index - start.index)) := by
  have hnone : ∀ slot, slot < 4 → groups.find? (·.1 == slot) = none := by
    intro slot hslot
    refine List.find?_eq_none.2 fun m hm => ?_
    have hge := hgroups m hm
    simp only [beq_iff_eq]
    omega
  have htwo : m.position? 2 = some start.index := by
    simp [Match.position?, ← hfrom.marks_stop, hmarks, List.find?_append, hnone, Spot.mark]
  have hthree : m.position? 3 = some index := by
    simp [Match.position?, ← hfrom.marks_stop, hmarks, List.find?_append, hnone]
  have hsplit : m.text = m.before ++ start.rest := hfrom.to_start.rest
  have hdrop : m.text.drop (start.index - m.base) = start.rest := by
    have hindex : start.index - m.base = m.before.length := by
      rw [hfrom.to_start.index]
      exact Nat.add_sub_cancel_left _ _
    rw [hindex, hsplit, List.drop_left]
  simp [Match.group?, htwo, hthree, hdrop]

/-- A match in a list begins with an ampersand, which is its boundary, or at the beginning of
the text, where the boundary is empty. -/
theorem match_boundary {before : Option Char} {m : Match} {start stop : Spot}
    (hfrom : m.From p.regex before start stop) (htext : ∀ c ∈ m.text, separates c → c = '&') :
    (∃ taken, m.taken = '&' :: taken ∧ m.group? 1 = some ['&']) ∨
      before = none ∧ m.before = [] ∧ m.group? 1 = some [] := by
  have hsplit : m.text = m.before ++ start.rest := hfrom.to_start.rest
  have hhead : ∀ c ∈ ((start.mark 0).mark 2).rest.head?, separates c → c = '&' := fun c hc =>
    htext c (hsplit ▸ List.mem_append_right _ (List.mem_of_mem_head? hc))
  -- The path of the match tells where its boundary ends, its marks what the first group is.
  obtain ⟨o, hbound, hle, groups, hmarks, hgroups⟩ := leads_boundary hexpr hfrom.leads
  rcases boundary_leads hhead hbound with ⟨t, ht, rfl⟩ | ⟨hbefore, rfl⟩
  · have hrest : start.rest = '&' :: t := ht
    have hindex : start.index + 1 ≤ start.index + m.taken.length := hfrom.to_stop.index ▸ hle
    have htaken := hfrom.to_stop.rest
    rw [hrest] at htaken
    refine .inl ?_
    cases hm : m.taken with
    | nil =>
        rw [hm] at hindex
        exact absurd hindex (by simp)
    | cons c taken =>
        rw [hm] at htaken
        obtain rfl := (List.cons.inj htaken).1
        refine ⟨taken, rfl, ?_⟩
        rw [group?_boundary hfrom hmarks hgroups, hrest]
        simp [Spot.mark]
  · have hlast : lastOr before m.before = none := hfrom.to_start.before.symm.trans hbefore
    obtain ⟨hnil, hstart⟩ := Option.or_eq_none_iff.1 hlast
    refine .inr ⟨hstart, List.getLast?_eq_none_iff.1 hnil, ?_⟩
    rw [group?_boundary hfrom hmarks hgroups]
    simp [Spot.mark]

end

end Pattern

end PlainLink
