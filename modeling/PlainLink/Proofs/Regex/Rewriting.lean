/-
# Replacement from place to place

`replaceAll` looks for a match, puts a text in its place, and looks on behind it.  Where
an expression takes something in each match this comes to walking through the text: at
each place either a match begins, which is replaced, or the next character is kept.
`Rewrites` is that walk, and a text is replaced as the walk says.

An expression that may take nothing is not walked in this way, because an empty match
behind another match does not count.  For these the matches of a replacement are listed
as it finds them (`matchesFrom`), with one equation for each way in which a step can go
on.

Main statement: `Rewrites.replaceAll_eq`.
-/
import PlainLink.Proofs.Regex.Compiled
import PlainLink.Proofs.Regex.Span

namespace PlainLink.Regex

namespace Expr

variable {e : Expr} {p q : Spot}

/-- An outcome remembers groups of its own before what was remembered already. -/
theorem outs_marks (h : q ∈ e.outs p) :
    ∃ groups : Marks, q.marks = groups ++ p.marks ∧ ∀ m ∈ groups, 2 ≤ m.1 := by
  have hrefl : ∀ p : Spot, ∃ groups : Marks, p.marks = groups ++ p.marks ∧
      ∀ m ∈ groups, 2 ≤ m.1 :=
    fun p => ⟨[], rfl, fun _ hm => absurd hm List.not_mem_nil⟩
  have htrans : ∀ p q r : Spot,
      (∃ groups : Marks, q.marks = groups ++ p.marks ∧ ∀ m ∈ groups, 2 ≤ m.1) →
      (∃ groups : Marks, r.marks = groups ++ q.marks ∧ ∀ m ∈ groups, 2 ≤ m.1) →
      ∃ groups : Marks, r.marks = groups ++ p.marks ∧ ∀ m ∈ groups, 2 ≤ m.1 := by
    rintro p q r ⟨gs, hq, hgs⟩ ⟨gs', hr, hgs'⟩
    refine ⟨gs' ++ gs, by rw [hr, hq, List.append_assoc], fun m hm => ?_⟩
    rcases List.mem_append.1 hm with hm | hm
    · exact hgs' m hm
    · exact hgs m hm
  induction e generalizing p q with
  | empty => exact List.mem_singleton.1 h ▸ hrefl _
  | set s =>
      obtain ⟨c, rest, -, -, rfl⟩ := Spot.mem_take.1 h
      exact hrefl p
  | look l => exact (Spot.mem_ask.1 h).2 ▸ hrefl _
  | group before e ih =>
      obtain ⟨r, hr, rfl⟩ := List.mem_map.1 h
      obtain ⟨gs, hmarks, hgs⟩ := ih hr
      refine ⟨(2 * before + 3, r.index) :: (gs ++ [(2 * before + 2, p.index)]), ?_, ?_⟩
      · simp [Spot.mark, hmarks]
      · intro m hm
        simp only [List.mem_cons, List.mem_append, List.not_mem_nil, or_false] at hm
        rcases hm with rfl | hm | rfl
        · exact Nat.le_add_left _ _
        · exact hgs m hm
        · exact Nat.le_add_left _ _
  | seq a b iha ihb =>
      obtain ⟨r, hr, hq⟩ := List.mem_flatMap.1 h
      exact htrans _ _ _ (iha hr) (ihb hq)
  | alt a b iha ihb =>
      rcases List.mem_append.1 h with h | h
      · exact iha h
      · exact ihb h
  | rep least most greedy e ih =>
      obtain ⟨r, hr, hq⟩ := List.mem_flatMap.1 h
      exact htrans _ _ _ (rel_of_mem_times hrefl htrans (fun _ _ => ih) hr)
        (rel_of_mem_upTo hrefl htrans (fun _ _ => ih) hq)

/-- A match goes from its place on over a text, which is not empty where the expression takes
something. -/
theorem to_of_matchAt? (h : e.matchAt? p = some q) :
    ∃ taken, p.To taken q ∧ (e.takesSomething → taken ≠ []) := by
  obtain ⟨r, hr, rfl⟩ := Option.map_eq_some_iff.1 h
  have hmem := List.mem_of_mem_head? hr
  obtain ⟨taken, hto⟩ := outs_to hmem
  refine ⟨taken, ⟨hto.rest, hto.index, hto.before⟩, fun he hnil => ?_⟩
  have hlt := length_lt_of_mem_outs he hmem
  have hrest : p.rest = taken ++ r.rest := hto.rest
  rw [hnil, List.nil_append] at hrest
  exact Nat.lt_irrefl _ (hrest ▸ hlt)

end Expr

/-! ## The parts of a match -/

theorem positions_of_matchAt? {e : Expr} {index : Nat} {before : Option Char}
    {rest : Text} {q : Spot} (h : e.matchAt? ⟨index, before, rest, []⟩ = some q) (base : Nat)
    (text : Text) :
    (Match.mk base text q.marks).position? 0 = some index ∧
      (Match.mk base text q.marks).position? 1 = some q.index := by
  obtain ⟨r, hr, rfl⟩ := Option.map_eq_some_iff.1 h
  obtain ⟨groups, hmarks, hgroups⟩ := Expr.outs_marks (List.mem_of_mem_head? hr)
  have hnone : groups.find? (·.1 == 0) = none := by
    refine List.find?_eq_none.2 fun m hm => ?_
    have hslot := hgroups m hm
    simp only [beq_iff_eq]
    omega
  refine ⟨?_, rfl⟩
  simp [Match.position?, Spot.mark, hmarks, List.find?_append, hnone]

/-- What a match that begins at the beginning of its text took, and what is left. -/
theorem Match.parts_of_matchAt? {e : Expr} {index : Nat} {before : Option Char}
    {text taken : Text} {q : Spot} (h : e.matchAt? ⟨index, before, text, []⟩ = some q)
    (hto : (Spot.mk index before text []).To taken q) :
    (Match.mk index text q.marks).before = [] ∧ (Match.mk index text q.marks).taken = taken ∧
      (Match.mk index text q.marks).after = q.rest := by
  obtain ⟨hstart, hstop⟩ := positions_of_matchAt? h index text
  have hindex : q.index - index = taken.length := by
    rw [hto.index]
    exact Nat.add_sub_cancel_left index _
  have hrest : text = taken ++ q.rest := hto.rest
  refine ⟨?_, ?_, ?_⟩
  · simp [Match.before, hstart]
  · simp only [Match.taken, group?, Nat.mul_zero, Nat.zero_add, hstart, hstop,
      Option.bind_eq_bind, Option.bind_some, Nat.sub_self, List.drop_zero, hindex]
    rw [hrest]
    exact List.take_left
  · rw [Match.after, hstop, Option.getD_some, hindex, hrest, List.drop_left]

/-- The replacement depends on a match only through what it and its first group took and what
follows it. -/
def OfParts (g : Match → Text) : Prop :=
  ∀ m m' : Match, m.taken = m'.taken → m.after = m'.after → m.group? 1 = m'.group? 1 → g m = g m'

theorem Match.Spans.cons {index start stop : Nat} {text : Text} {marks : Marks}
    (h : (Match.mk (index + 1) text marks).Spans start stop) (c : Char) :
    (Match.mk index (c :: text) marks).before = c :: (Match.mk (index + 1) text marks).before ∧
      (Match.mk index (c :: text) marks).taken = (Match.mk (index + 1) text marks).taken ∧
      (Match.mk index (c :: text) marks).after = (Match.mk (index + 1) text marks).after ∧
      ∀ i, (Match.mk index (c :: text) marks).group? i =
        (Match.mk (index + 1) text marks).group? i := by
  have hdrop : ∀ {v}, index + 1 ≤ v →
      (c :: text).drop (v - index) = text.drop (v - (index + 1)) := by
    intro v hv
    rw [show v - index = v - (index + 1) + 1 by omega, List.drop_succ_cons]
  have hbase : index + 1 ≤ start := h.base_le
  have hstop : index + 1 ≤ stop := Nat.le_trans hbase h.start_le
  have hgroup : ∀ i, (Match.mk index (c :: text) marks).group? i =
      (Match.mk (index + 1) text marks).group? i := by
    intro i
    have hsame : (Match.mk index (c :: text) marks).position? (2 * i) =
        (Match.mk (index + 1) text marks).position? (2 * i) := rfl
    cases hfrom : (Match.mk (index + 1) text marks).position? (2 * i) with
    | none => simp [group?, hfrom, hsame]
    | some v =>
        have hv := Nat.le_trans hbase (h.position_between _ _ hfrom).1
        simp only [group?, hsame, hfrom, Option.bind_eq_bind, Option.bind_some, hdrop hv]
        rfl
  have hfrom : (Match.mk index (c :: text) marks).position? 0 = some start := h.position_zero
  have hto : (Match.mk index (c :: text) marks).position? 1 = some stop := h.position_one
  refine ⟨?_, ?_, ?_, hgroup⟩
  · rw [Match.before, Match.before, hfrom, h.position_zero]
    show (c :: text).take (start - index) = c :: text.take (start - (index + 1))
    rw [show start - index = start - (index + 1) + 1 by omega, List.take_succ_cons]
  · rw [taken, taken, hgroup]
  · rw [after, after, hto, h.position_one]
    exact hdrop hstop

/-! ## The walk -/

/-- The text that is left of one when each match in it is replaced, from place to place. -/
inductive Rewrites (e : Expr) (g : Match → Text) : Nat → Option Char → Text → Text → Prop
  | stop {index : Nat} {before : Option Char} :
      e.matchAt? ⟨index, before, [], []⟩ = none → Rewrites e g index before [] []
  | keep {index : Nat} {before : Option Char} {c : Char} {rest out : Text} :
      e.matchAt? ⟨index, before, c :: rest, []⟩ = none →
      Rewrites e g (index + 1) (some c) rest out →
      Rewrites e g index before (c :: rest) (c :: out)
  | put {index : Nat} {before : Option Char} {text out : Text} {q : Spot} :
      e.matchAt? ⟨index, before, text, []⟩ = some q →
      Rewrites e g q.index q.before q.rest out →
      Rewrites e g index before text (g ⟨index, text, q.marks⟩ ++ out)

section

variable {r : Regex} {g : Match → Text} (hprogresses : r.expr.progresses)
  (htakes : r.expr.takesSomething)

include hprogresses htakes

theorem taken_ne_nil {base : Nat} {before : Option Char} {text : Text} {m : Match}
    (h : r.findFrom? base before text = some m) : m.taken ≠ [] := by
  obtain ⟨-, start, stop, hspans⟩ := findFrom?_spans h
  rw [findFrom?_eq_firstMatch? hprogresses] at h
  obtain ⟨q, hq, rfl⟩ := Option.map_eq_some_iff.1 h
  have hplace : ∃ index before rest, r.expr.matchAt? ⟨index, before, rest, []⟩ = some q := by
    clear h hspans
    induction text generalizing base before with
    | nil => exact ⟨_, _, _, hq⟩
    | cons c rest ih =>
        rcases Option.or_eq_some_iff.1 hq with hq | ⟨-, hq⟩
        · exact ⟨_, _, _, hq⟩
        · exact ih hq
  obtain ⟨index, before, rest, hmatch⟩ := hplace
  obtain ⟨hstart, hstop⟩ := positions_of_matchAt? hmatch base text
  obtain ⟨taken, hto, hne⟩ := Expr.to_of_matchAt? hmatch
  have hpos := List.length_pos_of_ne_nil (hne htakes)
  have hindex : q.index = index + taken.length := hto.index
  obtain rfl : start = index := Option.some.inj (hspans.position_zero.symm.trans hstart)
  obtain rfl : stop = q.index := Option.some.inj (hspans.position_one.symm.trans hstop)
  have hbase : base ≤ start := hspans.base_le
  have hle : q.index ≤ base + text.length := hspans.stop_le
  refine List.ne_nil_of_length_pos ?_
  rw [hspans.taken_eq, List.length_take, List.length_drop]
  show 0 < min (q.index - start) (text.length - (start - base))
  omega

variable (hg : OfParts g)

include hg

theorem replaceFrom_keep {index : Nat} {before : Option Char} {c : Char} {rest : Text}
    (h : r.expr.matchAt? ⟨index, before, c :: rest, []⟩ = none) (steps : Nat)
    (behind behind' : Bool) :
    r.replaceFrom g steps index before behind (c :: rest) =
      c :: r.replaceFrom g steps (index + 1) (some c) behind' rest := by
  cases steps with
  | zero => rfl
  | succ steps =>
      have hfind : r.findFrom? index before (c :: rest) =
          (r.findFrom? (index + 1) (some c) rest).map fun m => ⟨index, c :: rest, m.marks⟩ := by
        rw [findFrom?_eq_firstMatch? hprogresses, findFrom?_eq_firstMatch? hprogresses,
          Expr.firstMatch?, h, Option.none_or, Option.map_map]
        rfl
      unfold replaceFrom
      rw [hfind]
      cases hrest : r.findFrom? (index + 1) (some c) rest with
      | none => rfl
      | some m =>
          obtain ⟨marks, -, rfl⟩ := Option.map_eq_some_iff.1 hrest
          obtain ⟨-, start, stop, hspans⟩ := findFrom?_spans hrest
          obtain ⟨hbefore, htaken, hafter, hgroup⟩ := hspans.cons c
          have hne := taken_ne_nil hprogresses htakes hrest
          have hsame := hg _ _ htaken hafter (hgroup 1)
          have hstop (a b : Nat) : index + (a + 1) + b = index + 1 + a + b := by omega
          simp only [Option.map_some, hbefore, htaken, hafter, hsame, lastOr_cons,
            List.length_cons, List.isEmpty_eq_false_iff.2 hne, Bool.not_false, if_pos,
              List.cons_append]
          rw [hstop]

theorem Rewrites.replaceFrom_eq {index : Nat} {before : Option Char} {text out : Text}
    (h : Rewrites r.expr g index before text out) {steps : Nat} (hsteps : text.length < steps)
    (behind : Bool) : r.replaceFrom g steps index before behind text = out := by
  induction h generalizing steps behind with
  | stop hnone =>
      obtain ⟨steps, rfl⟩ := Nat.exists_eq_add_one_of_ne_zero (Nat.ne_of_gt hsteps)
      rw [replaceFrom, findFrom?_eq_firstMatch? hprogresses, Expr.firstMatch?, hnone]
      rfl
  | keep hnone hwalk ih =>
      rw [replaceFrom_keep hprogresses htakes hg hnone steps behind true,
        ih (Nat.lt_of_succ_lt hsteps) true]
  | @put index before text out q hmatch hwalk ih =>
      obtain ⟨steps, rfl⟩ :=
        Nat.exists_eq_add_one_of_ne_zero (Nat.ne_of_gt (Nat.zero_lt_of_lt hsteps))
      obtain ⟨taken, hto, hne⟩ := Expr.to_of_matchAt? hmatch
      obtain ⟨hbefore, htaken, hafter⟩ := Match.parts_of_matchAt? hmatch hto
      have hfind : r.findFrom? index before text = some ⟨index, text, q.marks⟩ := by
        rw [findFrom?_eq_firstMatch? hprogresses]
        cases text with
        | nil => rw [Expr.firstMatch?, hmatch, Option.map_some]
        | cons c rest => rw [Expr.firstMatch?, hmatch, Option.some_or, Option.map_some]
      have hlength : text.length = taken.length + q.rest.length := by
        rw [← List.length_append]
        exact congrArg List.length hto.rest
      have hpos := List.length_pos_of_ne_nil (hne htakes)
      have hnext := @ih steps (by omega) true
      have hindex : q.index = index + taken.length := hto.index
      have hlast : q.before = lastOr before taken := hto.before
      rw [hindex, hlast] at hnext
      unfold replaceFrom
      simp only [hfind, hbefore, htaken, hafter, List.isEmpty_eq_false_iff.2 (hne htakes),
        Bool.not_false, if_pos, List.nil_append, List.length_nil, Nat.add_zero]
      rw [← hnext]
      rfl

/-- A text is replaced as a walk through it says. -/
theorem Rewrites.replaceAll_eq {text out : Text} (h : Rewrites r.expr g 0 none text out) :
    r.replaceAll g text = out :=
  h.replaceFrom_eq hprogresses htakes hg (Nat.lt_succ_self _) false

end

/-! ## The matches of a replacement -/

/-- The matches that a replacement comes to from a position on. -/
def matchesFrom (r : Regex) : (steps base : Nat) → Option Char → Text → List Match
  | 0, _, _, _ => []
  | steps + 1, base, before, text =>
    match r.findFrom? base before text with
    | none => []
    | some m =>
      let stop := base + m.before.length + m.taken.length
      if !m.taken.isEmpty then
        m :: matchesFrom r steps stop (lastOr (lastOr before m.before) m.taken) m.after
      else
        match m.after with
        | [] => [m]
        | c :: rest => m :: matchesFrom r steps (stop + 1) (some c) rest

/-- The matches that a replacement comes to. -/
def allMatches (r : Regex) (text : Text) : List Match :=
  r.matchesFrom (text.length + 1) 0 none text

section

variable {r : Regex} {f g : Match → Text} {steps base : Nat} {before : Option Char}
    {behind : Bool}
  {text : Text} {m : Match}

theorem replaceFrom_of_none (h : r.findFrom? base before text = none) :
    r.replaceFrom f (steps + 1) base before behind text = text := by
  rw [replaceFrom, h]

variable (steps behind) in
theorem replaceFrom_of_taken (h : r.findFrom? base before text = some m) (hne : m.taken ≠ []) :
    ∃ stop last, last = lastOr (lastOr before m.before) m.taken ∧
      (∀ f : Match → Text, r.replaceFrom f (steps + 1) base before behind text =
        m.before ++ f m ++ r.replaceFrom f steps stop last true m.after) ∧
      r.matchesFrom (steps + 1) base before text =
        m :: r.matchesFrom steps stop last m.after := by
  refine ⟨base + m.before.length + m.taken.length, _, rfl, fun f => ?_, ?_⟩
  · rw [replaceFrom, h]
    simp only [List.isEmpty_eq_false_iff.2 hne, Bool.not_false, if_pos]
  · rw [matchesFrom, h]
    simp only [List.isEmpty_eq_false_iff.2 hne, Bool.not_false, if_pos]

variable (steps behind) in
theorem replaceFrom_of_empty {c : Char} {rest : Text} (h : r.findFrom? base before text = some m)
    (hnil : m.taken = []) (hafter : m.after = c :: rest) :
    ∃ stop, (∀ f : Match → Text, r.replaceFrom f (steps + 1) base before behind text =
        m.before ++ (if behind && m.before.isEmpty then [] else f m) ++
          c :: r.replaceFrom f steps stop (some c) false rest) ∧
      r.matchesFrom (steps + 1) base before text = m :: r.matchesFrom steps stop
        (some c) rest := by
  refine ⟨base + m.before.length + m.taken.length + 1, fun f => ?_, ?_⟩
  · rw [replaceFrom, h]
    simp [hnil, hafter]
  · rw [matchesFrom, h]
    simp [hnil, hafter]

theorem replaceFrom_of_last (h : r.findFrom? base before text = some m) (hnil : m.taken = [])
    (hafter : m.after = []) :
    (∀ f : Match → Text, r.replaceFrom f (steps + 1) base before behind text =
      m.before ++ if behind && m.before.isEmpty then [] else f m) ∧
      r.matchesFrom (steps + 1) base before text = [m] := by
  refine ⟨fun f => ?_, ?_⟩
  · rw [replaceFrom, h]
    simp [hnil, hafter]
  · rw [matchesFrom, h]
    simp [hnil, hafter]

end

end PlainLink.Regex
