/-
# Programs of expressions

The program of an expression leads where the expression does, and its numbers are in
order: each part has a range of its own, except that the first round of a repetition and
the later ones are the same part.  So a search for a pattern finds the preferred match
of its expression.

Where a part stands twice, as in `e*` written as `e` and a loop, the two have the same
numbers and must go on in the same way.  `Numbers` says that each number stands for one
row of parts, wherever the part is put; `Range` adds that no choice is come to again
from its own branches, which needs that what is repeated without end takes something in
each round.

Main statement: `findFrom?_eq_firstMatch?`.
-/
import PlainLink.Proofs.Regex.Preferred
import PlainLink.Proofs.Regex.Span

namespace PlainLink.Regex

/-! ## Ranges of numbers -/

namespace Node

/-- The numbers of the part lie between `low` and `high`. -/
def within (low high : Nat) : Node → Prop
  | skip => True
  | set id _ => low ≤ id ∧ id < high
  | look _ => True
  | mark _ => True
  | seq a b => a.within low high ∧ b.within low high
  | fork id a b => (low ≤ id ∧ id < high) ∧ a.within low high ∧ b.within low high
  | loop id _ body => (low ≤ id ∧ id < high) ∧ body.within low high

variable {n a b body : Node} {low mid high id : Nat}

theorem within.mono (h : n.within low high) {low' high' : Nat} (hlow : low' ≤ low)
    (hhigh : high ≤ high') : n.within low' high' := by
  induction n with
  | skip => trivial
  | set id s => exact ⟨Nat.le_trans hlow h.1, Nat.lt_of_lt_of_le h.2 hhigh⟩
  | look l => trivial
  | mark slot => trivial
  | seq a b iha ihb => exact ⟨iha h.1, ihb h.2⟩
  | fork id a b iha ihb =>
      exact ⟨⟨Nat.le_trans hlow h.1.1, Nat.lt_of_lt_of_le h.1.2 hhigh⟩, iha h.2.1, ihb h.2.2⟩
  | loop id greedy body ih =>
      exact ⟨⟨Nat.le_trans hlow h.1.1, Nat.lt_of_lt_of_le h.1.2 hhigh⟩, ih h.2⟩

theorem within.front (h : n.within low high) (hid : id ∈ n.front) : low ≤ id ∧ id < high := by
  induction n with
  | skip => cases hid
  | set i s => exact List.mem_singleton.1 hid ▸ h
  | look l => cases hid
  | mark slot => cases hid
  | seq a b iha ihb =>
      rcases mem_front_seq.1 hid with ha | ⟨-, hb⟩
      · exact iha h.1 ha
      · exact ihb h.2 hb
  | fork i a b iha ihb =>
      rcases List.mem_cons.1 hid with rfl | hid
      · exact h.1
      · rcases List.mem_append.1 hid with ha | hb
        · exact iha h.2.1 ha
        · exact ihb h.2.2 hb
  | loop i greedy body ih =>
      rcases List.mem_cons.1 hid with rfl | hid
      · exact h.1
      · exact ih h.2 hid

theorem within.numbered (h : n.within low high) {stack stack' : Nat → List Node}
    (hsame : ∀ id, low ≤ id → id < high → stack' id = stack id) {rest : List Node}
    (hn : n.numbered stack rest) : n.numbered stack' rest := by
  induction n generalizing rest with
  | skip => trivial
  | set id s => exact (hsame id h.1 h.2).trans hn
  | look l => trivial
  | mark slot => trivial
  | seq a b iha ihb => exact ⟨iha h.1 hn.1, ihb h.2 hn.2⟩
  | fork id a b iha ihb =>
      exact ⟨(hsame id h.1.1 h.1.2).trans hn.1, iha h.2.1 hn.2.1, ihb h.2.2 hn.2.2⟩
  | loop id greedy body ih => exact ⟨(hsame id h.1.1 h.1.2).trans hn.1, ih h.2 hn.2⟩

/-- The numbers of the part are those from `low` to `high`, and each stands for one row of
parts wherever the part stands. -/
structure Numbers (n : Node) (low high : Nat) : Prop where
  le : low ≤ high
  within : n.within low high
  numbered : ∀ (stack : Nat → List Node) (rest : List Node), ∃ stack' : Nat → List Node,
    (∀ id, id < low ∨ high ≤ id → stack' id = stack id) ∧ n.numbered stack' rest

theorem Numbers.skip (low : Nat) : Node.skip.Numbers low low :=
  ⟨Nat.le_refl _, trivial, fun stack _ => ⟨stack, fun _ _ => rfl, trivial⟩⟩

theorem Numbers.look (l : Look) (low : Nat) : (Node.look l).Numbers low low :=
  ⟨Nat.le_refl _, trivial, fun stack _ => ⟨stack, fun _ _ => rfl, trivial⟩⟩

theorem Numbers.mark (slot low : Nat) : (Node.mark slot).Numbers low low :=
  ⟨Nat.le_refl _, trivial, fun stack _ => ⟨stack, fun _ _ => rfl, trivial⟩⟩

theorem Numbers.set (s : CharSet) (id : Nat) : (Node.set id s).Numbers id (id + 1) := by
  refine ⟨Nat.le_succ _, ⟨Nat.le_refl _, Nat.lt_succ_self _⟩, ?_⟩
  intro stack rest
  refine ⟨fun i => if i = id then .set id s :: rest else stack i, fun i hi => ?_, if_pos rfl⟩
  exact if_neg (by omega)

theorem Numbers.mono (h : n.Numbers low high) {low' : Nat} (hlow : low' ≤ low) :
    n.Numbers low' high := by
  refine ⟨Nat.le_trans hlow h.le, h.within.mono hlow (Nat.le_refl _), ?_⟩
  intro stack rest
  obtain ⟨stack', hsame, hn⟩ := h.numbered stack rest
  exact ⟨stack', fun id hid => hsame id (by omega), hn⟩

theorem Numbers.seq (ha : a.Numbers low mid) (hb : b.Numbers mid high) :
    (Node.seq a b).Numbers low high := by
  have hle := ha.le
  have hle' := hb.le
  refine ⟨Nat.le_trans hle hle',
    ⟨ha.within.mono (Nat.le_refl _) hle', hb.within.mono hle (Nat.le_refl _)⟩, ?_⟩
  intro stack rest
  obtain ⟨stackA, hsameA, hnumA⟩ := ha.numbered stack (b :: rest)
  obtain ⟨stackB, hsameB, hnumB⟩ := hb.numbered stackA rest
  refine ⟨stackB, fun id hid => ?_, ?_, hnumB⟩
  · rw [hsameB id (by omega), hsameA id (by omega)]
  · exact ha.within.numbered (fun id _ hlt => hsameB id (.inl hlt)) hnumA

theorem Numbers.fork (ha : a.Numbers (id + 1) mid) (hb : b.Numbers mid high) :
    (Node.fork id a b).Numbers id high := by
  have hle := ha.le
  have hle' := hb.le
  refine ⟨by omega, ⟨⟨Nat.le_refl _, by omega⟩, ha.within.mono (Nat.le_succ _) hle',
    hb.within.mono (by omega) (Nat.le_refl _)⟩, ?_⟩
  intro stack rest
  obtain ⟨stackA, hsameA, hnumA⟩ := ha.numbered
    (fun i => if i = id then .fork id a b :: rest else stack i) rest
  obtain ⟨stackB, hsameB, hnumB⟩ := hb.numbered stackA rest
  refine ⟨stackB, fun i hi => ?_, ?_, ?_, hnumB⟩
  · rw [hsameB i (by omega), hsameA i (by omega), if_neg (by omega)]
  · rw [hsameB id (by omega), hsameA id (by omega), if_pos rfl]
  · exact ha.within.numbered (fun i _ hlt => hsameB i (.inl hlt)) hnumA

theorem Numbers.loop (hbody : body.Numbers (id + 1) high) (greedy : Bool) :
    (Node.loop id greedy body).Numbers id high := by
  have hle := hbody.le
  refine ⟨by omega,
    ⟨⟨Nat.le_refl _, by omega⟩, hbody.within.mono (Nat.le_succ _) (Nat.le_refl _)⟩,
    ?_⟩
  intro stack rest
  obtain ⟨stack', hsame, hnum⟩ := hbody.numbered
    (fun i => if i = id then .loop id greedy body :: rest else stack i)
      (.loop id greedy body :: rest)
  refine ⟨stack', fun i hi => ?_, ?_, hnum⟩
  · rw [hsame i (by omega), if_neg (by omega)]
  · rw [hsame id (by omega), if_pos rfl]

/-- The first round of a repetition is the same part as the later ones. -/
theorem Numbers.again (hbody : body.Numbers low high) (greedy : Bool) :
    (Node.seq body (.loop high greedy body)).Numbers low (high + 1) := by
  have hle := hbody.le
  have hwithin := hbody.within.mono (Nat.le_refl low) (Nat.le_succ high)
  refine ⟨by omega, ⟨hwithin, ⟨hle, by omega⟩, hwithin⟩, ?_⟩
  intro stack rest
  obtain ⟨stack', hsame, hnum⟩ := hbody.numbered
    (fun i => if i = high then .loop high greedy body :: rest else stack i)
    (.loop high greedy body :: rest)
  refine ⟨stack', fun i hi => ?_, hnum, ?_, hnum⟩
  · rw [hsame i (by omega), if_neg (by omega)]
  · rw [hsame high (by omega), if_pos rfl]

theorem Numbers.chosen (hbody : body.Numbers (id + 2) high) (greedy : Bool) :
    (Node.option (id + 1) greedy (.seq body (.loop id greedy body))).Numbers id high := by
  have hle := hbody.le
  have hwithin := hbody.within.mono (show id ≤ id + 2 by omega) (Nat.le_refl high)
  have hround : (Node.seq body (.loop id greedy body)).within id high :=
    ⟨hwithin, ⟨Nat.le_refl _, by omega⟩, hwithin⟩
  have hid : id ≤ id + 1 ∧ id + 1 < high := by omega
  refine ⟨by omega, ?_, ?_⟩
  · cases greedy with
    | true => exact ⟨hid, hround, trivial⟩
    | false => exact ⟨hid, trivial, hround⟩
  · intro stack rest
    let again : Node := .loop id greedy body
    obtain ⟨stack', hsame, hnum⟩ := hbody.numbered
      (fun i => if i = id then again :: rest
        else if i = id + 1 then Node.option (id + 1) greedy (.seq body again) :: rest
          else stack i)
      (again :: rest)
    have hagain : stack' id = again :: rest := by rw [hsame id (by omega), if_pos rfl]
    have hchoice : stack' (id + 1) = Node.option (id + 1) greedy (.seq body again) :: rest := by
      rw [hsame (id + 1) (by omega), if_neg (by omega), if_pos rfl]
    refine ⟨stack', fun i hi => ?_, ?_⟩
    · rw [hsame i (by omega), if_neg (by omega), if_neg (by omega)]
    · cases greedy with
      | true => exact ⟨hchoice, ⟨hnum, hagain, hnum⟩, trivial⟩
      | false => exact ⟨hchoice, trivial, hnum, hagain, hnum⟩

/-- The numbers of the part are those from `low` to `high`, and they are in order wherever the
part stands: behind it, only a part that takes something may come to its numbers again, and
only to those at its beginning. -/
structure Range (n : Node) (low high : Nat) : Prop where
  le : low ≤ high
  within : n.within low high
  fits : ∀ after, (∀ id ∈ after, low ≤ id → id < high → n.takes ∧ id ∈ n.front) → n.fits after
  numbered : ∀ (stack : Nat → List Node) (rest : List Node), ∃ stack' : Nat → List Node,
    (∀ id, id < low ∨ high ≤ id → stack' id = stack id) ∧ n.numbered stack' rest

theorem Range.numbers (h : n.Range low high) : n.Numbers low high :=
  ⟨h.le, h.within, h.numbered⟩

theorem Numbers.range (h : n.Numbers low high)
    (hfits : ∀ after, (∀ id ∈ after, low ≤ id → id < high → n.takes ∧ id ∈ n.front) →
      n.fits after) : n.Range low high :=
  ⟨h.le, h.within, hfits, h.numbered⟩

theorem Range.skip (low : Nat) : Node.skip.Range low low :=
  (Numbers.skip low).range fun _ _ => trivial

theorem Range.look (l : Look) (low : Nat) : (Node.look l).Range low low :=
  (Numbers.look l low).range fun _ _ => trivial

theorem Range.mark (slot low : Nat) : (Node.mark slot).Range low low :=
  (Numbers.mark slot low).range fun _ _ => trivial

theorem Range.set (s : CharSet) (id : Nat) : (Node.set id s).Range id (id + 1) :=
  (Numbers.set s id).range fun _ _ => trivial

theorem Range.mono (h : n.Range low high) {low' : Nat} (hlow : low' ≤ low) : n.Range low' high :=
  (h.numbers.mono hlow).range fun after hafter =>
    h.fits after fun id hid hge => hafter id hid (Nat.le_trans hlow hge)

theorem Range.seq (ha : a.Range low mid) (hb : b.Range mid high) :
    (Node.seq a b).Range low high := by
  have hle := ha.le
  have hle' := hb.le
  refine (ha.numbers.seq hb.numbers).range fun after hafter => ?_
  refine ⟨ha.fits _ fun id hid hge hlt => ?_, hb.fits _ fun id hid hge hlt => ?_⟩
  · rcases List.mem_append.1 hid with hid | hid
    · have hrange := hb.within.front hid
      omega
    · obtain ⟨hb', hid⟩ : b.takes = false ∧ id ∈ after := by
        cases h : b.takes <;> simp_all
      obtain ⟨htakes, hfront⟩ := hafter id hid hge (by omega)
      rcases mem_front_seq.1 hfront with hfront | ⟨-, hfront⟩
      · exact ⟨by simpa [takes, hb'] using htakes, hfront⟩
      · have hrange := hb.within.front hfront
        omega
  · obtain ⟨htakes, hfront⟩ := hafter id hid (by omega) hlt
    rcases mem_front_seq.1 hfront with hfront | ⟨ha', hfront⟩
    · have hrange := ha.within.front hfront
      omega
    · exact ⟨by simpa [takes, ha'] using htakes, hfront⟩

theorem Range.fork (ha : a.Range (id + 1) mid) (hb : b.Range mid high) :
    (Node.fork id a b).Range id high := by
  have hle := ha.le
  have hle' := hb.le
  refine (ha.numbers.fork hb.numbers).range fun after hafter => ?_
  have hfront : ∀ i, i ∈ a.front ++ b.front → i ≠ id := by
    intro i hi
    rcases List.mem_append.1 hi with hi | hi
    · have hrange := ha.within.front hi
      omega
    · have hrange := hb.within.front hi
      omega
  -- What may come to the fork again is in one of its branches, and both take something.
  have hbranch : ∀ i ∈ after, id < i → i < high → a.takes ∧ b.takes ∧
      (i ∈ a.front ∨ i ∈ b.front) := by
    intro i hi hge hlt
    obtain ⟨htakes, hfront⟩ := hafter i hi (Nat.le_of_lt hge) hlt
    obtain ⟨htakesA, htakesB⟩ := Bool.and_eq_true_iff.1 htakes
    rcases List.mem_cons.1 hfront with rfl | hfront
    · omega
    · exact ⟨htakesA, htakesB, List.mem_append.1 hfront⟩
  refine ⟨fun hid => hfront id hid rfl, fun hnot hid => ?_, ha.fits _ fun i hi hge hlt => ?_,
    hb.fits _ fun i hi hge hlt => ?_⟩
  · exact hnot (hafter id hid (Nat.le_refl _) (by omega)).1
  · obtain ⟨htakes, -, hfront | hfront⟩ := hbranch i hi (by omega) (by omega)
    · exact ⟨htakes, hfront⟩
    · have hrange := hb.within.front hfront
      omega
  · obtain ⟨-, htakes, hfront | hfront⟩ := hbranch i hi (by omega) hlt
    · have hrange := ha.within.front hfront
      omega
    · exact ⟨htakes, hfront⟩

theorem Range.loop (hbody : body.Range (id + 1) high) (htakes : body.takes) (greedy : Bool) :
    (Node.loop id greedy body).Range id high := by
  have hle := hbody.le
  refine (hbody.numbers.loop greedy).range fun after hafter => ?_
  have hnot : ∀ i ∈ after, id ≤ i → i < high → False := fun i hi hge hlt => by
    cases (hafter i hi hge hlt).1
  refine ⟨htakes, fun hid => ?_, fun hid => hnot id hid (Nat.le_refl _) (by omega),
    hbody.fits _ fun i hi hge hlt => ?_⟩
  · have hrange := hbody.within.front hid
    omega
  · rcases List.mem_cons.1 hi with rfl | hi
    · omega
    · rcases List.mem_append.1 hi with hi | hi
      · exact ⟨htakes, hi⟩
      · exact (hnot i hi (by omega) hlt).elim

theorem Range.again (hbody : body.Range low high) (htakes : body.takes) (greedy : Bool) :
    (Node.seq body (.loop high greedy body)).Range low (high + 1) := by
  have hle := hbody.le
  refine (hbody.numbers.again greedy).range fun after hafter => ?_
  have hfront : ∀ i ∈ after, low ≤ i → i < high + 1 → i ∈ body.front := by
    intro i hi hge hlt
    rcases mem_front_seq.1 (hafter i hi hge hlt).2 with hmem | ⟨hnot, -⟩
    · exact hmem
    · rw [htakes] at hnot
      cases hnot
  have hbodyFits : body.fits (high :: (body.front ++ after)) :=
    hbody.fits _ fun i hi hge hlt => by
    rcases List.mem_cons.1 hi with rfl | hi
    · omega
    · rcases List.mem_append.1 hi with hi | hi
      · exact ⟨htakes, hi⟩
      · exact ⟨htakes, hfront i hi hge (by omega)⟩
  refine ⟨hbodyFits, htakes, fun hid => ?_, fun hid => ?_, hbodyFits⟩
  · have hrange := hbody.within.front hid
    omega
  · have hrange := hbody.within.front (hfront high hid hle (by omega))
    omega

/-! ## Repetitions written out -/

theorem repetition_numbers {part : Nat → Node × Nat}
    (hpart : ∀ next, (part next).1.Numbers next (part next).2)
    (progresses greedy : Bool) (least : Nat) (most : Option Nat) (next : Nat) :
    (repetition part progresses greedy least most next).1.Numbers next
      (repetition part progresses greedy least most next).2 := by
  cases most with
  | some most =>
      exact (copies_rel Numbers.skip .seq hpart least next).seq
        (options_rel Numbers.skip .seq hpart .fork greedy _ _)
  | none =>
      simp only [repetition]
      split
      · cases progresses with
        | true => exact .loop ((hpart (next + 2)).mono (Nat.le_succ _)) greedy
        | false => exact .chosen (hpart (next + 2)) greedy
      · exact (copies_rel Numbers.skip .seq hpart _ next).seq (.again (hpart _) greedy)

section

variable {part : Nat → Node × Nat} (hpart : ∀ next, (part next).1.Range next (part next).2)

include hpart

theorem repetition_range {progresses greedy : Bool} {least : Nat}
    {most : Option Nat} (next : Nat)
    (hround : most = none → progresses ∧ ∀ next, (part next).1.takes) :
    (repetition part progresses greedy least most next).1.Range next
      (repetition part progresses greedy least most next).2 := by
  cases most with
  | some most =>
      exact (copies_rel Range.skip .seq hpart least next).seq
        (options_rel Range.skip .seq hpart .fork greedy _ _)
  | none =>
      obtain ⟨rfl, htakes⟩ := hround rfl
      simp only [repetition]
      split
      · exact .loop ((hpart (next + 2)).mono (Nat.le_succ _)) (htakes _) greedy
      · exact (copies_rel Range.skip .seq hpart _ next).seq (.again (hpart _) (htakes _) greedy)

end

section

variable {part : Nat → Node × Nat} {f : Spot → List Spot}
    (hpart : ∀ next, (part next).1.outs = f)

include hpart

theorem copies_outs (count next : Nat) : (copies part count next).1.outs = times f count := by
  induction count generalizing next with
  | zero => rfl
  | succ count ih =>
      funext p
      simp only [copies, outs, hpart, ih, times]

theorem options_outs (greedy : Bool) (count next : Nat) :
    (options part greedy count next).1.outs = upTo greedy f count := by
  induction count generalizing next with
  | zero => rfl
  | succ count ih =>
      funext p
      cases greedy with
      | true => simp [options, option, outs, hpart, ih, upTo]
      | false => simp [options, option, outs, hpart, ih, upTo]

theorem repetition_outs {progresses greedy : Bool} {least : Nat} {most : Option Nat} (next : Nat)
    (hround : most = none → progresses) (p : Spot) :
    (repetition part progresses greedy least most next).1.outs p =
      (times f least p).flatMap fun q =>
        upTo greedy f ((most.map (· - least)).getD q.rest.length) q := by
  cases most with
  | some most => simp [repetition, outs, copies_outs hpart, options_outs hpart]
  | none =>
      obtain rfl := hround rfl
      cases least with
      | zero => simp [repetition, outs, hpart, times]
      | succ least =>
          rw [times_succ, List.flatMap_assoc]
          simp [repetition, outs, copies_outs hpart, hpart]

end

end Node

/-! ## Expressions -/

namespace Expr

theorem compile_takes {e : Expr} (h : e.takesSomething) (next : Nat) :
    (e.compile next).1.takes := by
  induction e generalizing next with
  | empty => cases h
  | set s => rfl
  | look l => cases h
  | group before e ih => simpa [compile, Node.takes] using ih h next
  | seq a b iha ihb =>
      rcases Bool.or_eq_true_iff.1 h with ha | hb
      · simp [compile, Node.takes, iha ha]
      · simp [compile, Node.takes, ihb hb]
  | alt a b iha ihb =>
      obtain ⟨ha, hb⟩ := Bool.and_eq_true_iff.1 h
      simp [compile, Node.takes, iha ha, ihb hb]
  | rep least most greedy e ih =>
      obtain ⟨hleast, he⟩ := Bool.and_eq_true_iff.1 h
      obtain ⟨least, rfl⟩ :=
        Nat.exists_eq_succ_of_ne_zero (Nat.ne_of_gt (of_decide_eq_true hleast))
      cases most with
      | some most => simp [compile, Node.repetition, Node.copies, Node.takes, ih he]
      | none => simp [compile, Node.repetition, Node.takes, ih he]

/-- In the program of any expression each number stands for one row of parts. -/
theorem compile_numbers (e : Expr) (next : Nat) :
    (e.compile next).1.Numbers next (e.compile next).2 := by
  induction e generalizing next with
  | empty => exact .skip next
  | set s => exact .set s next
  | look l => exact .look l next
  | group before e ih => exact (Node.Numbers.mark _ next).seq ((ih next).seq (.mark _ _))
  | seq a b iha ihb => exact (iha next).seq (ihb _)
  | alt a b iha ihb => exact (iha (next + 1)).fork (ihb _)
  | rep least most greedy e ih => exact Node.repetition_numbers ih _ greedy least most next

/-- In the program of an expression each part has a range of numbers of its own. -/
theorem compile_range {e : Expr} (h : e.progresses) (next : Nat) :
    (e.compile next).1.Range next (e.compile next).2 := by
  induction e generalizing next with
  | empty => exact .skip next
  | set s => exact .set s next
  | look l => exact .look l next
  | group before e ih => exact (Node.Range.mark _ next).seq ((ih h next).seq (.mark _ _))
  | seq a b iha ihb =>
      obtain ⟨ha, hb⟩ := Bool.and_eq_true_iff.1 h
      exact (iha ha next).seq (ihb hb _)
  | alt a b iha ihb =>
      obtain ⟨ha, hb⟩ := Bool.and_eq_true_iff.1 h
      exact (iha ha (next + 1)).fork (ihb hb _)
  | rep least most greedy e ih =>
      obtain ⟨he, hround⟩ := Bool.and_eq_true_iff.1 h
      refine Node.repetition_range (ih he) next fun hmost => ?_
      have htakes : e.takesSomething := by simpa [hmost] using hround
      exact ⟨htakes, compile_takes htakes⟩

theorem compile_outs {e : Expr} (h : e.progresses) (next : Nat) :
    (e.compile next).1.outs = e.outs := by
  induction e generalizing next with
  | empty => rfl
  | set s => rfl
  | look l => rfl
  | group before e ih =>
      funext p
      simp [compile, Node.outs, outs, ih h, List.map_eq_flatMap]
  | seq a b iha ihb =>
      obtain ⟨ha, hb⟩ := Bool.and_eq_true_iff.1 h
      funext p
      simp only [compile, Node.outs, outs, iha ha, ihb hb]
  | alt a b iha ihb =>
      obtain ⟨ha, hb⟩ := Bool.and_eq_true_iff.1 h
      funext p
      simp only [compile, Node.outs, outs, iha ha, ihb hb]
  | rep least most greedy e ih =>
      obtain ⟨he, hround⟩ := Bool.and_eq_true_iff.1 h
      funext p
      exact Node.repetition_outs (ih he) next (fun hmost => by simpa [hmost] using hround) p

/-! ## Matches -/

/-- The preferred match that begins at a place. -/
def matchAt? (e : Expr) (p : Spot) : Option Spot :=
  (e.outs (p.mark 0)).head?.map (·.mark 1)

/-- The preferred match at the first place where there is any. -/
def firstMatch? (e : Expr) (index : Nat) (before : Option Char) : Text → Option Spot
  | [] => e.matchAt? ⟨index, before, [], []⟩
  | c :: rest =>
    (e.matchAt? ⟨index, before, c :: rest, []⟩).or (e.firstMatch? (index + 1) (some c) rest)

theorem preferred_program {e : Expr} (h : e.progresses) (p : Spot) :
    preferred [.mark 0, (e.compile 0).1, .mark 1] p = (e.matchAt? p).map (·.marks) := by
  simp only [preferred, outsAll, Node.outs, compile_outs h, List.flatMap_singleton, matchAt?,
    ← List.map_eq_flatMap, List.head?_map, Option.map_map]

theorem ordered_program {e : Expr} (h : e.progresses) :
    ∃ stack, Ordered stack [.mark 0, (e.compile 0).1, .mark 1] := by
  obtain ⟨stack, -, hnumbered⟩ := (compile_range h 0).numbered (fun _ => []) [.mark 1]
  refine ⟨stack, trivial, trivial, hnumbered, ?_, trivial, trivial, trivial⟩
  exact (compile_range h 0).fits _ fun id hid => absurd hid (by simp [fronts, Node.front])

end Expr

/-- A search for a pattern finds the preferred match of its expression, at the first place
where there is any. -/
theorem findFrom?_eq_firstMatch? {r : Regex} (h : r.expr.progresses) (base : Nat)
    (before : Option Char) (text : Text) :
    r.findFrom? base before text =
      (r.expr.firstMatch? base before text).map fun q => ⟨base, text, q.marks⟩ := by
  obtain ⟨stack, hordered⟩ := Expr.ordered_program h
  have hfirst :
      ∀ index before text, firstFrom [.mark 0, (r.expr.compile 0).1, .mark 1] index before
      text = (r.expr.firstMatch? index before text).map (·.marks) := by
    intro index before text
    induction text generalizing index before with
    | nil => simp [firstFrom, laterFrom, Expr.firstMatch?, Expr.preferred_program h]
    | cons c rest ih =>
        rw [Expr.firstMatch?, Option.map_or, ← ih, firstFrom, laterFrom,
          Expr.preferred_program h]
        rfl
  rw [findFrom?, r.program_eq, search_eq_firstFrom hordered, hfirst, Option.map_map]
  rfl

end PlainLink.Regex
