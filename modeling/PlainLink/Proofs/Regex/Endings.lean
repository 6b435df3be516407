/-
# Texts that end with a run of one character

A text may go on with the same character several times, as a field list does that ends
with the separators of deleted fields.  What an expression makes of the text in front of
the run is in the outcomes of the whole: they are those that leave the run as it is, in
their order (`filter_outs_extend`).  This holds of any text behind, as long as the
expression asks only about what stands before its places.

What the run adds are outcomes inside it.  There are none where the expression never
gets into the run, or gets stuck as soon as it does:

    [^&]+          does not take the character
    .*?adurl=      goes into the run, but finds none of what comes next
    .*?            may end inside the run, but leads on in front of it just as well

The first two kinds have the outcomes of the text alone, with the run behind
(`outs_extend`).  The third has outcomes if and only if it has some in the text alone
(`outs_extend_eq_nil`), which is all that a pattern is asked that is matched and not
substituted.
-/
import PlainLink.Proofs.Regex.Beginning
import PlainLink.Proofs.Regex.Occurrence
import PlainLink.Proofs.Regex.Rewriting

namespace PlainLink.Regex

/-! ## Outcomes in front of a text -/

section

variable {α : Type} {f : α → Bool} {h : α → α} {step : α → List α} {greedy : Bool}

theorem filter_flatMap_of_out {g : α → List α} (hout : ∀ a, f a = false → ∀ b ∈ g a, f b = false)
    (as : List α) :
    (as.flatMap g).filter f = (as.filter f).flatMap fun a => (g a).filter f := by
  induction as with
  | nil => rfl
  | cons a as ih =>
      rw [List.flatMap_cons, List.filter_append, ih]
      by_cases ha : f a = true
      · rw [List.filter_cons_of_pos ha, List.flatMap_cons]
      · have hnone : (g a).filter f = [] :=
          List.filter_eq_nil_iff.2 fun b hb => by simp [hout a (by simpa using ha) b hb]
        rw [List.filter_cons_of_neg ha, hnone, List.nil_append]

variable (hin : ∀ a, f (h a) = true) (hout : ∀ a, f a = false → ∀ b ∈ step a, f b = false)
  (hstep : ∀ a, (step (h a)).filter f = (step a).map h)

include hin hout hstep

theorem filter_times (n : Nat) (a : α) :
    (times step n (h a)).filter f = (times step n a).map h := by
  have hmore : ∀ n a, f a = false → ∀ b ∈ times step n a, f b = false := fun n a ha b hb =>
    rel_of_mem_times (R := fun a b => f a = false → f b = false) (fun _ => id)
      (fun _ _ _ hab hbc => hbc ∘ hab) (fun a b hb ha => hout a ha b hb) hb ha
  induction n generalizing a with
  | zero => simp [times, hin]
  | succ n ih =>
      rw [times, filter_flatMap_of_out (hmore n), hstep, List.flatMap_map, times,
        List.map_flatMap]
      exact List.flatMap_congr fun b _ => ih b

theorem filter_upTo (n : Nat) (a : α) :
    (upTo greedy step n (h a)).filter f = (upTo greedy step n a).map h := by
  have hmore : ∀ n a, f a = false → ∀ b ∈ upTo greedy step n a, f b = false := fun n a ha b hb =>
    rel_of_mem_upTo (R := fun a b => f a = false → f b = false) (fun _ => id)
      (fun _ _ _ hab hbc => hbc ∘ hab) (fun a b hb ha => hout a ha b hb) hb ha
  induction n generalizing a with
  | zero => simp [upTo, hin]
  | succ n ih =>
      have hnext : ((step (h a)).flatMap (upTo greedy step n)).filter f =
          ((step a).flatMap (upTo greedy step n)).map h := by
        rw [filter_flatMap_of_out (hmore n), hstep, List.flatMap_map, List.map_flatMap]
        exact List.flatMap_congr fun b _ => ih b
      cases greedy with
      | true => simp [upTo, hin, hnext]
      | false => simp [upTo, hin, hnext]

end

/-- The place leaves at least the text. -/
def Spot.leaves (t : Text) (p : Spot) : Bool :=
  t.length ≤ p.rest.length

theorem Spot.leaves_extend (t : Text) (p : Spot) : (p.extend t).leaves t := by
  simp [leaves, extend]

namespace Expr

variable {e : Expr} {c : Char} {t : Text}

theorem not_leaves_of_mem_outs {p q : Spot} (hp : p.leaves t = false) (hq : q ∈ e.outs p) :
    q.leaves t = false := by
  have hle := length_le_of_mem_outs hq
  simp only [Spot.leaves, decide_eq_false_iff_not, Nat.not_le] at hp ⊢
  omega

/-- In a text that goes on, the outcomes that leave what it goes on with
are those of the text. -/
theorem filter_outs_extend (hback : e.looksBack) (hprogresses : e.progresses)
    (t : Text) (p : Spot) :
    (e.outs (p.extend t)).filter (·.leaves t) = (e.outs p).map (·.extend t) := by
  induction e generalizing p with
  | empty => simp [outs, Spot.leaves_extend]
  | set s =>
      obtain ⟨index, before, rest, marks⟩ := p
      cases rest with
      | nil =>
          cases t with
          | nil => rfl
          | cons d t =>
              by_cases hd : s.test d = true
              · simp [outs, Spot.take, Spot.extend, Spot.leaves, hd]
              · simp [outs, Spot.take, Spot.extend, hd]
      | cons d rest =>
          by_cases hd : s.test d = true
          · simp [outs, Spot.take, Spot.extend, Spot.leaves, hd]
          · simp [outs, Spot.take, Spot.extend, hd]
  | look l =>
      have hasks : l.holds p.before (p.extend t).rest.head? = l.holds p.before p.rest.head? := by
        cases l <;> first | rfl | cases hback
      have hsame : (p.extend t).before = p.before := rfl
      rw [outs, outs, Spot.ask, Spot.ask, hsame, hasks]
      split
      · simp [Spot.leaves_extend]
      · rfl
  | group before e ih =>
      have hmark : (p.extend t).mark (2 * before + 2) = (p.mark (2 * before + 2)).extend t := rfl
      rw [outs, outs, List.filter_map, hmark]
      have hleaves : ((·.leaves t) ∘ fun q : Spot => q.mark (2 * before + 3)) = (·.leaves t) :=
        rfl
      rw [hleaves, ih hback hprogresses, List.map_map, List.map_map]
      rfl
  | seq a b iha ihb =>
      obtain ⟨ha, hb⟩ := Bool.and_eq_true_iff.1 hback
      obtain ⟨hpa, hpb⟩ := Bool.and_eq_true_iff.1 hprogresses
      rw [outs, outs, filter_flatMap_of_out fun _ hq _ hr => not_leaves_of_mem_outs hq hr,
        iha ha hpa, List.flatMap_map, List.map_flatMap]
      exact List.flatMap_congr fun q _ => ihb hb hpb q
  | alt a b iha ihb =>
      obtain ⟨ha, hb⟩ := Bool.and_eq_true_iff.1 hback
      obtain ⟨hpa, hpb⟩ := Bool.and_eq_true_iff.1 hprogresses
      rw [outs, outs, List.filter_append, iha ha hpa, ihb hb hpb, List.map_append]
  | rep least most greedy e ih =>
      obtain ⟨hpe, hround⟩ := Bool.and_eq_true_iff.1 hprogresses
      have hout : ∀ p : Spot, p.leaves t = false → ∀ q ∈ e.outs p, q.leaves t = false :=
        fun _ hp _ hq => not_leaves_of_mem_outs hp hq
      have houtUpTo : ∀ p : Spot, p.leaves t = false →
          ∀ q ∈ upTo greedy e.outs ((most.map (· - least)).getD p.rest.length) p,
            q.leaves t = false := fun p hp q hq =>
        rel_of_mem_upTo (R := fun p q : Spot => p.leaves t = false →
          q.leaves t = false) (fun _ => id)
          (fun _ _ _ hab hbc => hbc ∘ hab) (fun p q hq hp => hout p hp q hq) hq hp
      rw [outs, outs, filter_flatMap_of_out houtUpTo,
        filter_times (Spot.leaves_extend t) hout (ih hback hpe), List.flatMap_map,
          List.map_flatMap]
      refine List.flatMap_congr fun q _ => ?_
      rw [filter_upTo (Spot.leaves_extend t) hout (ih hback hpe)]
      cases most with
      | some most => rfl
      | none =>
          have htakes : e.takesSomething := by simpa using hround
          have hshorter : ∀ p : Spot, ∀ q ∈ e.outs p, q.rest.length < p.rest.length :=
            fun _ _ => length_lt_of_mem_outs htakes
          have hlength : q.rest.length ≤ (q.extend t).rest.length := by simp [Spot.extend]
          exact congrArg _ (upTo_eq_upTo hshorter hlength (Nat.le_refl _))

/-! ## Runs -/

/-- The expression leads on nowhere in a text that has no other character. -/
def stuck (c : Char) : Expr → Bool
  | empty => false
  | set s => !s.test c
  | look _ => false
  | group _ e => e.stuck c
  | seq a b => a.stuck c || b.stuck c
  | alt a b => a.stuck c && b.stuck c
  | rep least _ _ e => 0 < least && e.stuck c

/-- The expression takes nothing of a run of the character at the end of a text. -/
def staysBefore (c : Char) : Expr → Bool
  | empty => true
  | set s => !s.test c
  | look _ => true
  | group _ e => e.staysBefore c
  | seq a b => b.staysBefore c && (a.staysBefore c || b.stuck c)
  | alt a b => a.staysBefore c && b.staysBefore c
  | rep _ _ _ e => e.staysBefore c

/-- The expression leads on in a text with a run of the character at its end only if
it leads on without. -/
def needsNone (c : Char) : Expr → Bool
  | empty => true
  | set s => !s.test c
  | look _ => true
  | group _ e => e.needsNone c
  | seq a b => b.needsNone c && (a.staysBefore c || b.stuck c)
  | alt a b => a.needsNone c && b.needsNone c
  | rep least _ _ e => least == 0 || e.staysBefore c

variable {p q : Spot}

theorem run_of_mem_outs (hp : ∀ d ∈ p.rest, d = c) (hq : q ∈ e.outs p) :
    ∀ d ∈ q.rest, d = c := by
  obtain ⟨taken, hto⟩ := outs_to hq
  rw [hto.rest] at hp
  exact fun d hd => hp d (List.mem_append_right _ hd)

theorem outs_of_stuck (hstuck : e.stuck c) (hp : ∀ d ∈ p.rest, d = c) : e.outs p = [] := by
  induction e generalizing p with
  | empty => cases hstuck
  | set s =>
      obtain ⟨index, before, rest, marks⟩ := p
      cases rest with
      | nil => rfl
      | cons d rest =>
          obtain rfl := hp d List.mem_cons_self
          have hd : ¬ s.test d := by simpa [stuck] using hstuck
          simp [outs, Spot.take, hd]
  | look l => cases hstuck
  | group before e ih => rw [outs, ih (p := p.mark _) hstuck hp, List.map_nil]
  | seq a b iha ihb =>
      rw [outs]
      rcases Bool.or_eq_true_iff.1 hstuck with ha | hb
      · rw [iha ha hp, List.flatMap_nil]
      · exact List.flatMap_eq_nil_iff.2 fun q hq => ihb hb (run_of_mem_outs hp hq)
  | alt a b iha ihb =>
      obtain ⟨ha, hb⟩ := Bool.and_eq_true_iff.1 hstuck
      rw [outs, iha ha hp, ihb hb hp, List.append_nil]
  | rep least most greedy e ih =>
      obtain ⟨hleast, he⟩ := Bool.and_eq_true_iff.1 hstuck
      obtain ⟨least, rfl⟩ :=
        Nat.exists_eq_succ_of_ne_zero (Nat.ne_of_gt (of_decide_eq_true hleast))
      rw [outs, times, ih he hp]
      rfl

/-- A way through a text that goes on ends in front of what it goes on with, or inside it. -/
theorem extend_or_inside (hq : q ∈ e.outs (p.extend t)) :
    (∃ r : Spot, q = r.extend t) ∨ ∀ d ∈ q.rest, d ∈ t := by
  obtain ⟨taken, hto⟩ := outs_to hq
  have hrest : p.rest ++ t = taken ++ q.rest := hto.rest
  rcases List.append_eq_append_iff.1 hrest with ⟨more, -, hmore⟩ | ⟨more, -, hmore⟩
  · exact .inr fun d hd => hmore ▸ List.mem_append_right _ hd
  · exact .inl ⟨{ q with rest := more }, by simp [Spot.extend, ← hmore]⟩

/-- An expression that stays in front of a run does so from each place in front of it. -/
theorem exists_extend (hstays : e.staysBefore c) (ht : ∀ d ∈ t, d = c)
    (hq : q ∈ e.outs (p.extend t)) :
    ∃ r : Spot, q = r.extend t := by
  induction e generalizing p q with
  | empty => exact ⟨p, List.mem_singleton.1 hq⟩
  | set s =>
      refine (extend_or_inside hq).elim id fun hinside => ?_
      obtain ⟨d, rest, hrest, hd, rfl⟩ := Spot.mem_take.1 hq
      obtain ⟨index, before, text, marks⟩ := p
      cases text with
      | nil =>
          obtain rfl :=
            ht d (show d ∈ t by rw [show t = d :: rest from hrest]; exact List.mem_cons_self)
          simp [staysBefore, hd] at hstays
      | cons d' text =>
          obtain ⟨rfl, rfl⟩ := List.cons.inj (show d' :: (text ++ t) = d :: rest from hrest)
          exact ⟨⟨index + 1, some d', text, marks⟩, rfl⟩
  | look l => exact ⟨p, (Spot.mem_ask.1 hq).2⟩
  | group before e ih =>
      obtain ⟨r, hr, rfl⟩ := List.mem_map.1 hq
      obtain ⟨r, rfl⟩ := ih (p := p.mark _) hstays hr
      exact ⟨r.mark _, rfl⟩
  | seq a b iha ihb =>
      obtain ⟨hb, hor⟩ := Bool.and_eq_true_iff.1 hstays
      obtain ⟨r, hr, hq⟩ := List.mem_flatMap.1 hq
      rcases Bool.or_eq_true_iff.1 hor with ha | hstuck
      · obtain ⟨r, rfl⟩ := iha ha hr
        exact ihb hb hq
      · rcases extend_or_inside hr with ⟨r, rfl⟩ | hinside
        · exact ihb hb hq
        · rw [outs_of_stuck hstuck fun d hd => ht d (hinside d hd)] at hq
          cases hq
  | alt a b iha ihb =>
      obtain ⟨ha, hb⟩ := Bool.and_eq_true_iff.1 hstays
      rcases List.mem_append.1 hq with hq | hq
      · exact iha ha hq
      · exact ihb hb hq
  | rep least most greedy e ih =>
      have hround : ∀ p q : Spot, q ∈ e.outs p → (∃ r : Spot, p = r.extend t) → ∃ r : Spot,
          q = r.extend t := by
        rintro p q hq ⟨r, rfl⟩
        exact ih hstays hq
      have htrans : ∀ p q r : Spot, ((∃ s : Spot, p = s.extend t) → ∃ s : Spot, q = s.extend t) →
          ((∃ s : Spot, q = s.extend t) → ∃ s : Spot, r = s.extend t) →
          (∃ s : Spot, p = s.extend t) → ∃ s : Spot, r = s.extend t :=
        fun _ _ _ hab hbc => hbc ∘ hab
      obtain ⟨r, hr, hq⟩ := List.mem_flatMap.1 hq
      have hfront := rel_of_mem_times (fun _ => id) htrans hround hr ⟨p, rfl⟩
      exact rel_of_mem_upTo (fun _ => id) htrans hround hq hfront

/-- An expression that stays in front of a run leads on as it does without the run. -/
theorem outs_extend (hback : e.looksBack) (hprogresses : e.progresses) (hstays : e.staysBefore c)
    (ht : ∀ d ∈ t, d = c) (p : Spot) : e.outs (p.extend t) = (e.outs p).map (·.extend t) := by
  rw [← filter_outs_extend hback hprogresses]
  refine (List.filter_eq_self.2 fun q hq => ?_).symm
  obtain ⟨r, rfl⟩ := exists_extend hstays ht hq
  exact r.leaves_extend t

/-- Where the expression needs nothing of a run, it leads on only if it
does without the run. -/
theorem outs_extend_eq_nil (hback : e.looksBack) (hprogresses : e.progresses)
    (hneeds : e.needsNone c) (ht : ∀ d ∈ t, d = c) (hnone : e.outs p = []) :
    e.outs (p.extend t) = [] := by
  induction e generalizing p with
  | group before e ih =>
      rw [outs] at hnone ⊢
      rw [show (p.extend t).mark (2 * before + 2) = (p.mark (2 * before + 2)).extend t from rfl,
        ih hback hprogresses hneeds (List.map_eq_nil_iff.1 hnone), List.map_nil]
  | seq a b iha ihb =>
      obtain ⟨hba, hbb⟩ := Bool.and_eq_true_iff.1 hback
      obtain ⟨hpa, hpb⟩ := Bool.and_eq_true_iff.1 hprogresses
      obtain ⟨hb, hor⟩ := Bool.and_eq_true_iff.1 hneeds
      rw [outs] at hnone ⊢
      -- What comes next gets stuck inside the run, and in front of it is asked about the text
      -- alone.
      have hfront : ∀ q : Spot, q.extend t ∈ a.outs (p.extend t) → b.outs (q.extend t) = [] := by
        intro q hq
        have hmem : q.extend t ∈ (a.outs p).map (·.extend t) := by
          rw [← filter_outs_extend hba hpa]
          exact List.mem_filter.2 ⟨hq, q.leaves_extend t⟩
        obtain ⟨r, hr, hsame⟩ := List.mem_map.1 hmem
        rw [← hsame]
        exact ihb hbb hpb hb (List.flatMap_eq_nil_iff.1 hnone r hr)
      refine List.flatMap_eq_nil_iff.2 fun q hq => ?_
      rcases Bool.or_eq_true_iff.1 hor with hstays | hstuck
      · obtain ⟨r, rfl⟩ := exists_extend hstays ht hq
        exact hfront r hq
      · rcases extend_or_inside hq with ⟨r, rfl⟩ | hinside
        · exact hfront r hq
        · exact outs_of_stuck hstuck fun d hd => ht d (hinside d hd)
  | alt a b iha ihb =>
      obtain ⟨hba, hbb⟩ := Bool.and_eq_true_iff.1 hback
      obtain ⟨hpa, hpb⟩ := Bool.and_eq_true_iff.1 hprogresses
      obtain ⟨ha, hb⟩ := Bool.and_eq_true_iff.1 hneeds
      obtain ⟨hna, hnb⟩ := List.append_eq_nil_iff.1 hnone
      rw [outs, iha hba hpa ha hna, ihb hbb hpb hb hnb, List.append_nil]
  | rep least most greedy e ih =>
      rcases Bool.or_eq_true_iff.1 hneeds with hleast | hstays
      · -- A repetition that may be left out leads on from everywhere.
        obtain rfl : least = 0 := by simpa using hleast
        rw [outs, times, List.flatMap_singleton] at hnone
        exact absurd (hnone ▸ self_mem_upTo _ p) List.not_mem_nil
      · rw [outs_extend (e := rep least most greedy e) hback hprogresses hstays ht,
          hnone, List.map_nil]
  | _ => rw [outs_extend hback hprogresses hneeds ht, hnone, List.map_nil]

/-! ## Matches -/

theorem matchAt?_extend (hback : e.looksBack) (hprogresses : e.progresses)
    (hstays : e.staysBefore c) (ht : ∀ d ∈ t, d = c) (p : Spot) :
    e.matchAt? (p.extend t) = (e.matchAt? p).map (·.extend t) := by
  have hmark : (p.extend t).mark 0 = (p.mark 0).extend t := rfl
  rw [matchAt?, hmark, outs_extend hback hprogresses hstays ht, matchAt?, List.head?_map,
    Option.map_map, Option.map_map]
  rfl

/-- An expression that is tied to the beginning of the text leads on nowhere else. -/
theorem outs_of_anchored (h : e.anchored) {d : Char} (hp : p.before = some d) :
    e.outs p = [] := by
  induction e generalizing p with
  | look l =>
      cases l with
      | textStart => rw [outs, Spot.ask, hp, if_neg (by simp [Look.holds])]
      | _ => cases h
  | group before e ih => rw [outs, ih (p := p.mark _) h hp, List.map_nil]
  | seq a b iha ihb => rw [outs, iha h hp, List.flatMap_nil]
  | _ => cases h

end Expr

variable {r : Regex} {c : Char} {t : Text}

/-- A pattern that is tied to the beginning of the text finds what its
expression takes there. -/
theorem find?_of_anchored (hprogresses : r.expr.progresses) (hanchored : r.expr.anchored)
    (text : Text) :
    r.find? text = (r.expr.matchAt? ⟨0, none, text, []⟩).map fun q => ⟨0, text, q.marks⟩ := by
  have hhere : ∀ (index : Nat) (d : Char) (text : Text),
      r.expr.matchAt? ⟨index, some d, text, []⟩ = none := by
    intro index d text
    rw [Expr.matchAt?, Expr.outs_of_anchored hanchored rfl]
    rfl
  have hnone : ∀ (index : Nat) (d : Char) (text : Text),
      r.expr.firstMatch? index (some d) text = none := by
    intro index d text
    induction text generalizing index d with
    | nil => exact hhere index d []
    | cons c text ih => rw [Expr.firstMatch?, hhere, ih, Option.or_none]
  rw [find?, findFrom?_eq_firstMatch? hprogresses]
  cases text with
  | nil => rfl
  | cons c text => rw [Expr.firstMatch?, hnone, Option.or_none]

/-- A pattern that gets stuck in a run, and needs nothing of it, matches a text with the run at
its end if and only if it matches the text. -/
theorem isMatch_append_iff (hprogresses : r.expr.progresses) (hback : r.expr.looksBack)
    (hstuck : r.expr.stuck c) (hneeds : r.expr.needsNone c) (ht : ∀ d ∈ t, d = c) (text : Text) :
    r.isMatch (text ++ t) ↔ r.isMatch text := by
  refine ⟨fun h => ?_, fun h => isMatch_append hprogresses hback h t⟩
  obtain ⟨front, rest, hsplit, hne⟩ := (isMatch_iff hprogresses _).1 h
  rcases List.append_eq_append_iff.1 hsplit with ⟨more, -, rfl⟩ | ⟨more, rfl, rfl⟩
  · exact absurd (Expr.outs_of_stuck hstuck fun d hd => ht d (List.mem_append_right _ hd)) hne
  · refine (isMatch_iff hprogresses _).2 ⟨front, more, rfl, fun hnone => hne ?_⟩
    exact Expr.outs_extend_eq_nil (p := (Spot.inside front more).mark 0) hback hprogresses
      hneeds ht hnone

theorem Match.Spans.group?_append {base start stop : Nat} {text : Text} {marks : Marks}
    (h : (Match.mk base text marks).Spans start stop) (more : Text) (i : Nat) :
    (Match.mk base (text ++ more) marks).group? i = (Match.mk base text marks).group? i := by
  have hsame : ∀ slot, (Match.mk base (text ++ more) marks).position? slot =
      (Match.mk base text marks).position? slot := fun _ => rfl
  cases hfrom : (Match.mk base text marks).position? (2 * i) with
  | none => simp [group?, hsame, hfrom]
  | some low =>
      cases hto : (Match.mk base text marks).position? (2 * i + 1) with
      | none => simp [group?, hsame, hfrom, hto]
      | some high =>
          have hlow := h.position_between _ _ hfrom
          have hhigh := h.position_between _ _ hto
          have hbase : base ≤ start := h.base_le
          have hstop : stop ≤ base + text.length := h.stop_le
          have hdrop : low - base ≤ text.length := by omega
          have htake : high - low ≤ (text.drop (low - base)).length := by
            rw [List.length_drop]
            omega
          simp only [group?, hsame, hfrom, hto, Option.bind_eq_bind, Option.bind_some]
          rw [List.drop_append_of_le_length hdrop, List.take_append_of_le_length htake]

theorem exists_rewrites {e : Expr} (htakes : e.takesSomething) (g : Match → Text) (index : Nat)
    (before : Option Char) (text : Text) : ∃ out, Rewrites e g index before text out := by
  induction hlength : text.length using Nat.strongRecOn generalizing index before text with
  | _ n ih =>
      cases hmatch : e.matchAt? ⟨index, before, text, []⟩ with
      | some q =>
          obtain ⟨taken, hto, hne⟩ := Expr.to_of_matchAt? hmatch
          have hrest : text = taken ++ q.rest := hto.rest
          have hpos := List.length_pos_of_ne_nil (hne htakes)
          have hshorter : q.rest.length < n := by
            rw [← hlength, hrest, List.length_append]
            omega
          obtain ⟨out, hout⟩ := ih _ hshorter q.index q.before q.rest rfl
          exact ⟨_, .put hmatch hout⟩
      | none =>
          cases text with
          | nil => exact ⟨[], .stop hmatch⟩
          | cons c rest =>
              obtain ⟨out, hout⟩ :=
                ih rest.length (by simp [← hlength]) (index + 1) (some c) rest rfl
              exact ⟨_, .keep hmatch hout⟩

end PlainLink.Regex
