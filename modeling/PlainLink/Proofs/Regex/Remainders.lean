/-
# Remainders

An expression that asks nothing about its place leads on by the text alone.  What it may
leave of a text, the preferred remainder first, is then all there is to say about its
outcomes; and where it takes no character of some kind, a text behind such a character
has no say in it.

This is how the names of field rules are treated: they take no separator, so that what
they leave of a list is known from the segment in front.
-/
import PlainLink.Proofs.Regex.Outcomes

namespace PlainLink.Regex

namespace Expr

/-- The expression asks nothing about its place. -/
def lookless : Expr → Bool
  | empty => true
  | set _ => true
  | look _ => false
  | group _ e => e.lookless
  | seq a b => a.lookless && b.lookless
  | alt a b => a.lookless && b.lookless
  | rep _ _ _ e => e.lookless

/-- The expression never takes the character. -/
def avoids (c : Char) : Expr → Bool
  | empty => true
  | set s => !s.test c
  | look _ => true
  | group _ e => e.avoids c
  | seq a b => a.avoids c && b.avoids c
  | alt a b => a.avoids c && b.avoids c
  | rep _ _ _ e => e.avoids c

end Expr

/-- What is left of a text behind a character of the set. -/
def CharSet.rests (s : CharSet) : Text → List Text
  | [] => []
  | c :: rest => if s.test c then [rest] else []

namespace Expr

/-- What an expression may leave of a text, the preferred remainder first. -/
def rests : Expr → Text → List Text
  | empty, t => [t]
  | set s, t => s.rests t
  | look _, t => [t]
  | group _ e, t => e.rests t
  | seq a b, t => (a.rests t).flatMap b.rests
  | alt a b, t => a.rests t ++ b.rests t
  | rep least most greedy e, t =>
    (times e.rests least t).flatMap fun u =>
      upTo greedy e.rests ((most.map (· - least)).getD u.length) u

variable {e : Expr}

theorem map_rest_outs (he : e.lookless) (p : Spot) :
    (e.outs p).map (·.rest) = e.rests p.rest := by
  induction e generalizing p with
  | empty => rfl
  | set s =>
      obtain ⟨index, before, rest, marks⟩ := p
      cases rest with
      | nil => rfl
      | cons c rest =>
          by_cases hc : s.test c = true
          · simp [outs, rests, CharSet.rests, Spot.take, hc]
          · simp [outs, rests, CharSet.rests, Spot.take, hc]
  | look l => cases he
  | group before e ih =>
      rw [outs, List.map_map, rests]
      exact ih he (p.mark _)
  | seq a b iha ihb =>
      obtain ⟨ha, hb⟩ := Bool.and_eq_true_iff.1 he
      rw [outs, rests, List.map_flatMap, ← iha ha, List.flatMap_map]
      exact List.flatMap_congr fun q _ => ihb hb q
  | alt a b iha ihb =>
      obtain ⟨ha, hb⟩ := Bool.and_eq_true_iff.1 he
      rw [outs, rests, List.map_append, iha ha, ihb hb]
  | rep least most greedy e ih =>
      rw [outs, rests, List.map_flatMap, ← map_times (ih he), List.flatMap_map]
      exact List.flatMap_congr fun q _ => map_upTo (ih he) _ q

theorem marks_of_mem_outs (he : e.lastGroup = 0) {p q : Spot} (h : q ∈ e.outs p) :
    q.marks = p.marks := by
  induction e generalizing p q with
  | empty => exact List.mem_singleton.1 h ▸ rfl
  | set s =>
      obtain ⟨c, rest, -, -, rfl⟩ := Spot.mem_take.1 h
      rfl
  | look l => exact (Spot.mem_ask.1 h).2 ▸ rfl
  | group before e ih => exact absurd he (by simp [lastGroup])
  | seq a b iha ihb =>
      obtain ⟨ha, hb⟩ := Nat.max_eq_zero_iff.1 he
      obtain ⟨r, hr, hq⟩ := List.mem_flatMap.1 h
      exact (ihb hb hq).trans (iha ha hr)
  | alt a b iha ihb =>
      obtain ⟨ha, hb⟩ := Nat.max_eq_zero_iff.1 he
      rcases List.mem_append.1 h with h | h
      · exact iha ha h
      · exact ihb hb h
  | rep least most greedy e ih =>
      obtain ⟨r, hr, hq⟩ := List.mem_flatMap.1 h
      have htrans : ∀ p q r : Spot, q.marks = p.marks → r.marks = q.marks → r.marks = p.marks :=
        fun _ _ _ hq hr => hr.trans hq
      exact htrans _ _ _
        (rel_of_mem_times (R := fun p q : Spot => q.marks = p.marks) (fun _ => rfl) htrans
          (fun _ _ => ih he) hr)
        (rel_of_mem_upTo (R := fun p q : Spot => q.marks = p.marks) (fun _ => rfl) htrans
          (fun _ _ => ih he) hq)

theorem length_lt_of_mem_rests (he : e.lookless) (htakes : e.takesSomething) {t u : Text}
    (h : u ∈ e.rests t) : u.length < t.length := by
  have houts := map_rest_outs he ⟨0, none, t, []⟩
  rw [← houts] at h
  obtain ⟨q, hq, rfl⟩ := List.mem_map.1 h
  exact length_lt_of_mem_outs htakes hq

theorem suffix_of_mem_rests (he : e.lookless) {t u : Text} (h : u ∈ e.rests t) : u <:+ t := by
  have houts := map_rest_outs he ⟨0, none, t, []⟩
  rw [← houts] at h
  obtain ⟨q, hq, rfl⟩ := List.mem_map.1 h
  obtain ⟨taken, hto⟩ := outs_to hq
  exact ⟨taken, hto.rest.symm⟩

/-- A text behind a character that the expression avoids has no say in what it takes before. -/
theorem rests_append (he : e.lookless) (hprogresses : e.progresses) {c : Char} (hc : e.avoids c)
    (t rest : Text) : e.rests (t ++ c :: rest) = (e.rests t).map (· ++ c :: rest) := by
  induction e generalizing t with
  | empty => rfl
  | set s =>
      cases t with
      | nil => simpa [rests, CharSet.rests, avoids] using hc
      | cons d t =>
          by_cases hd : s.test d = true
          · simp [rests, CharSet.rests, hd]
          · simp [rests, CharSet.rests, hd]
  | look l => cases he
  | group before e ih => exact ih he hprogresses hc t
  | seq a b iha ihb =>
      obtain ⟨ha, hb⟩ := Bool.and_eq_true_iff.1 he
      obtain ⟨hpa, hpb⟩ := Bool.and_eq_true_iff.1 hprogresses
      obtain ⟨hca, hcb⟩ := Bool.and_eq_true_iff.1 hc
      rw [rests, rests, iha ha hpa hca, List.flatMap_map, List.map_flatMap]
      exact List.flatMap_congr fun u _ => ihb hb hpb hcb u
  | alt a b iha ihb =>
      obtain ⟨ha, hb⟩ := Bool.and_eq_true_iff.1 he
      obtain ⟨hpa, hpb⟩ := Bool.and_eq_true_iff.1 hprogresses
      obtain ⟨hca, hcb⟩ := Bool.and_eq_true_iff.1 hc
      rw [rests, rests, iha ha hpa hca, ihb hb hpb hcb, List.map_append]
  | rep least most greedy e ih =>
      obtain ⟨hp, hround⟩ := Bool.and_eq_true_iff.1 hprogresses
      have hstep : ∀ t, (e.rests t).map (· ++ c :: rest) = e.rests (t ++ c :: rest) :=
        fun t => (ih he hp hc t).symm
      rw [rests, rests, List.map_flatMap, ← map_times hstep, List.flatMap_map]
      refine List.flatMap_congr fun u _ => ?_
      rw [← map_upTo hstep]
      cases most with
      | some most => rfl
      | none =>
          have htakes : e.takesSomething := by simpa using hround
          have hshorter : ∀ t, ∀ u ∈ e.rests t, u.length < t.length :=
            fun _ _ => length_lt_of_mem_rests (e := e) he htakes
          have hlength : u.length ≤ (u ++ c :: rest).length := by simp
          exact congrArg _ (upTo_eq_upTo hshorter hlength (Nat.le_refl _))

theorem rests_nil (he : e.lookless) (htakes : e.takesSomething) : e.rests [] = [] :=
  List.eq_nil_iff_forall_not_mem.2 fun _ hu =>
    Nat.not_lt_zero _ (length_lt_of_mem_rests he htakes hu)

/-- Nothing is taken of a text that begins with a character that the expression avoids. -/
theorem rests_of_avoids (he : e.lookless) (hprogresses : e.progresses)
    (htakes : e.takesSomething) {c : Char} (hc : e.avoids c) (rest : Text) :
    e.rests (c :: rest) = [] := by
  have happend := rests_append he hprogresses hc [] rest
  rwa [rests_nil he htakes, List.nil_append] at happend

theorem head?_rests_of_set (s : CharSet) (t : Text) :
    ((rep 0 none true (set s)).rests t).head? = some (t.dropWhile s.test) := by
  have hgreedy :
      ∀ n, t.length ≤ n → (upTo true s.rests n t).head? = some (t.dropWhile s.test) := by
    intro n hn
    induction t generalizing n with
    | nil => rw [upTo_of_stuck rfl]; rfl
    | cons c t ih =>
        obtain ⟨n, rfl⟩ := Nat.exists_eq_add_one_of_ne_zero (Nat.ne_zero_of_lt hn)
        by_cases hc : s.test c = true
        · simp [upTo, CharSet.rests, hc, ih n (Nat.le_of_succ_le_succ hn)]
        · simp [upTo, CharSet.rests, hc]
  simpa [rests, times] using hgreedy t.length (Nat.le_refl _)

end Expr

end PlainLink.Regex
