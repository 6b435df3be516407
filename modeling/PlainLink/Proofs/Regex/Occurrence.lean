/-
# Where a pattern occurs

A pattern matches a text if its expression leads on from some place in it.  Two
consequences for texts of which only a part is known: a pattern that asks nothing about
what follows a place still matches a text that goes on, and none matches a text with too
few of the characters that it takes.
-/
import PlainLink.Proofs.Regex.Compiled
import PlainLink.Proofs.Regex.Remainders

namespace PlainLink.Regex

def Spot.inside (front rest : Text) : Spot :=
  ⟨front.length, lastOr none front, rest, []⟩

theorem Expr.firstMatch?_isSome_iff (e : Expr) (front text : Text) :
    (e.firstMatch? front.length (lastOr none front) text).isSome ↔
      ∃ skipped rest, text = skipped ++ rest ∧
        (e.matchAt? (.inside (front ++ skipped) rest)).isSome := by
  induction text generalizing front with
  | nil => simp [firstMatch?, Spot.inside]
  | cons c text ih =>
      have hnext : lastOr none (front ++ [c]) = some c := by simp [lastOr]
      have ih := ih (front ++ [c])
      rw [hnext, List.length_append, List.length_singleton] at ih
      rw [firstMatch?, Option.isSome_or, Bool.or_eq_true, ih]
      constructor
      · rintro (hhere | ⟨skipped, rest, rfl, hlater⟩)
        · exact ⟨[], c :: text, rfl, by rwa [List.append_nil]⟩
        · exact ⟨c :: skipped, rest, rfl, by simpa using hlater⟩
      · rintro ⟨skipped, rest, htext, hmatch⟩
        cases skipped with
        | nil =>
            obtain rfl : c :: text = rest := htext
            exact .inl (by rwa [List.append_nil] at hmatch)
        | cons d skipped =>
            obtain ⟨rfl, rfl⟩ := List.cons.inj htext
            exact .inr ⟨skipped, rest, rfl, by simpa using hmatch⟩

/-- A pattern matches a text if its expression leads on from some place in it. -/
theorem isMatch_iff {r : Regex} (h : r.expr.progresses) (text : Text) :
    r.isMatch text ↔
      ∃ front rest, text = front ++ rest ∧
        r.expr.outs ((Spot.inside front rest).mark 0) ≠ [] := by
  rw [isMatch, find?, findFrom?_eq_firstMatch? h, Option.isSome_map]
  refine (Expr.firstMatch?_isSome_iff r.expr [] text).trans ?_
  simp [Expr.matchAt?, List.isSome_head?]

/-! ## Texts that go on -/

/-- The condition depends on what stands before the place only. -/
def Look.looksBack : Look → Bool
  | textStart => true
  | lineStart => true
  | noWordBefore _ => true
  | _ => false

namespace Expr

/-- The expression asks only about what stands before its places. -/
def looksBack : Expr → Bool
  | empty => true
  | set _ => true
  | look l => l.looksBack
  | group _ e => e.looksBack
  | seq a b => a.looksBack && b.looksBack
  | alt a b => a.looksBack && b.looksBack
  | rep _ _ _ e => e.looksBack

end Expr

theorem Expr.looksBack_of_lookless {e : Expr} (h : e.lookless) : e.looksBack := by
  induction e with
  | empty => rfl
  | set s => rfl
  | look l => cases h
  | group before e ih => exact ih h
  | seq a b iha ihb =>
      obtain ⟨ha, hb⟩ := Bool.and_eq_true_iff.1 h
      exact Bool.and_eq_true_iff.2 ⟨iha ha, ihb hb⟩
  | alt a b iha ihb =>
      obtain ⟨ha, hb⟩ := Bool.and_eq_true_iff.1 h
      exact Bool.and_eq_true_iff.2 ⟨iha ha, ihb hb⟩
  | rep least most greedy e ih => exact ih h

/-- The place, with more text behind. -/
def Spot.extend (t : Text) (p : Spot) : Spot :=
  { p with rest := p.rest ++ t }

theorem mem_upTo_of_le {α : Type} {f : α → List α} {greedy : Bool} {m n : Nat}
    (hle : m ≤ n) {a b : α} (h : b ∈ upTo greedy f m a) : b ∈ upTo greedy f n a := by
  induction m generalizing n a with
  | zero =>
      obtain rfl := List.mem_singleton.1 h
      exact self_mem_upTo n b
  | succ m ih =>
      obtain ⟨n, rfl⟩ := Nat.exists_eq_add_one_of_ne_zero (Nat.ne_zero_of_lt hle)
      rcases mem_upTo_succ.1 h with rfl | ⟨c, hc, hb⟩
      · exact self_mem_upTo _ _
      · exact mem_upTo_succ.2 (.inr ⟨c, hc, ih (Nat.le_of_succ_le_succ hle) hb⟩)

theorem Expr.extend_mem_outs {e : Expr} (h : e.looksBack) (t : Text) {p q : Spot}
    (hq : q ∈ e.outs p) :
    q.extend t ∈ e.outs (p.extend t) := by
  induction e generalizing p q with
  | empty => exact List.mem_singleton.1 hq ▸ List.mem_singleton.2 rfl
  | set s =>
      obtain ⟨c, rest, hrest, hc, rfl⟩ := Spot.mem_take.1 hq
      exact Spot.mem_take.2 ⟨c, rest ++ t, by simp [Spot.extend, hrest], hc, rfl⟩
  | look l =>
      obtain ⟨hl, rfl⟩ := Spot.mem_ask.1 hq
      refine Spot.mem_ask.2 ⟨?_, rfl⟩
      cases l <;> first | exact hl | cases h
  | group before e ih =>
      obtain ⟨r, hr, rfl⟩ := List.mem_map.1 hq
      exact List.mem_map.2 ⟨r.extend t, ih h hr, rfl⟩
  | seq a b iha ihb =>
      obtain ⟨ha, hb⟩ := Bool.and_eq_true_iff.1 h
      obtain ⟨r, hr, hq⟩ := List.mem_flatMap.1 hq
      exact List.mem_flatMap.2 ⟨_, iha ha hr, ihb hb hq⟩
  | alt a b iha ihb =>
      obtain ⟨ha, hb⟩ := Bool.and_eq_true_iff.1 h
      rcases List.mem_append.1 hq with hq | hq
      · exact List.mem_append_left _ (iha ha hq)
      · exact List.mem_append_right _ (ihb hb hq)
  | rep least most greedy e ih =>
      have htimes : ∀ n (p q : Spot), q ∈ times e.outs n p →
          q.extend t ∈ times e.outs n (p.extend t) := by
        intro n
        induction n with
        | zero => exact fun p q hq => List.mem_singleton.1 hq ▸ List.mem_singleton.2 rfl
        | succ n ihn =>
            intro p q hq
            obtain ⟨r, hr, hq⟩ := List.mem_flatMap.1 hq
            exact List.mem_flatMap.2 ⟨_, ih h hr, ihn r q hq⟩
      have hupTo : ∀ n (p q : Spot), q ∈ upTo greedy e.outs n p →
          q.extend t ∈ upTo greedy e.outs n (p.extend t) := by
        intro n
        induction n with
        | zero => exact fun p q hq => List.mem_singleton.1 hq ▸ List.mem_singleton.2 rfl
        | succ n ihn =>
            intro p q hq
            rcases mem_upTo_succ.1 hq with rfl | ⟨r, hr, hq⟩
            · exact mem_upTo_succ.2 (.inl rfl)
            · exact mem_upTo_succ.2 (.inr ⟨_, ih h hr, ihn r q hq⟩)
      obtain ⟨r, hr, hq⟩ := List.mem_flatMap.1 hq
      refine List.mem_flatMap.2 ⟨_, htimes least p r hr, mem_upTo_of_le ?_ (hupTo _ r q hq)⟩
      cases most with
      | some most => exact Nat.le_refl _
      | none => simp [Spot.extend]

/-- A pattern that asks only about what stands before its places matches a text that
goes on behind a match. -/
theorem isMatch_append {r : Regex} (hprogresses : r.expr.progresses) (hback : r.expr.looksBack)
    {t : Text} (h : r.isMatch t) (rest : Text) : r.isMatch (t ++ rest) := by
  obtain ⟨front, back, rfl, hne⟩ := (isMatch_iff hprogresses t).1 h
  obtain ⟨q, hq⟩ := List.exists_mem_of_ne_nil _ hne
  rw [List.append_assoc]
  exact (isMatch_iff hprogresses _).2 ⟨front, back ++ rest, rfl,
    List.ne_nil_of_mem (Expr.extend_mem_outs hback rest hq)⟩

/-! ## Characters that a match takes -/

/-- How many times an expression takes the character at least. -/
def Expr.least (c : Char) : Expr → Nat
  | empty => 0
  | set s => if s = .char c then 1 else 0
  | look _ => 0
  | group _ e => e.least c
  | seq a b => a.least c + b.least c
  | alt a b => min (a.least c) (b.least c)
  | rep n _ _ e => n * e.least c

theorem Expr.count_le {e : Expr} (c : Char) {p q : Spot} (h : q ∈ e.outs p) :
    e.least c + q.rest.count c ≤ p.rest.count c := by
  induction e generalizing p q with
  | empty => exact List.mem_singleton.1 h ▸ Nat.le_of_eq (Nat.zero_add _)
  | set s =>
      obtain ⟨d, rest, hrest, hd, rfl⟩ := Spot.mem_take.1 h
      rw [least, hrest]
      split
      · next hs =>
        obtain rfl : d = c := by simpa [hs, CharSet.test] using hd
        simp [Nat.add_comm]
      · simp [List.count_cons]
  | look l => exact (Spot.mem_ask.1 h).2 ▸ Nat.le_of_eq (Nat.zero_add _)
  | group before e ih =>
      obtain ⟨r, hr, rfl⟩ := List.mem_map.1 h
      exact ih (p := p.mark _) (q := r) hr
  | seq a b iha ihb =>
      obtain ⟨r, hr, hq⟩ := List.mem_flatMap.1 h
      have ha := iha hr
      have hb := ihb hq
      rw [least]
      omega
  | alt a b iha ihb =>
      rw [least]
      rcases List.mem_append.1 h with h | h
      · have ha := iha h
        omega
      · have hb := ihb h
        omega
  | rep n most greedy e ih =>
      have htimes : ∀ n (p q : Spot), q ∈ times e.outs n p →
          n * e.least c + q.rest.count c ≤ p.rest.count c := by
        intro n
        induction n with
        | zero =>
            intro p q hq
            obtain rfl := List.mem_singleton.1 hq
            simp
        | succ n ihn =>
            intro p q hq
            obtain ⟨r, hr, hq⟩ := List.mem_flatMap.1 hq
            have hfirst := ih hr
            have hmore := ihn r q hq
            rw [Nat.add_mul, Nat.one_mul]
            omega
      obtain ⟨r, hr, hq⟩ := List.mem_flatMap.1 h
      have hfront := htimes n p r hr
      have hback : q.rest.count c ≤ r.rest.count c :=
        rel_of_mem_upTo (R := fun p q : Spot => q.rest.count c ≤ p.rest.count c)
          (fun _ => Nat.le_refl _) (fun _ _ _ hab hbc => Nat.le_trans hbc hab)
          (fun p q hq => Nat.le_trans (Nat.le_add_left _ _) (ih hq)) hq
      rw [least]
      omega

/-- A text with too few of the characters that a pattern takes is not matched. -/
theorem isMatch_eq_false_of_count {r : Regex} (h : r.expr.progresses) {t : Text} {c : Char}
    (hcount : t.count c < r.expr.least c) : r.isMatch t = false := by
  refine Bool.eq_false_iff.2 fun hmatch => ?_
  obtain ⟨front, rest, rfl, hne⟩ := (isMatch_iff h t).1 hmatch
  obtain ⟨q, hq⟩ := List.exists_mem_of_ne_nil _ hne
  have hle : r.expr.least c + q.rest.count c ≤ rest.count c := Expr.count_le c hq
  rw [List.count_append] at hcount
  omega

end PlainLink.Regex
