/-
# Outcomes

What an expression can take from a place on: the places behind it, the preferred ones
first.  This is the meaning of an expression by backtracking, without programs, ways or
numbered places; that a search finds the first outcome is shown of it elsewhere.

    seq a b    the outcomes of `b` behind each outcome of `a`
    alt a b    the outcomes of `a`, then those of `b`
    rep        the outcomes of so many rounds, more or fewer of them first

An unbounded repetition is given as many rounds as there are characters left, which are
enough where each round takes one (`progresses`).  Of an expression with rounds that may
take nothing the outcomes are not what a search would find, and nothing is said of them.
-/
import Mathlib.Data.List.Basic
import PlainLink.Regex.Match

namespace PlainLink.Regex

/-! ## Repeated steps -/

section

variable {α β : Type} {f : α → List α} {g : β → List β} {greedy : Bool}

/-- The outcomes of a step that is made the given number of times. -/
def times (f : α → List α) : Nat → α → List α
  | 0, a => [a]
  | n + 1, a => (f a).flatMap (times f n)

/-- The outcomes of a step that is made at most the given number of times, more being
preferred if `greedy`. -/
def upTo (greedy : Bool) (f : α → List α) : Nat → α → List α
  | 0, a => [a]
  | n + 1, a =>
    if greedy then (f a).flatMap (upTo greedy f n) ++ [a]
    else a :: (f a).flatMap (upTo greedy f n)

theorem times_succ (f : α → List α) (n : Nat) (a : α) :
    times f (n + 1) a = (times f n a).flatMap f := by
  induction n generalizing a with
  | zero => simp [times]
  | succ n ih =>
      rw [times, List.flatMap_congr fun b _ => ih b, ← List.flatMap_assoc]
      rfl

/-- What is true of each step and of steps one after the other is true of repeated steps. -/
theorem rel_of_mem_times {R : α → α → Prop} (hrefl : ∀ a, R a a)
    (htrans : ∀ a b c, R a b → R b c → R a c) (hf : ∀ a, ∀ b ∈ f a, R a b) {n : Nat} {a b : α}
    (h : b ∈ times f n a) : R a b := by
  induction n generalizing a with
  | zero => exact List.mem_singleton.1 h ▸ hrefl a
  | succ n ih =>
      obtain ⟨c, hc, hb⟩ := List.mem_flatMap.1 h
      exact htrans _ _ _ (hf a c hc) (ih hb)

theorem mem_upTo_succ {n : Nat} {a b : α} :
    b ∈ upTo greedy f (n + 1) a ↔ b = a ∨ ∃ c ∈ f a, b ∈ upTo greedy f n c := by
  cases greedy with
  | true => simp [upTo, or_comm]
  | false => simp [upTo]

theorem self_mem_upTo (n : Nat) (a : α) : a ∈ upTo greedy f n a := by
  cases n with
  | zero => exact List.mem_singleton.2 rfl
  | succ n => exact mem_upTo_succ.2 (.inl rfl)

theorem rel_of_mem_upTo {R : α → α → Prop} (hrefl : ∀ a, R a a)
    (htrans : ∀ a b c, R a b → R b c → R a c) (hf : ∀ a, ∀ b ∈ f a, R a b) {n : Nat} {a b : α}
    (h : b ∈ upTo greedy f n a) : R a b := by
  induction n generalizing a with
  | zero => exact List.mem_singleton.1 h ▸ hrefl a
  | succ n ih =>
      rcases mem_upTo_succ.1 h with rfl | ⟨c, hc, hb⟩
      · exact hrefl b
      · exact htrans _ _ _ (hf a c hc) (ih hb)

theorem map_times {h : α → β} (hstep : ∀ a, (f a).map h = g (h a)) (n : Nat) (a : α) :
    (times f n a).map h = times g n (h a) := by
  induction n generalizing a with
  | zero => rfl
  | succ n ih =>
      rw [times, times, List.map_flatMap, ← hstep, List.flatMap_map]
      exact List.flatMap_congr fun b _ => ih b

theorem map_upTo {h : α → β} (hstep : ∀ a, (f a).map h = g (h a)) (n : Nat) (a : α) :
    (upTo greedy f n a).map h = upTo greedy g n (h a) := by
  induction n generalizing a with
  | zero => rfl
  | succ n ih =>
      have hmore : ((f a).flatMap (upTo greedy f n)).map h =
          (g (h a)).flatMap (upTo greedy g n) := by
        rw [List.map_flatMap, ← hstep, List.flatMap_map]
        exact List.flatMap_congr fun b _ => ih b
      cases greedy with
      | true => simp [upTo, ← hmore]
      | false => simp [upTo, ← hmore]

theorem upTo_of_stuck {a : α} (h : f a = []) (n : Nat) : upTo greedy f n a = [a] := by
  cases n with
  | zero => rfl
  | succ n => simp [upTo, h]

/-- Where each step makes the rest smaller, there are no more steps than the rest is large. -/
theorem upTo_eq_upTo {size : α → Nat} (hf : ∀ a, ∀ b ∈ f a, size b < size a) {m n : Nat} {a : α}
    (hm : size a ≤ m) (hn : size a ≤ n) : upTo greedy f m a = upTo greedy f n a := by
  have hstuck : ∀ a, size a = 0 → f a = [] := fun a hzero =>
    List.eq_nil_iff_forall_not_mem.2 fun b hb => Nat.not_lt_zero _ (hzero ▸ hf a b hb)
  induction m generalizing n a with
  | zero =>
      have hnone := hstuck a (Nat.le_zero.1 hm)
      rw [upTo_of_stuck hnone, upTo_of_stuck hnone]
  | succ m ih =>
      cases n with
      | zero =>
          have hnone := hstuck a (Nat.le_zero.1 hn)
          rw [upTo_of_stuck hnone, upTo_of_stuck hnone]
      | succ n =>
          have hmore : (f a).flatMap (upTo greedy f m) = (f a).flatMap (upTo greedy f n) := by
            refine List.flatMap_congr fun b hb => ?_
            have hlt := hf a b hb
            exact ih (by omega) (by omega)
          rw [upTo, upTo, hmore]

end

/-! ## Places -/

/-- A place in a text, and what was remembered on the way to it. -/
structure Spot where
  index : Nat
  before : Option Char
  rest : Text
  marks : Marks

namespace Spot

/-- Remembers the place under a slot. -/
def mark (p : Spot) (slot : Nat) : Spot :=
  { p with marks := (slot, p.index) :: p.marks }

def take (s : CharSet) (p : Spot) : List Spot :=
  match p.rest with
  | [] => []
  | c :: rest => if s.test c then [⟨p.index + 1, some c, rest, p.marks⟩] else []

def ask (l : Look) (p : Spot) : List Spot :=
  if l.holds p.before p.rest.head? then [p] else []

/-- The place with more remembered before everything else. -/
def under (old : Marks) (p : Spot) : Spot :=
  { p with marks := p.marks ++ old }

/-- The text `taken` leads from one place to another. -/
structure To (p : Spot) (taken : Text) (q : Spot) : Prop where
  rest : p.rest = taken ++ q.rest
  index : q.index = p.index + taken.length
  before : q.before = lastOr p.before taken

end Spot

/-! ## Outcomes of an expression -/

/-- The places to which an expression leads, the preferred ones first. -/
def Expr.outs : Expr → Spot → List Spot
  | empty, p => [p]
  | set s, p => p.take s
  | look l, p => p.ask l
  | group before e, p => (e.outs (p.mark (2 * before + 2))).map (·.mark (2 * before + 3))
  | seq a b, p => (a.outs p).flatMap b.outs
  | alt a b, p => a.outs p ++ b.outs p
  | rep least most greedy e, p =>
    (times e.outs least p).flatMap fun q =>
      upTo greedy e.outs ((most.map (· - least)).getD q.rest.length) q

theorem lastOr_cons (b : Option Char) (c : Char) (t : Text) :
    lastOr b (c :: t) = lastOr (some c) t := by
  rw [lastOr, lastOr, List.getLast?_cons]
  cases t.getLast? <;> rfl

theorem exists_lastOr_some (c : Char) (t : Text) : ∃ d, lastOr (some c) t = some d := by
  rw [lastOr]
  cases t.getLast? with
  | none => exact ⟨c, rfl⟩
  | some d => exact ⟨d, rfl⟩

theorem lastOr_append (c : Option Char) (s t : Text) :
    lastOr c (s ++ t) = lastOr (lastOr c s) t := by
  simp [lastOr, List.getLast?_append, Option.or_assoc]

namespace Spot

variable {p q r : Spot} {s t : Text}

theorem To.refl (p : Spot) : p.To [] p :=
  ⟨rfl, rfl, rfl⟩

theorem To.trans (h : p.To s q) (h' : q.To t r) : p.To (s ++ t) r := by
  refine ⟨?_, ?_, ?_⟩
  · rw [h.rest, h'.rest, List.append_assoc]
  · rw [h'.index, h.index, List.length_append, Nat.add_assoc]
  · rw [h'.before, h.before, lastOr_append]

theorem To.of_cons {index : Nat} {before : Option Char} {c : Char} {marks : Marks}
    (h : (Spot.mk index before s marks).To (c :: t) q) :
    ∃ rest, s = c :: rest ∧ (Spot.mk (index + 1) (some c) rest marks).To t q := by
  have hrest : s = c :: (t ++ q.rest) := h.rest
  have hindex : q.index = index + (t.length + 1) := h.index
  refine ⟨t ++ q.rest, hrest, rfl, ?_, h.before.trans (lastOr_cons before c t)⟩
  show q.index = index + 1 + t.length
  omega

theorem mem_take {cs : CharSet} :
    q ∈ p.take cs ↔ ∃ c rest, p.rest = c :: rest ∧ cs.test c ∧
      q = ⟨p.index + 1, some c, rest, p.marks⟩ := by
  unfold take
  cases hrest : p.rest with
  | nil => simp
  | cons c rest =>
      by_cases hc : cs.test c = true
      · simp [hc, and_assoc]
      · simp [hc, and_assoc]

theorem to_of_mem_take {cs : CharSet} (h : q ∈ p.take cs) : ∃ c, cs.test c ∧ p.To [c] q := by
  obtain ⟨c, rest, hrest, hc, rfl⟩ := mem_take.1 h
  exact ⟨c, hc, hrest, rfl, rfl⟩

theorem mem_ask {l : Look} : q ∈ p.ask l ↔ l.holds p.before p.rest.head? ∧ q = p := by
  unfold ask
  split
  · next h => simp [h]
  · next h => simp [h]

end Spot

namespace Expr

variable {e : Expr} {p q : Spot}

theorem outs_to (h : q ∈ e.outs p) : ∃ taken, p.To taken q := by
  have hrefl : ∀ p : Spot, ∃ taken, p.To taken p := fun p => ⟨[], .refl p⟩
  have htrans : ∀ p q r : Spot, (∃ taken, p.To taken q) → (∃ taken, q.To taken r) →
      ∃ taken, p.To taken r := fun _ _ _ ⟨s, hs⟩ ⟨t, ht⟩ => ⟨s ++ t, hs.trans ht⟩
  induction e generalizing p q with
  | empty => exact List.mem_singleton.1 h ▸ hrefl _
  | set s =>
      obtain ⟨c, -, hto⟩ := Spot.to_of_mem_take h
      exact ⟨[c], hto⟩
  | look l => exact (Spot.mem_ask.1 h).2 ▸ hrefl _
  | group before e ih =>
      obtain ⟨r, hr, rfl⟩ := List.mem_map.1 h
      obtain ⟨taken, hto⟩ := ih hr
      exact ⟨taken, hto.rest, hto.index, hto.before⟩
  | seq a b iha ihb =>
      obtain ⟨r, hr, hq⟩ := List.mem_flatMap.1 h
      exact htrans _ _ _ (iha hr) (ihb hq)
  | alt a b iha ihb =>
      rcases List.mem_append.1 h with h | h
      · exact iha h
      · exact ihb h
  | rep least most greedy e ih =>
      obtain ⟨r, hr, hq⟩ := List.mem_flatMap.1 h
      exact htrans _ _ _ (rel_of_mem_times hrefl htrans (fun _ _ => ih) hr)
        (rel_of_mem_upTo hrefl htrans (fun _ _ => ih) hq)

theorem length_le_of_mem_outs (h : q ∈ e.outs p) : q.rest.length ≤ p.rest.length := by
  obtain ⟨taken, hto⟩ := outs_to h
  rw [hto.rest, List.length_append]
  omega

theorem length_lt_of_mem_outs (he : e.takesSomething) (h : q ∈ e.outs p) :
    q.rest.length < p.rest.length := by
  induction e generalizing p q with
  | empty => cases he
  | set s =>
      obtain ⟨c, -, hto⟩ := Spot.to_of_mem_take h
      rw [hto.rest]
      exact Nat.lt_succ_self _
  | look l => cases he
  | group before e ih =>
      obtain ⟨r, hr, rfl⟩ := List.mem_map.1 h
      exact ih (p := p.mark _) (q := r) he hr
  | seq a b iha ihb =>
      obtain ⟨r, hr, hq⟩ := List.mem_flatMap.1 h
      rcases Bool.or_eq_true_iff.1 he with ha | hb
      · exact Nat.lt_of_le_of_lt (length_le_of_mem_outs hq) (iha ha hr)
      · exact Nat.lt_of_lt_of_le (ihb hb hq) (length_le_of_mem_outs hr)
  | alt a b iha ihb =>
      obtain ⟨ha, hb⟩ := Bool.and_eq_true_iff.1 he
      rcases List.mem_append.1 h with h | h
      · exact iha ha h
      · exact ihb hb h
  | rep least most greedy e ih =>
      obtain ⟨hleast, he⟩ := Bool.and_eq_true_iff.1 he
      obtain ⟨r, hr, hq⟩ := List.mem_flatMap.1 h
      have hle : ∀ p q : Spot, q ∈ e.outs p → q.rest.length ≤ p.rest.length :=
        fun _ _ => length_le_of_mem_outs
      have hback : q.rest.length ≤ r.rest.length :=
        rel_of_mem_upTo (R := fun p q : Spot => q.rest.length ≤ p.rest.length)
          (fun _ => Nat.le_refl _)
          (fun _ _ _ hab hbc => Nat.le_trans hbc hab) hle hq
      obtain ⟨least, rfl⟩ :=
        Nat.exists_eq_succ_of_ne_zero (Nat.ne_of_gt (of_decide_eq_true hleast))
      obtain ⟨s, hs, hr⟩ := List.mem_flatMap.1 hr
      have hfront : r.rest.length ≤ s.rest.length :=
        rel_of_mem_times (R := fun p q : Spot => q.rest.length ≤ p.rest.length)
          (fun _ => Nat.le_refl _)
          (fun _ _ _ hab hbc => Nat.le_trans hbc hab) hle hr
      have hfirst := ih he hs
      omega

/-- Each part that may be repeated without end takes something in each round. -/
def progresses : Expr → Bool
  | empty => true
  | set _ => true
  | look _ => true
  | group _ e => e.progresses
  | seq a b => a.progresses && b.progresses
  | alt a b => a.progresses && b.progresses
  | rep _ most _ e => e.progresses && (most.isSome || e.takesSomething)

end Expr

end PlainLink.Regex
