/-
# Paths through a program

A row of parts leads from one place of a text to another along a path: a part either
takes a character or hands on, where it is, to other parts.  Nothing is said of
preference, and so a path may go round a repetition as often as it likes, with rounds
that take nothing among them.

Where the expression of the program leads by backtracking, a path leads as well.

Main statement: `Expr.leads_of_mem_outs`.
-/
import PlainLink.Proofs.Regex.Compiled
import PlainLink.Proofs.Regex.Grouped

namespace PlainLink.Regex

/-! ## Paths -/

/-- A row of parts leads from one place to another. -/
inductive Leads : List Node → Spot → Spot → Prop
  | done (p : Spot) : Leads [] p p
  | take {id : Nat} {s : CharSet} {rest : List Node} {p r q : Spot} :
      r ∈ p.take s → Leads rest r q → Leads (.set id s :: rest) p q
  | pass {n : Node} {rest row : List Node} {p r q : Spot} :
      (row, r) ∈ n.steps p rest → Leads row r q → Leads (n :: rest) p q

section

variable {n a b body : Node} {rest row more : List Node} {p q r : Spot}

theorem Node.steps_append (n : Node) (p : Spot) (rest more : List Node) :
    n.steps p (rest ++ more) = (n.steps p rest).map fun s => (s.1 ++ more, s.2) := by
  cases n with
  | look l => simp [steps, Function.comp_def]
  | _ => rfl

theorem leads_nil : Leads [] p q ↔ q = p := by
  constructor
  · rintro ⟨⟩
    rfl
  · rintro rfl
    exact .done q

theorem leads_append : Leads (row ++ more) p q ↔ ∃ r, Leads row p r ∧ Leads more r q := by
  constructor
  · intro h
    generalize hrow : row ++ more = whole at h
    induction h generalizing row with
    | done p =>
        obtain ⟨rfl, rfl⟩ := List.append_eq_nil_iff.1 hrow
        exact ⟨p, .done p, .done p⟩
    | @take id s rest p r q hr hrest ih =>
        cases row with
        | nil =>
            obtain rfl : more = .set id s :: rest := hrow
            exact ⟨p, .done p, .take hr hrest⟩
        | cons n row =>
            obtain ⟨rfl, rfl⟩ := List.cons.inj hrow
            obtain ⟨o, ho, hq⟩ := ih rfl
            exact ⟨o, .take hr ho, hq⟩
    | @pass n rest next p r q hr hnext ih =>
        cases row with
        | nil =>
            obtain rfl : more = n :: rest := hrow
            exact ⟨p, .done p, .pass hr hnext⟩
        | cons m row =>
            obtain ⟨rfl, rfl⟩ : m = n ∧ row ++ more = rest := List.cons.inj hrow
            rw [m.steps_append] at hr
            obtain ⟨⟨front, s⟩, hfront, hs⟩ := List.mem_map.1 hr
            obtain ⟨rfl, rfl⟩ := Prod.mk.inj hs
            obtain ⟨o, ho, hq⟩ := ih rfl
            exact ⟨o, .pass hfront ho, hq⟩
  · rintro ⟨r, hr, hq⟩
    induction hr with
    | done p => exact hq
    | take htake _ ih => exact .take htake (ih hq)
    | @pass n rest next p r q hstep _ ih =>
        have happend := n.steps_append p rest more
        exact .pass (happend ▸ List.mem_map_of_mem hstep) (ih hq)

theorem leads_cons : Leads (n :: rest) p q ↔ ∃ r, Leads [n] p r ∧ Leads rest r q := by
  rw [← leads_append]
  rfl

theorem leads_of_steps (hset : ∀ id s, n ≠ .set id s) :
    Leads (n :: rest) p q ↔ ∃ s ∈ n.steps p rest, Leads s.1 s.2 q := by
  constructor
  · intro h
    cases h with
    | take htake hrest => exact absurd rfl (hset _ _)
    | pass hstep hrow => exact ⟨_, hstep, hrow⟩
  · rintro ⟨⟨row, r⟩, hstep, hrow⟩
    exact .pass hstep hrow

theorem leads_set {id : Nat} {s : CharSet} :
    Leads (.set id s :: rest) p q ↔ ∃ r ∈ p.take s, Leads rest r q := by
  constructor
  · intro h
    cases h with
    | take htake hrest => exact ⟨_, htake, hrest⟩
    | pass hstep _ => cases hstep
  · rintro ⟨r, htake, hrest⟩
    exact .take htake hrest

theorem leads_skip : Leads (.skip :: rest) p q ↔ Leads rest p q := by
  rw [leads_of_steps (by simp)]
  simp [Node.steps]

theorem leads_look {l : Look} : Leads (.look l :: rest) p q ↔ ∃ r ∈ p.ask l, Leads rest r q := by
  rw [leads_of_steps (by simp)]
  simp [Node.steps]

theorem leads_mark {slot : Nat} : Leads (.mark slot :: rest) p q ↔
    Leads rest (p.mark slot) q := by
  rw [leads_of_steps (by simp)]
  simp [Node.steps]

theorem leads_seq : Leads (.seq a b :: rest) p q ↔ Leads (a :: b :: rest) p q := by
  rw [leads_of_steps (by simp)]
  simp [Node.steps]

theorem leads_fork {id : Nat} :
    Leads (.fork id a b :: rest) p q ↔ Leads (a :: rest) p q ∨ Leads (b :: rest) p q := by
  rw [leads_of_steps (by simp)]
  simp [Node.steps]

theorem leads_loop {id : Nat} {greedy : Bool} :
    Leads (.loop id greedy body :: rest) p q ↔
      Leads (body :: .loop id greedy body :: rest) p q ∨ Leads rest p q := by
  rw [leads_of_steps (by simp)]
  simp [Node.steps]

theorem leads_option {id : Nat} {greedy : Bool} :
    Leads (Node.option id greedy a :: rest) p q ↔ Leads (a :: rest) p q ∨ Leads rest p q := by
  cases greedy with
  | true => exact leads_fork.trans (or_congr_right leads_skip)
  | false => exact leads_fork.trans ((or_congr_left leads_skip).trans or_comm)

theorem Node.to_of_mem_steps (h : (row, r) ∈ n.steps p rest) : p.To [] r := by
  cases n with
  | set id s => cases h
  | look l =>
      obtain ⟨s, hs, heq⟩ := List.mem_map.1 h
      obtain ⟨rfl, rfl⟩ := Prod.mk.inj heq
      exact (Spot.mem_ask.1 hs).2 ▸ .refl _
  | mark slot =>
      obtain ⟨rfl, rfl⟩ := Prod.mk.inj (List.mem_singleton.1 h)
      exact ⟨rfl, rfl, rfl⟩
  | _ =>
      simp only [steps, List.mem_cons, Prod.mk.injEq, List.not_mem_nil, or_false] at h
      obtain rfl : r = p := by grind
      exact .refl r

theorem Leads.to (h : Leads row p q) : ∃ taken, p.To taken q := by
  induction h with
  | done p => exact ⟨[], .refl p⟩
  | take htake _ ih =>
      obtain ⟨c, -, hc⟩ := Spot.to_of_mem_take htake
      obtain ⟨taken, hto⟩ := ih
      exact ⟨_, hc.trans hto⟩
  | pass hstep _ ih =>
      obtain ⟨taken, hto⟩ := ih
      exact ⟨_, (Node.to_of_mem_steps hstep).trans hto⟩

end

/-! ## Paths of expressions -/

namespace Node

section

variable {part : Nat → Node × Nat} {f : Spot → List Spot}
  (hpart : ∀ next p, ∀ q ∈ f p, Leads [(part next).1] p q)

include hpart

theorem copies_leads {count next : Nat} {p q : Spot} (h : q ∈ times f count p) :
    Leads [(copies part count next).1] p q := by
  induction count generalizing next p with
  | zero =>
      obtain rfl := List.mem_singleton.1 h
      exact leads_skip.2 (.done q)
  | succ count ih =>
      obtain ⟨r, hr, hq⟩ := List.mem_flatMap.1 h
      exact leads_seq.2 (leads_cons.2 ⟨r, hpart _ _ r hr, ih hq⟩)

theorem options_leads {greedy : Bool} {count next : Nat} {p q : Spot}
    (h : q ∈ upTo greedy f count p) : Leads [(options part greedy count next).1] p q := by
  induction count generalizing next p with
  | zero =>
      obtain rfl := List.mem_singleton.1 h
      exact leads_skip.2 (.done q)
  | succ count ih =>
      refine leads_option.2 ?_
      rcases mem_upTo_succ.1 h with rfl | ⟨r, hr, hq⟩
      · exact .inr (.done q)
      · exact .inl (leads_seq.2 (leads_cons.2 ⟨r, hpart _ _ r hr, ih hq⟩))

end

theorem loop_leads {f : Spot → List Spot} {body : Node}
    (hbody : ∀ p, ∀ q ∈ f p, Leads [body] p q) {id count : Nat} {greedy : Bool} {p q : Spot}
    (h : q ∈ upTo greedy f count p) :
    Leads [.loop id greedy body] p q := by
  induction count generalizing p with
  | zero =>
      obtain rfl := List.mem_singleton.1 h
      exact leads_loop.2 (.inr (.done q))
  | succ count ih =>
      rcases mem_upTo_succ.1 h with rfl | ⟨r, hr, hq⟩
      · exact leads_loop.2 (.inr (.done q))
      · exact leads_loop.2 (.inl (leads_cons.2 ⟨r, hbody _ r hr, ih hq⟩))

theorem repetition_leads {part : Nat → Node × Nat} {f : Spot → List Spot}
    (hpart : ∀ next p, ∀ q ∈ f p, Leads [(part next).1] p q)
    {progresses greedy : Bool} {least : Nat} {most : Option Nat} {next : Nat} {p r q : Spot}
    (hr : r ∈ times f least p)
    (hq : q ∈ upTo greedy f ((most.map (· - least)).getD r.rest.length) r) :
    Leads [(repetition part progresses greedy least most next).1] p q := by
  cases most with
  | some most =>
      exact leads_seq.2 (leads_cons.2 ⟨r, copies_leads hpart hr, options_leads hpart hq⟩)
  | none =>
      cases least with
      | zero =>
          obtain rfl := List.mem_singleton.1 hr
          have hloop : Leads [.loop next greedy (part (next + 2)).1] r q :=
            loop_leads (hpart (next + 2)) hq
          cases progresses with
          | true => exact hloop
          | false =>
              -- The choice in front is to go round at least once.
              refine leads_option.2 ?_
              exact (leads_loop.1 hloop).imp_left leads_seq.2
      | succ least =>
          rw [times_succ] at hr
          obtain ⟨o, ho, hr⟩ := List.mem_flatMap.1 hr
          exact leads_seq.2 (leads_cons.2 ⟨o, copies_leads hpart ho,
            leads_seq.2 (leads_cons.2 ⟨r, hpart _ _ r hr, loop_leads (hpart _) hq⟩)⟩)

end Node

/-- The program of an expression leads to each outcome. -/
theorem Expr.leads_of_mem_outs {e : Expr} {p q : Spot} (h : q ∈ e.outs p) (next : Nat) :
    Leads [(e.compile next).1] p q := by
  induction e generalizing p q next with
  | empty => exact leads_skip.2 (leads_nil.2 (List.mem_singleton.1 h))
  | set s => exact leads_set.2 ⟨q, h, .done q⟩
  | look l => exact leads_look.2 ⟨q, h, .done q⟩
  | group before e ih =>
      obtain ⟨r, hr, rfl⟩ := List.mem_map.1 h
      refine leads_seq.2 (leads_mark.2 (leads_seq.2 (leads_cons.2 ⟨r, ih hr next, ?_⟩)))
      exact leads_mark.2 (.done _)
  | seq a b iha ihb =>
      obtain ⟨r, hr, hq⟩ := List.mem_flatMap.1 h
      exact leads_seq.2 (leads_cons.2 ⟨r, iha hr _, ihb hq _⟩)
  | alt a b iha ihb =>
      refine leads_fork.2 ?_
      rcases List.mem_append.1 h with h | h
      · exact .inl (iha h _)
      · exact .inr (ihb h _)
  | rep least most greedy e ih =>
      obtain ⟨r, hr, hq⟩ := List.mem_flatMap.1 h
      exact Node.repetition_leads (fun next p q hq => ih hq next) hr hq

/-! ## Marks on a path -/

/-- The part remembers nothing under a slot below `low`. -/
def Node.slotsFrom (low : Nat) : Node → Prop
  | skip => True
  | set _ _ => True
  | look _ => True
  | mark slot => low ≤ slot
  | seq a b => a.slotsFrom low ∧ b.slotsFrom low
  | fork _ a b => a.slotsFrom low ∧ b.slotsFrom low
  | loop _ _ body => body.slotsFrom low

/-- The groups of a part that is numbered behind others remember under slots of their own. -/
theorem Expr.compile_slotsFrom (e : Expr) (k next : Nat) :
    ((e.shift k).compile next).1.slotsFrom (2 * k + 2) := by
  induction e generalizing next with
  | empty => trivial
  | set s => trivial
  | look l => trivial
  | group before e ih =>
      refine ⟨?_, ih next, ?_⟩
      · show 2 * k + 2 ≤ 2 * (before + k) + 2
        omega
      · show 2 * k + 2 ≤ 2 * (before + k) + 3
        omega
  | seq a b iha ihb => exact ⟨iha _, ihb _⟩
  | alt a b iha ihb => exact ⟨iha _, ihb _⟩
  | rep least most greedy e ih =>
      exact Node.repetition_all trivial .intro .intro
        (fun hbody => hbody) ih _ greedy least most next

/-- What is remembered on a path stands before what was remembered already. -/
theorem Leads.marks {low : Nat} {row : List Node} {p q : Spot} (h : Leads row p q)
    (hrow : ∀ n ∈ row, n.slotsFrom low) :
    ∃ groups : Marks, q.marks = groups ++ p.marks ∧ ∀ m ∈ groups, low ≤ m.1 := by
  induction h with
  | done p => exact ⟨[], rfl, fun _ hm => absurd hm List.not_mem_nil⟩
  | @take id s rest p r q htake _ ih =>
      obtain ⟨c, text, -, -, rfl⟩ := Spot.mem_take.1 htake
      exact ih (List.forall_mem_cons.1 hrow).2
  | @pass n rest row p r q hstep _ ih =>
      obtain ⟨hn, hrest⟩ := List.forall_mem_cons.1 hrow
      cases n with
      | set id s => cases hstep
      | look l =>
          obtain ⟨s, hs, heq⟩ := List.mem_map.1 hstep
          obtain ⟨rfl, rfl⟩ := Prod.mk.inj heq
          obtain rfl := (Spot.mem_ask.1 hs).2
          exact ih hrest
      | mark slot =>
          obtain ⟨rfl, rfl⟩ := Prod.mk.inj (List.mem_singleton.1 hstep)
          obtain ⟨groups, hmarks, hgroups⟩ := ih hrest
          refine ⟨groups ++ [(slot, p.index)], by simp [hmarks, Spot.mark], fun m hm => ?_⟩
          rcases List.mem_append.1 hm with hm | hm
          · exact hgroups m hm
          · exact List.mem_singleton.1 hm ▸ hn
      | _ =>
          simp only [Node.steps, List.mem_cons, Prod.mk.injEq, List.not_mem_nil,
            or_false] at hstep
          simp only [Node.slotsFrom] at hn
          grind

/-! ## Alive rows -/

/-- Some path leads through the row. -/
def Lives (row : List Node) (p : Spot) : Prop :=
  ∃ q, Leads row p q

/-- The places have the same text around them. -/
def Spot.Alike (p p' : Spot) : Prop :=
  p.before = p'.before ∧ p.rest = p'.rest

section

variable {n : Node} {rest row : List Node} {p p' r : Spot}

theorem Spot.Alike.take (h : p.Alike p') {s : CharSet} (hr : r ∈ p.take s) :
    ∃ r' ∈ p'.take s, r.Alike r' := by
  obtain ⟨c, text, hrest, hc, rfl⟩ := Spot.mem_take.1 hr
  exact ⟨_, Spot.mem_take.2 ⟨c, text, h.2 ▸ hrest, hc, rfl⟩, rfl, rfl⟩

theorem Spot.Alike.steps (h : p.Alike p') (hr : (row, r) ∈ n.steps p rest) :
    ∃ r', (row, r') ∈ n.steps p' rest ∧ r.Alike r' := by
  cases n with
  | set id s => cases hr
  | look l =>
      obtain ⟨s, hs, heq⟩ := List.mem_map.1 hr
      obtain ⟨rfl, rfl⟩ := Prod.mk.inj heq
      obtain ⟨hholds, rfl⟩ := Spot.mem_ask.1 hs
      rw [h.1, h.2] at hholds
      exact ⟨p', List.mem_map_of_mem (Spot.mem_ask.2 ⟨hholds, rfl⟩), h⟩
  | mark slot =>
      obtain ⟨rfl, rfl⟩ := Prod.mk.inj (List.mem_singleton.1 hr)
      exact ⟨p'.mark slot, List.mem_singleton.2 rfl, h⟩
  | _ =>
      simp only [Node.steps, List.mem_cons, Prod.mk.injEq, List.not_mem_nil, or_false] at hr ⊢
      grind

theorem Lives.of_alike (h : Lives row p) (hp : p.Alike p') : Lives row p' := by
  obtain ⟨q, hq⟩ := h
  induction hq generalizing p' with
  | done p => exact ⟨p', .done p'⟩
  | take htake _ ih =>
      obtain ⟨r', hr', halike⟩ := hp.take htake
      obtain ⟨q', hq'⟩ := ih halike
      exact ⟨q', .take hr' hq'⟩
  | pass hstep _ ih =>
      obtain ⟨r', hr', halike⟩ := hp.steps hstep
      obtain ⟨q', hq'⟩ := ih halike
      exact ⟨q', .pass hr' hq'⟩

end

end PlainLink.Regex
