/-
# Texts that are taken in full

For an expression that asks nothing about its place, the remainders of a text are those
that a path through its program can leave.  A path may go round a repetition without
taking anything, as often as it likes, and the remainders know no such rounds; but they
are rounds that might as well be left out.

So there is an empty remainder exactly if the search finds a match when it is made to go
from the beginning of the text to its end.  That ties the remainders, which are a matter
of the theory, to what the library itself computes: `inFull` is the pattern that a
caller would write to ask the question.

Main statements: `Expr.mem_rests_iff`, `isMatch_inFull`.
-/
import Mathlib.Logic.Relation
import PlainLink.Proofs.Regex.Leftmost
import PlainLink.Proofs.Regex.Remainders

namespace PlainLink.Regex

/-! ## Rounds -/

section

variable {body : Node} {front : List Node} {p q : Spot}

theorem exists_rounds {id : Nat} {greedy : Bool}
    (h : Leads (front ++ [.loop id greedy body]) p q) :
    ∃ r, Leads front p r ∧ Relation.ReflTransGen (Leads [body]) r q := by
  -- On the path: it goes through `front` first, and only then comes to the repetition.
  generalize hrow : front ++ [Node.loop id greedy body] = row at h
  induction h generalizing front with
  | done p => exact absurd hrow (List.append_ne_nil_of_right_ne_nil _ (List.cons_ne_nil _ _))
  | take htake _ ih =>
      cases front with
      | nil => cases hrow
      | cons n front =>
          obtain ⟨rfl, rfl⟩ := List.cons.inj hrow
          obtain ⟨o, ho, hq⟩ := ih rfl
          exact ⟨o, .take htake ho, hq⟩
  | @pass n rest row p r q hstep hpath ih =>
      cases front with
      | nil =>
          obtain ⟨rfl, rfl⟩ := List.cons.inj hrow
          simp only [Node.steps, List.mem_cons, Prod.mk.injEq, List.not_mem_nil,
            or_false] at hstep
          rcases hstep with ⟨rfl, rfl⟩ | ⟨rfl, rfl⟩
          · obtain ⟨o, ho, hq⟩ := ih (show [body] ++ [_] = _ from rfl)
            exact ⟨r, .done r, .head ho hq⟩
          · obtain rfl := leads_nil.1 hpath
            exact ⟨q, .done q, .refl⟩
      | cons m front =>
          obtain ⟨rfl, rfl⟩ :=
            List.cons.inj (show m :: (front ++ [.loop id greedy body]) = _ from hrow)
          rw [m.steps_append] at hstep
          obtain ⟨⟨next, s⟩, hnext, hs⟩ := List.mem_map.1 hstep
          obtain ⟨rfl, rfl⟩ := Prod.mk.inj hs
          obtain ⟨o, ho, hq⟩ := ih rfl
          exact ⟨o, .pass hnext ho, hq⟩

/-- The rounds that take nothing are left out, and no more are left than the
text has characters. -/
theorem mem_upTo_of_rounds {g : Text → List Text}
    (hbody : ∀ p q, Leads [body] p q → q.rest ∈ g p.rest) {greedy : Bool}
    (h : Relation.ReflTransGen (Leads [body]) p q) {n : Nat} (hn : p.rest.length ≤ n) :
    q.rest ∈ upTo greedy g n p.rest := by
  -- On the rounds: one that takes nothing leaves the text, and with it the bound, as it is.
  induction h using Relation.ReflTransGen.head_induction_on generalizing n with
  | refl => exact self_mem_upTo _ _
  | @head p r hround _ ih =>
      obtain ⟨taken, hto⟩ := hround.to
      have hrest := hto.rest
      cases taken with
      | nil =>
          have hsame : p.rest = r.rest := hrest
          rw [hsame]
          exact ih (hsame ▸ hn)
      | cons c taken =>
          have hshorter : r.rest.length < p.rest.length := by
            rw [hrest, List.length_append, List.length_cons]
            omega
          obtain ⟨n, rfl⟩ := Nat.exists_eq_add_one_of_ne_zero (show n ≠ 0 by omega)
          exact mem_upTo_succ.2 (.inr ⟨r.rest, hbody p r hround, ih (by omega)⟩)

end

/-! ## Remainders along paths -/

namespace Node

section

variable {part : Nat → Node × Nat} {g : Text → List Text}
  (hpart : ∀ next p q, Leads [(part next).1] p q → q.rest ∈ g p.rest)

include hpart

theorem mem_times_of_copies {count next : Nat} {p q : Spot}
    (h : Leads [(copies part count next).1] p q) : q.rest ∈ times g count p.rest := by
  induction count generalizing next p with
  | zero =>
      obtain rfl := leads_nil.1 (leads_skip.1 h)
      exact List.mem_singleton.2 rfl
  | succ count ih =>
      obtain ⟨r, hr, hq⟩ := leads_cons.1 (leads_seq.1 h)
      exact List.mem_flatMap.2 ⟨r.rest, hpart _ _ _ hr, ih hq⟩

theorem mem_upTo_of_options {greedy : Bool} {count next : Nat} {p q : Spot}
    (h : Leads [(options part greedy count next).1] p q) :
    q.rest ∈ upTo greedy g count p.rest := by
  induction count generalizing next p with
  | zero =>
      obtain rfl := leads_nil.1 (leads_skip.1 h)
      exact List.mem_singleton.2 rfl
  | succ count ih =>
      rcases leads_option.1 h with h | h
      · obtain ⟨r, hr, hq⟩ := leads_cons.1 (leads_seq.1 h)
        exact mem_upTo_succ.2 (.inr ⟨r.rest, hpart _ _ _ hr, ih hq⟩)
      · obtain rfl := leads_nil.1 h
        exact self_mem_upTo _ _

theorem mem_rests_of_repetition {progresses greedy : Bool} {least : Nat} {most : Option Nat}
    {next : Nat} {p q : Spot}
    (h : Leads [(repetition part progresses greedy least most next).1] p q) :
    ∃ t ∈ times g least p.rest,
      q.rest ∈ upTo greedy g ((most.map (· - least)).getD t.length) t := by
  have hrounds {next id : Nat} {greedy : Bool} (front : List Node) {p : Spot}
      (h : Leads (front ++ [.loop id greedy (part next).1]) p q) :
      ∃ r, Leads front p r ∧ q.rest ∈ upTo greedy g r.rest.length r.rest := by
    obtain ⟨r, hr, hq⟩ := exists_rounds h
    exact ⟨r, hr, mem_upTo_of_rounds (hpart next) hq (Nat.le_refl _)⟩
  cases most with
  | some most =>
      obtain ⟨r, hr, hq⟩ := leads_cons.1 (leads_seq.1 h)
      exact ⟨r.rest, mem_times_of_copies hpart hr, mem_upTo_of_options hpart hq⟩
  | none =>
      cases least with
      | zero =>
          refine ⟨p.rest, List.mem_singleton.2 rfl, ?_⟩
          have hloop : Leads [.loop next greedy (part (next + 2)).1] p q := by
            cases progresses with
            | true => exact h
            | false => exact leads_loop.2 ((leads_option.1 h).imp_left leads_seq.1)
          obtain ⟨r, hr, hq⟩ := hrounds [] hloop
          obtain rfl := leads_nil.1 hr
          exact hq
      | succ least =>
          obtain ⟨o, ho, h⟩ := leads_cons.1 (leads_seq.1 h)
          obtain ⟨r, hr, hq⟩ := hrounds [_] (leads_seq.1 h)
          refine ⟨r.rest, ?_, hq⟩
          rw [times_succ]
          exact List.mem_flatMap.2 ⟨o.rest, mem_times_of_copies hpart ho, hpart _ _ _ hr⟩

end

end Node

namespace Expr

variable {e : Expr}

theorem mem_rests_of_leads (he : e.lookless) {next : Nat} {p q : Spot}
    (h : Leads [(e.compile next).1] p q) : q.rest ∈ e.rests p.rest := by
  induction e generalizing next p q with
  | empty =>
      obtain rfl := leads_nil.1 (leads_skip.1 h)
      exact List.mem_singleton.2 rfl
  | set s =>
      obtain ⟨r, hr, hq⟩ := leads_set.1 h
      obtain rfl := leads_nil.1 hq
      obtain ⟨c, rest, hrest, hc, rfl⟩ := Spot.mem_take.1 hr
      simp [rests, CharSet.rests, hrest, hc]
  | look l => cases he
  | group before e ih =>
      obtain ⟨r, hr, hq⟩ := leads_cons.1 (leads_seq.1 (leads_mark.1 (leads_seq.1 h)))
      obtain rfl := leads_nil.1 (leads_mark.1 hq)
      have hmem : r.rest ∈ e.rests (p.mark (2 * before + 2)).rest := ih he hr
      exact hmem
  | seq a b iha ihb =>
      obtain ⟨ha, hb⟩ := Bool.and_eq_true_iff.1 he
      obtain ⟨r, hr, hq⟩ := leads_cons.1 (leads_seq.1 h)
      exact List.mem_flatMap.2 ⟨r.rest, iha ha hr, ihb hb hq⟩
  | alt a b iha ihb =>
      obtain ⟨ha, hb⟩ := Bool.and_eq_true_iff.1 he
      rcases leads_fork.1 h with h | h
      · exact List.mem_append_left _ (iha ha h)
      · exact List.mem_append_right _ (ihb hb h)
  | rep least most greedy e ih =>
      exact List.mem_flatMap.2 (Node.mem_rests_of_repetition (fun _ _ _ => ih he) h)

/-- The remainders of a text are those that some path through the program leaves. -/
theorem mem_rests_iff (he : e.lookless) (next : Nat) {p : Spot} {t : Text} :
    t ∈ e.rests p.rest ↔ ∃ q, Leads [(e.compile next).1] p q ∧ q.rest = t := by
  constructor
  · intro h
    rw [← map_rest_outs he p] at h
    obtain ⟨q, hq, rfl⟩ := List.mem_map.1 h
    exact ⟨q, leads_of_mem_outs hq next, rfl⟩
  · rintro ⟨q, hq, rfl⟩
    exact mem_rests_of_leads he hq

/-! ## Numbers of groups -/

theorem lookless_shift (k : Nat) (e : Expr) : (e.shift k).lookless = e.lookless := by
  induction e with
  | empty => rfl
  | set s => rfl
  | look l => rfl
  | group before e ih => exact ih
  | seq a b iha ihb => rw [shift, lookless, lookless, iha, ihb]
  | alt a b iha ihb => rw [shift, lookless, lookless, iha, ihb]
  | rep least most greedy e ih => exact ih

theorem rests_shift (k : Nat) (e : Expr) : (e.shift k).rests = e.rests := by
  induction e with
  | empty => rfl
  | set s => rfl
  | look l => rfl
  | group before e ih => exact funext fun t => congrFun ih t
  | seq a b iha ihb => exact funext fun t => by rw [shift, rests, rests, iha, ihb]
  | alt a b iha ihb => exact funext fun t => by rw [shift, rests, rests, iha, ihb]
  | rep least most greedy e ih => exact funext fun t => by rw [shift, rests, rests, ih]

end Expr

/-! ## Matches of whole texts -/

/-- There is a match if and only if a path leads on from some place of the text. -/
theorem isMatch_iff_lives {r : Regex} {t : Text} :
    r.isMatch t ↔ ∃ front p, (Spot.mk 0 none t []).To front p ∧ Lives r.program p := by
  rw [isMatch, Option.isSome_iff_exists]
  constructor
  · rintro ⟨m, hm⟩
    obtain ⟨hbase, htext, start, stop, hfrom, -⟩ := findFrom?_leftmost hm
    exact ⟨m.before, start, hbase ▸ htext ▸ hfrom.to_start, stop, hfrom.leads⟩
  · rintro ⟨front, p, hto, hlives⟩
    refine Option.ne_none_iff_exists'.1 fun hnone => ?_
    exact not_lives_of_findFrom?_eq_none hnone hto hlives

/-- The pattern for the texts that another pattern takes from the beginning to the end. -/
def inFull (source : Text) : Text :=
  '^' :: ("(?:".toList ++ (source ++ ")$".toList))

/-- The reader behind the sign for the beginning of the text. -/
def startReader : Reader where
  pieces := ⟨[.expr (.look .textStart) 0], []⟩

theorem run_start (steps : Nat) (t : Text) :
    Reader.run (steps + 2) {} ('^' :: ("(?:".toList ++ t)) =
      Reader.run steps (startReader.openGroup none {}) t := rfl

theorem expr_inFull {source : Text} {e : Expr} {r : Regex} (hparse : Expr.parse source = .ok e)
    (h : compile (inFull source) = .ok r) :
    r.expr = .seq (.look .textStart) (.seq (e.shift 0) (.look .textEnd)) := by
  obtain ⟨own, hrun, houter, rfl⟩ := Reader.parse_eq_ok hparse
  obtain ⟨whole, hwhole, h⟩ := exists_of_bind_eq_ok h
  cases h
  obtain ⟨reader, hreader, hclosed, rfl⟩ := Reader.parse_eq_ok hwhole
  have hlength : (inFull source).length + 1 = (source.length + 5) + 2 := by
    simp [inFull]
  rw [hlength, inFull, run_start] at hreader
  obtain ⟨left, groups, names, hleft, hrest⟩ :=
    Reader.run_grouped startReader hrun houter (by decide) rfl rfl (by simp) hreader hclosed
  obtain ⟨left, rfl⟩ := Nat.exists_eq_add_of_le' (show 2 ≤ left from hleft)
  cases hrest
  rfl

/-- A text is taken in full if and only if nothing is among its remainders. -/
theorem isMatch_inFull {source : Text} {e : Expr} {r : Regex}
    (hparse : Expr.parse source = .ok e) (hlook : e.lookless)
    (h : compile (inFull source) = .ok r) (t : Text) :
    r.isMatch t ↔ [] ∈ e.rests t := by
  have hlookless : (e.shift 0).lookless := (e.lookless_shift 0).trans hlook
  have hprogram : r.program = [.mark 0, .seq (.look .textStart)
      (.seq ((e.shift 0).compile 0).1 (.look .textEnd)), .mark 1] := by
    rw [r.program_eq, expr_inFull hparse h]
    rfl
  rw [isMatch_iff_lives, ← e.rests_shift 0, hprogram]
  constructor
  · rintro ⟨front, p, hto, q, hq⟩
    rw [leads_mark, leads_seq, leads_look] at hq
    obtain ⟨start, hstart, hq⟩ := hq
    obtain ⟨hbegins, rfl⟩ := Spot.mem_ask.1 hstart
    obtain ⟨stop, hstop, hq⟩ := leads_cons.1 (leads_seq.1 hq)
    obtain ⟨o, ho, -⟩ := leads_look.1 hq
    obtain ⟨hends, rfl⟩ := Spot.mem_ask.1 ho
    have hbefore : lastOr none front = none :=
      hto.before.symm.trans (Option.isNone_iff_eq_none.1 hbegins)
    obtain rfl := List.getLast?_eq_none_iff.1 (Option.or_eq_none_iff.1 hbefore).1
    have hrest : t = (p.mark 0).rest := hto.rest
    have hnil : o.rest = [] := List.head?_eq_none_iff.1 (Option.isNone_iff_eq_none.1 hends)
    rw [hrest, ← hnil]
    exact Expr.mem_rests_of_leads hlookless hstop
  · intro hnil
    let start : Spot := (Spot.mk 0 none t []).mark 0
    obtain ⟨stop, hstop, hrest⟩ := (Expr.mem_rests_iff hlookless 0 (p := start)).1 hnil
    have hbegins : start ∈ start.ask .textStart := Spot.mem_ask.2 ⟨rfl, rfl⟩
    have hends : stop ∈ stop.ask .textEnd :=
      Spot.mem_ask.2 ⟨by rw [hrest]; rfl, rfl⟩
    refine ⟨[], _, .refl _, stop.mark 1,
      leads_mark.2 (leads_seq.2 (leads_look.2 ⟨start, hbegins, ?_⟩))⟩
    refine leads_seq.2 (leads_cons.2 ⟨stop, hstop, leads_look.2 ⟨stop, hends, ?_⟩⟩)
    exact leads_mark.2 (.done _)

end PlainLink.Regex
