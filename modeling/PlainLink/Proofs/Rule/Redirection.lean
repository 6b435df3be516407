/-
# Redirection rules

A redirection rule ends with its first group and takes the rest of the text as well, so
that the group alone is left.  Once its search is inside a group that takes characters
of a set as long as it can, it stays there over all further characters of the set: the
match found so far ends here, and the preferred way is to take one more.
-/
import PlainLink.Proofs.Regex.Anchored
import PlainLink.Rule.Pattern

namespace PlainLink

open Regex

/-- The way repeats its set, as the end of the first group and with any text behind it. -/
def Regex.Way.lasts (w : Way) : Bool :=
  match w.rest with
  | [.loop i true (.set j s), .mark 3, .loop k true (.set l _), .mark 1] =>
    s == w.set && decide [i, j, k, l].Nodup
  | _ => false

/-- The search is inside the first group, which may end here or take one more
character of the set of `w`. -/
structure Regex.Stage.Inside (w : Way) (s : Stage) : Prop where
  lasts : w.lasts
  best : s.best = some ((1, s.index) :: (3, s.index) :: w.marks)
  ways : s.ways.head? = some w

namespace Regex.Stage.Inside

variable {w : Way} {s : Stage} {program : List Node}

/-- From inside the group, another character of its set leads on inside it. -/
theorem enterAll_of_lasts (h : w.lasts) (p : Place) :
    (enterAll p w.rest w.marks Front.start).found =
        some ((1, p.index) :: (3, p.index) :: w.marks) ∧
      (enterAll p w.rest w.marks Front.start).ways.getLast? = some w := by
  obtain ⟨set, rest, marks⟩ := w
  unfold Way.lasts at h
  split at h
  · next i j cs k l d hrest =>
    obtain ⟨hset, hnodup⟩ := Bool.and_eq_true_iff.1 h
    obtain rfl : cs = set := by simpa using hset
    obtain rfl : rest = _ := hrest
    have hdiffer := of_decide_eq_true hnodup
    simp only [List.nodup_cons, List.mem_cons, List.not_mem_nil, not_or, or_false] at hdiffer
    simp [enterAll, Node.enter, Front.closed, Front.visit, Front.start, Nat.testBit_or,
      Nat.one_shiftLeft, hdiffer]
  · cases h

theorem step (h : s.Inside w) {c : Char} (hc : w.set.test c) (after : Option Char) :
    (s.step program c after).Inside w := by
  obtain ⟨hfound, hlast⟩ := enterAll_of_lasts h.lasts ⟨s.index + 1, some c, after⟩
  obtain ⟨ws, hways⟩ := List.head?_eq_some_iff.1 h.ways
  -- The way of the group comes first and finds a match, so that no other way is gone.
  have hadvance : advance ⟨s.index + 1, some c, after⟩ c s.ways Front.start =
      enterAll ⟨s.index + 1, some c, after⟩ w.rest w.marks Front.start := by
    rw [hways, advance, if_neg (by simp [Front.start]), if_pos hc]
    cases ws with
    | nil => rfl
    | cons v vs => rw [advance, if_pos (by rw [hfound]; rfl)]
  have hstep : s.step program c after =
      ⟨s.index + 1, some ((1, s.index + 1) :: (3, s.index + 1) :: w.marks),
        (enterAll ⟨s.index + 1, some c, after⟩ w.rest w.marks Front.start).ways.reverse⟩ := by
    simp [Stage.step, hadvance, hfound, h.best]
  rw [hstep]
  exact ⟨h.lasts, rfl, by rw [List.head?_reverse]; exact hlast⟩

theorem finish (h : s.Inside w) {t : Text} (ht : ∀ c ∈ t, w.set.test c) :
    s.finish program t =
      some ((1, s.index + t.length) :: (3, s.index + t.length) :: w.marks) := by
  induction t generalizing s with
  | nil => exact h.best
  | cons c t ih =>
      have hnext : (s.step program c t.head?).Inside w := h.step (ht c List.mem_cons_self) _
      rw [Stage.finish_cons, ih hnext fun d hd => ht d (List.mem_cons_of_mem _ hd)]
      simp only [Stage.step, List.length_cons, Nat.add_assoc, Nat.add_comm 1]

end Regex.Stage.Inside

namespace Pattern

/-- A rule whose search is inside its first group at the end of `t`, with all further
characters in the set of the group, leaves what the group takes: the whole text from the place
on at which it begins. -/
theorem substitute_of_inside {p : Pattern} (hanchored : p.regex.expr.anchored) {t rest : Text}
    {w : Way} {start : Nat} (hmarks : w.marks = [(2, start), (0, 0)])
    (hinside : (p.regex.stageBehind t rest.head?).Inside w)
    (hrest : ∀ c ∈ rest, w.set.test c) :
    p.substitute (t ++ rest) = (t ++ rest).drop start := by
  have hfind : p.regex.find? (t ++ rest) =
      some ⟨0, t ++ rest,
        [(1, (t ++ rest).length), (3, (t ++ rest).length), (2, start), (0, 0)]⟩ := by
    rw [find?, findFrom?, search_append, hinside.finish hrest, stageBehind,
      Stage.past_index, hmarks]
    simp [Stage.first]
  generalize t ++ rest = text at hfind
  have hgroup : (text.drop start).take (text.length - start) = text.drop start :=
    List.take_of_length_le (Nat.le_of_eq List.length_drop)
  rw [substitute, replaceAll_of_anchored hanchored hfind]
  simp [Match.after, Match.group?, Match.position?, hgroup]

end Pattern

end PlainLink
