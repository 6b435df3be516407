/-
# A text with a known beginning

A search that has gone through a part of a text holds all it needs to know of that part:
the match it has found, and the ways in which one could go on.  So where only the
beginning of a text is known, the search can be carried out as far as the beginning
goes, and the rest argued from there.  In particular a pattern that is tied to the
beginning of the text has no match as soon as no way is left.
-/
import PlainLink.Regex.Match

namespace PlainLink.Regex

structure Stage where
  index : Nat
  best : Option Marks
  ways : List Way

namespace Stage

/-- The search goes on over the character `c`, behind which `after` stands. -/
def step (program : List Node) (s : Stage) (c : Char) (after : Option Char) : Stage :=
  let p : Place := ⟨s.index + 1, some c, after⟩
  let f := advance p c s.ways Front.start
  let f := if s.best.isNone then enterAll p program [] f else f
  ⟨s.index + 1, f.found.or s.best, f.ways.reverse⟩

/-- The search goes on over a part of the text, behind which `after` stands. -/
def past (program : List Node) (after : Option Char) : Text → Stage → Stage
  | [], s => s
  | c :: rest, s => past program after rest (s.step program c (rest.head?.or after))

/-- The beginning of a search, where the text begins with `after`. -/
def first (program : List Node) (after : Option Char) : Stage :=
  let f := enterAll ⟨0, none, after⟩ program [] Front.start
  ⟨0, f.found, f.ways.reverse⟩

/-- What the search comes to over the rest of the text. -/
def finish (program : List Node) (s : Stage) (t : Text) : Option Marks :=
  scan program s.index s.best s.ways t

/-- No way is left, and nothing is found. -/
def dead (s : Stage) : Bool :=
  s.best.isNone && s.ways.isEmpty

variable {program : List Node} {s : Stage}

theorem finish_cons (c : Char) (rest : Text) :
    s.finish program (c :: rest) = (s.step program c rest.head?).finish program rest := by
  rw [finish, scan]
  split
  · next hdone =>
    -- With a match and no ways the search is over, and going on changes nothing.
    obtain ⟨hbest, hways⟩ := Bool.and_eq_true_iff.1 hdone
    have hstep : ∀ c after, s.step program c after = ⟨s.index + 1, s.best, []⟩ := by
      intro c after
      simp [step, List.isEmpty_iff.1 hways, advance,
        Option.isNone_eq_false_iff.2 hbest, Front.start]
    rw [hstep, finish]
    cases rest with
    | nil => rfl
    | cons d rest => simp [scan, hbest]
  · rfl

theorem past_index (after : Option Char) (t : Text) :
    (s.past program after t).index = s.index + t.length := by
  induction t generalizing s with
  | nil => rfl
  | cons c t ih =>
      rw [past, ih, step, List.length_cons]
      exact Nat.add_right_comm _ _ _

theorem finish_append (t rest : Text) :
    s.finish program (t ++ rest) = (s.past program rest.head? t).finish program rest := by
  induction t generalizing s with
  | nil => rfl
  | cons c t ih =>
      rw [List.cons_append, finish_cons, ih, past, List.head?_append]

end Stage

/-- The search behind the text `t`, where `after` stands behind that. -/
def stageBehind (r : Regex) (t : Text) (after : Option Char) : Stage :=
  (Stage.first r.program (t.head?.or after)).past r.program after t

theorem search_append (r : Regex) (t rest : Text) :
    search r.program 0 none (t ++ rest) =
      (r.stageBehind t rest.head?).finish r.program rest := by
  rw [stageBehind, ← Stage.finish_append, Stage.first, List.head?_append.symm]
  rfl

/-! ## Patterns tied to the beginning -/

/-- The expression asks first that the text begins here. -/
def Expr.anchored : Expr → Bool
  | look .textStart => true
  | seq a _ => a.anchored
  | group _ e => e.anchored
  | _ => false

theorem Expr.enter_of_anchored {e : Expr} (h : e.anchored) (next index : Nat) (c : Char)
    (after : Option Char) (rest : List Node) (onward : Marks → Front → Front) (marks : Marks)
    (f : Front) : (e.compile next).1.enter ⟨index, some c, after⟩ rest onward marks f = f := by
  induction e generalizing next rest onward marks with
  | look l =>
      cases l with
      | textStart => rfl
      | _ => cases h
  | group before e ih => exact ih h ..
  | seq a b iha ihb => exact iha h ..
  | _ => cases h

variable {r : Regex}

theorem enterAll_of_anchored (h : r.expr.anchored) (index : Nat) (c : Char) (after : Option Char)
    (marks : Marks) (f : Front) : enterAll ⟨index, some c, after⟩ r.program marks f = f := by
  rw [r.program_eq]
  exact Expr.enter_of_anchored h ..

theorem Stage.finish_of_dead (h : r.expr.anchored) {s : Stage} (hdead : s.dead) (t : Text) :
    s.finish r.program t = none := by
  induction t generalizing s with
  | nil =>
      obtain ⟨hbest, -⟩ := Bool.and_eq_true_iff.1 hdead
      exact Option.isNone_iff_eq_none.1 hbest
  | cons c rest ih =>
      obtain ⟨hbest, hways⟩ := Bool.and_eq_true_iff.1 hdead
      rw [finish_cons]
      refine ih ?_
      simp [step, List.isEmpty_iff.1 hways, Option.isNone_iff_eq_none.1 hbest, advance, dead,
        enterAll_of_anchored h, Front.start]

/-- A pattern tied to the beginning that has no way left after the text `t` matches no text
that begins with it. -/
theorem isMatch_append_of_dead (h : r.expr.anchored) {t rest : Text}
    (hdead : (r.stageBehind t rest.head?).dead) : r.isMatch (t ++ rest) = false := by
  rw [isMatch, find?, findFrom?, search_append, Stage.finish_of_dead h hdead]
  rfl

end PlainLink.Regex
