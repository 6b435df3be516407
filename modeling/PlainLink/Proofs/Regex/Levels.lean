/-
# The levels of a pattern

While a pattern is read, the parts of the open groups stand on levels, those of the
innermost group first.  What a step of the reader makes of the levels is one of a few
moves, and each leaves alone what was read before the last part.  So the sign for the
beginning of the text, once it stands first outside of all groups, stays first, unless
it is repeated itself or another alternative begins.

Main statement: `anchored_of_unbranched`.
-/
import PlainLink.Proofs.Regex.Beginning
import PlainLink.Proofs.Regex.Whole

namespace PlainLink.Regex

/-! ## Moves -/

/-- The character repeats the part before it. -/
def isRepetitionSign (c : Char) : Bool :=
  ['?', '*', '+', '\x7b'].contains c

/-- What the character `c` may make of the levels. -/
inductive Move (c : Char) : List Pieces → List Pieces → Prop
  | add (part : Part) (p : Pieces) (ps : List Pieces) :
      Move c (p :: ps) (⟨part :: p.current, p.earlier⟩ :: ps)
  | change (part part' : Part) (before earlier : List Part) (ps : List Pieces) :
      isRepetitionSign c →
        Move c (⟨part :: before, earlier⟩ :: ps) (⟨part' :: before, earlier⟩ :: ps)
  | begin (ps : List Pieces) : Move c ps ({} :: ps)
  | close (part : Part) (p q : Pieces) (ps : List Pieces) :
      c = ')' → Move c (p :: q :: ps) (⟨part :: q.current, q.earlier⟩ :: ps)
  | alternate (part : Part) (p : Pieces) (ps : List Pieces) :
      Move c (p :: ps) (⟨[], part :: p.earlier⟩ :: ps)

namespace Reader

/-- The parts of the open groups, and below them those outside of all groups. -/
def levels (r : Reader) : List Pieces :=
  r.pieces :: r.outer.map (·.pieces)

variable {r r' : Reader} {c : Char} {t rest : List Char}

theorem add_move (e : Expr) : Move c r.levels (r.add e).levels :=
  .add (.expr e 0) r.pieces _

theorem addChar_move (d : Char) : Move c r.levels (r.addChar d).levels := by
  unfold addChar
  split
  · exact add_move _
  · split <;> exact add_move _

theorem addAtom_move {a : Atom} (h : r.addAtom a = .ok r') : Move c r.levels r'.levels := by
  cases a with
  | char d =>
      cases h
      exact addChar_move d
  | byte b => cases h
  | set s =>
      obtain ⟨s, -, h⟩ := exists_of_bind_eq_ok h
      cases h
      exact add_move _
  | look l =>
      cases h
      exact add_move _

theorem repeatLast_move {least : Nat} {most : Option Nat} (hc : isRepetitionSign c)
    (h : r.repeatLast least most t = .ok (r', rest)) : Move c r.levels r'.levels := by
  obtain ⟨flags, ⟨current, earlier⟩, outer, groups, names⟩ := r
  match current, h with
  | .expr e depth :: before, h =>
      cases h
      exact .change _ _ before earlier _ hc

theorem repeatCounted_move (hc : isRepetitionSign c) (h : r.repeatCounted t = .ok (r', rest)) :
    Move c r.levels r'.levels := by
  obtain ⟨e, depth, before, hcurrent⟩ := exists_current_of_repeatCounted h
  rw [repeatCounted_eq hcurrent] at h
  obtain ⟨x, -, h⟩ := exists_of_bind_eq_ok h
  exact repeatLast_move hc h

theorem openNamed_move (h : r.openNamed t = .ok (r', rest)) : Move c r.levels r'.levels := by
  unfold openNamed at h
  split at h
  · cases h
  · cases h
  · split at h
    · cases h
    · split at h
      · cases h
      · cases h
        exact .begin _

theorem head_move (h : r.head t = .ok (r', rest)) : Move c r.levels r'.levels := by
  unfold head at h
  generalize r.flags.skip t = s at h
  dsimp only at h
  split at h
  · cases h
  · cases h
  · cases h
  · cases h
  · exact openNamed_move h
  · exact openNamed_move h
  · obtain ⟨⟨f, sign, behind⟩, -, h⟩ := exists_of_bind_eq_ok h
    dsimp only at h
    split at h
    · cases h
      exact .begin _
    · cases h
      exact .add .flags r.pieces _
  · cases h
    exact .begin _

theorem closeGroup_move (hc : c = ')') (h : r.closeGroup = .ok r') :
    Move c r.levels r'.levels := by
  obtain ⟨flags, pieces, outer, groups, names⟩ := r
  match outer, h with
  | o :: outer, h =>
      cases h
      exact .close _ pieces o.pieces _ hc

theorem step_move (h : r.step c t = .ok (r', rest)) : Move c r.levels r'.levels := by
  unfold step at h
  split at h
  · exact head_move h
  · obtain ⟨closed, hclose, h⟩ := exists_of_bind_eq_ok h
    cases h
    exact closeGroup_move rfl hclose
  · cases h
    exact .alternate _ r.pieces _
  · obtain ⟨s, -, h⟩ := exists_of_bind_eq_ok h
    cases h
    exact add_move _
  · exact repeatLast_move rfl h
  · exact repeatLast_move rfl h
  · exact repeatLast_move rfl h
  · exact repeatCounted_move rfl h
  · obtain ⟨a, -, h⟩ := exists_of_bind_eq_ok h
    obtain ⟨added, hadd, h⟩ := exists_of_bind_eq_ok h
    cases h
    exact addAtom_move hadd
  · obtain ⟨s, -, h⟩ := exists_of_bind_eq_ok h
    cases h
    exact add_move _
  · cases h
    exact add_move _
  · cases h
    exact add_move _
  · cases h
    exact addChar_move c

end Reader

/-! ## What stays first -/

/-- The part that asks for the beginning of the text. -/
def startPart : Part :=
  .expr (.look .textStart) 0

/-- Outside of all groups the sign for the beginning of the text stands first, unless there are
alternatives. -/
def Based : List Pieces → Prop
  | [] => False
  | [ground] => ground.earlier = [] → ∃ front, ground.current = front ++ [startPart]
  | _ :: p :: ps => Based (p :: ps)

/-- And something stands behind the sign, be it a group that is still open. -/
def Tied : List Pieces → Prop
  | [] => False
  | [ground] => ground.earlier = [] → ∃ front, ground.current = front ++ [startPart] ∧ front ≠ []
  | _ :: p :: ps => Based (p :: ps)

section

variable {c : Char} {ps ps' : List Pieces}

theorem Tied.based (h : Tied ps) : Based ps := by
  match ps, h with
  | [ground], h =>
      intro hone
      obtain ⟨front, hcurrent, -⟩ := h hone
      exact ⟨front, hcurrent⟩
  | _ :: _ :: _, h => exact h

/-- The first character behind the sign repeats it, or makes it stay first. -/
theorem Move.tied_of_start (h : Move c [⟨[startPart], []⟩] ps) (hc : ¬ isRepetitionSign c) :
    Tied ps := by
  cases h with
  | add part => exact fun _ => ⟨[part], rfl, List.cons_ne_nil _ _⟩
  | change part part' before earlier ps hsign => exact absurd hsign hc
  | begin => exact fun _ => ⟨[], rfl⟩
  | alternate part => exact nofun

theorem Move.tied (h : Move c ps ps') (htied : Tied ps) : Tied ps' := by
  -- On the move, and on the levels below the one where it is made: the ground is changed by a
  -- move on it, or by one that closes the last group.
  have hground {part : Part} {q : Pieces} (h : Based [q]) :
      Tied [⟨part :: q.current, q.earlier⟩] := by
    intro hone
    obtain ⟨front, hcurrent⟩ := h hone
    exact ⟨part :: front, congrArg (part :: ·) hcurrent, List.cons_ne_nil _ _⟩
  cases h with
  | add part p ps =>
      cases ps with
      | nil => exact hground htied.based
      | cons q ps => exact htied
  | change part part' before earlier ps =>
      cases ps with
      | nil =>
          intro hone
          obtain ⟨front, hcurrent, hfront⟩ := htied hone
          obtain ⟨one, front, rfl⟩ := List.exists_cons_of_ne_nil hfront
          obtain ⟨rfl, hbefore⟩ := List.cons.inj hcurrent
          exact ⟨part' :: front, congrArg (part' :: ·) hbefore, List.cons_ne_nil _ _⟩
      | cons q ps => exact htied
  | begin =>
      cases ps with
      | nil => cases htied
      | cons q ps => exact htied.based
  | close part p q ps =>
      cases ps with
      | nil => exact hground htied
      | cons q' ps => exact htied
  | alternate part p ps =>
      cases ps with
      | nil => exact nofun
      | cons q ps => exact htied

end

namespace Reader

variable {r r' : Reader} {steps : Nat} {t text : List Char}

theorem run_tied (h : run steps r t = .ok r') (htied : Tied r.levels) : Tied r'.levels := by
  induction steps generalizing r t with
  | zero =>
      cases h
      exact htied
  | succ steps ih =>
      unfold run at h
      split at h
      · cases h
        exact htied
      · obtain ⟨⟨next, rest⟩, hstep, h⟩ := exists_of_bind_eq_ok h
        exact ih h ((step_move hstep).tied htied)

theorem run_startReader_based (h : run steps startReader text = .ok r)
    (hsign : ∀ c ∈ text.head?, ¬ isRepetitionSign c) : Based r.levels := by
  have hstart : Based startReader.levels := fun _ => ⟨[], rfl⟩
  cases steps with
  | zero =>
      cases h
      exact hstart
  | succ steps =>
      cases text with
      | nil =>
          cases h
          exact hstart
      | cons c text =>
          obtain ⟨⟨next, rest⟩, hstep, h⟩ := exists_of_bind_eq_ok h
          exact (run_tied h ((step_move hstep).tied_of_start (hsign c rfl))).based

end Reader

/-! ## Patterns tied to the beginning -/

namespace Expr

theorem anchored_seqOf {e : Expr} (h : e.anchored) (es : List Expr) :
    (seqOf (e :: es)).anchored := by
  cases es with
  | nil => exact h
  | cons e' es => exact h

theorem anchored_shift (k : Nat) (e : Expr) : (e.shift k).anchored = e.anchored := by
  induction e with
  | look l => rfl
  | group before e ih => exact ih
  | seq a b iha ihb => exact iha
  | empty | set | alt | rep => rfl

end Expr

theorem Pieces.anchored_of_first {p : Pieces} {front : List Part}
    (hcurrent : p.current = front ++ [startPart])
    (hone : p.earlier = []) : p.whole.toExpr.anchored := by
  obtain ⟨current, earlier⟩ := p
  obtain rfl : current = front ++ [startPart] := hcurrent
  obtain rfl : earlier = [] := hone
  have hreverse : (front ++ [startPart]).reverse.map Part.toExpr =
      .look .textStart :: front.reverse.map Part.toExpr := by
    simp [startPart, Part.toExpr]
  match front with
  | [] => rfl
  | [part] => rfl
  | part :: part' :: front =>
      show (Expr.seqOf
          ((part :: part' :: front ++ [startPart]).reverse.map Part.toExpr)).anchored
      rw [hreverse]
      exact Expr.anchored_seqOf rfl _

/-- The text is read as one sequence of parts, with no alternatives outside of groups. -/
def Unbranched (source : Text) : Prop :=
  ∃ r, Reader.run (source.length + 1) {} source = .ok r ∧ r.outer = [] ∧ r.pieces.earlier = []

/-- A sequence of parts behind the sign for the beginning of the text is tied to it. -/
theorem anchored_of_unbranched {text : Text} (h : Unbranched ('^' :: text))
    (hsign : ∀ c ∈ text.head?, ¬ isRepetitionSign c) :
    ∃ r, Reader.run (('^' :: text).length + 1) {} ('^' :: text) = .ok r ∧ r.outer = [] ∧
      r.pieces.whole.toExpr.anchored := by
  obtain ⟨r, hrun, houter, hone⟩ := h
  have hstart : Reader.run (text.length + 1) startReader text = .ok r := hrun
  have hbased := Reader.run_startReader_based hstart hsign
  rw [Reader.levels, houter] at hbased
  obtain ⟨front, hcurrent⟩ := hbased hone
  exact ⟨r, hrun, houter, Pieces.anchored_of_first hcurrent hone⟩

end PlainLink.Regex
