/-
# Patterns behind others

A pattern that is read behind others has its groups numbered after theirs.  What the
reader then keeps is what it keeps of the pattern alone, numbered on, with the parts of
the others below it; and each of its operations does there what it does alone.

Main statements: `Pieces.whole_shift`, `Reader.within_closeGroup`.
-/
import PlainLink.Proofs.Regex.Locality
import PlainLink.Regex.Parser

namespace PlainLink.Regex

/-! ## Numbering on -/

namespace Expr

/-- The expression with its groups numbered after `k` others. -/
def shift (k : Nat) : Expr → Expr
  | empty => empty
  | set s => set s
  | look l => look l
  | group before e => group (before + k) (e.shift k)
  | seq a b => seq (a.shift k) (b.shift k)
  | alt a b => alt (a.shift k) (b.shift k)
  | rep least most greedy e => rep least most greedy (e.shift k)

variable (k : Nat)

theorem takesNothing_shift (e : Expr) : (e.shift k).takesNothing = e.takesNothing := by
  induction e with
  | empty | set | look => rfl
  | group before e ih => exact ih
  | seq a b iha ihb => rw [shift, takesNothing, takesNothing, iha, ihb]
  | alt a b iha ihb => rw [shift, takesNothing, takesNothing, iha, ihb]
  | rep least most greedy e ih => exact ih

theorem size_shift (e : Expr) : (e.shift k).size = e.size := by
  induction e with
  | empty | set | look => rfl
  | group before e ih => rw [shift, size, size, ih]
  | seq a b iha ihb => rw [shift, size, size, iha, ihb]
  | alt a b iha ihb => rw [shift, size, size, iha, ihb]
  | rep least most greedy e ih => rw [shift, size, size, ih]

theorem shift_zero (e : Expr) : e.shift 0 = e := by
  induction e with
  | empty | set | look => rfl
  | group before e ih => rw [shift, ih, Nat.add_zero]
  | seq a b iha ihb => rw [shift, iha, ihb]
  | alt a b iha ihb => rw [shift, iha, ihb]
  | rep least most greedy e ih => rw [shift, ih]

theorem shift_repeated (least : Nat) (most : Option Nat) (greedy : Bool) (e : Expr) :
    (repeated least most greedy e).shift k = repeated least most greedy (e.shift k) := by
  unfold repeated
  rw [takesNothing_shift]
  split
  split
  · rfl
  · split <;> rfl

theorem shift_seqOf (es : List Expr) : (seqOf es).shift k = seqOf (es.map (shift k)) := by
  induction es with
  | nil => rfl
  | cons e es ih =>
      cases es with
      | nil => rfl
      | cons e' es => exact congrArg (seq (e.shift k)) ih

theorem shift_altOf (es : List Expr) : (altOf es).shift k = altOf (es.map (shift k)) := by
  induction es with
  | nil => rfl
  | cons e es ih =>
      cases es with
      | nil => rfl
      | cons e' es => exact congrArg (alt (e.shift k)) ih

end Expr

/-- The part with its groups numbered on. -/
def Part.shift (k : Nat) : Part → Part
  | expr e depth => expr (e.shift k) depth
  | flags => flags

/-- The pieces with their groups numbered on. -/
def Pieces.shift (k : Nat) (p : Pieces) : Pieces :=
  ⟨p.current.map (·.shift k), p.earlier.map (·.shift k)⟩

/-- The outer group with its groups numbered on. -/
def Outer.shift (k : Nat) (o : Outer) : Outer :=
  ⟨o.pieces.shift k, o.flags, o.numbered.map (· + k)⟩

theorem Part.shift_expr (k : Nat) (e : Expr) (depth : Nat) :
    (expr e depth).shift k = expr (e.shift k) depth := rfl

theorem Part.toExpr_shift (k : Nat) (p : Part) : (p.shift k).toExpr = p.toExpr.shift k := by
  cases p <;> rfl

theorem Part.depth_shift (k : Nat) (p : Part) : (p.shift k).depth = p.depth := by
  cases p <;> rfl

theorem Pieces.sequence_shift (k : Nat) (p : Pieces) :
    (p.shift k).sequence = p.sequence.shift k := by
  obtain ⟨current, earlier⟩ := p
  match current with
  | [] => rfl
  | [one] => simp [sequence, shift, Part.shift_expr, Part.toExpr_shift, Part.depth_shift]
  | one :: two :: more =>
      simp [sequence, shift, Part.shift_expr, Part.toExpr_shift, Part.depth_shift,
        Expr.shift_seqOf, Function.comp_def]

theorem Pieces.whole_shift (k : Nat) (p : Pieces) : (p.shift k).whole = p.whole.shift k := by
  have hsequence := p.sequence_shift k
  obtain ⟨current, earlier⟩ := p
  cases earlier with
  | nil => exact hsequence
  | cons part earlier =>
      simp only [whole, shift, List.map_cons] at hsequence ⊢
      rw [hsequence]
      simp [Part.shift_expr, Part.toExpr_shift, Part.depth_shift, Expr.shift_altOf,
        Function.comp_def]

/-! ## Readers on top of others -/

namespace Reader

/-- The reader of a pattern in a group that was opened by the reader `base`. -/
def within (base r : Reader) : Reader where
  flags := r.flags
  pieces := r.pieces.shift base.groups
  outer := r.outer.map (·.shift base.groups) ++ ⟨base.pieces, base.flags, none⟩ :: base.outer
  groups := r.groups + base.groups
  names := r.names ++ base.names

variable (base r : Reader)

theorem within_flags : (within base r).flags = r.flags := rfl

theorem within_add {e : Expr} (he : e.shift base.groups = e) :
    (within base r).add e = within base (r.add e) := by
  simp [within, add, Pieces.shift, Part.shift_expr, he]

theorem within_addChar (c : Char) : (within base r).addChar c = within base (r.addChar c) := by
  unfold addChar
  rw [within_flags]
  split
  · exact within_add base r rfl
  · split
    · exact within_add base r rfl
    · exact within_add base r rfl

variable {base r}

theorem within_current {e : Expr} {depth : Nat} {before : List Part}
    (hcurrent : r.pieces.current = .expr e depth :: before) :
    (within base r).pieces.current =
      .expr (e.shift base.groups) depth :: before.map (·.shift base.groups) := by
  simp [within, Pieces.shift, hcurrent, Part.shift_expr]

theorem within_addAtom {a : Atom} {r' : Reader} (h : r.addAtom a = .ok r') :
    (within base r).addAtom a = .ok (within base r') := by
  cases a with
  | char c =>
      cases h
      exact congrArg _ (within_addChar base r c)
  | byte c => cases h
  | set s =>
      obtain ⟨fitted, hfit, h⟩ := exists_of_bind_eq_ok h
      cases h
      rw [addAtom, within_flags, hfit]
      exact congrArg _ (within_add base r rfl)
  | look l =>
      cases h
      exact congrArg _ (within_add base r rfl)

theorem within_openGroup (f : Flags) :
    (within base r).openGroup none f = within base (r.openGroup none f) := by
  simp [within, openGroup, Pieces.shift, Outer.shift]

theorem within_openNumbered : (within base r).openNumbered = within base r.openNumbered := by
  simp [within, openNumbered, openGroup, Pieces.shift, Outer.shift, Nat.add_right_comm]

theorem within_closeGroup {r' : Reader} (h : r.closeGroup = .ok r') :
    (within base r).closeGroup = .ok (within base r') := by
  obtain ⟨f, pieces, outer, groups, names⟩ := r
  cases outer with
  | nil => cases h
  | cons o outer =>
      obtain ⟨around, flags, numbered⟩ := o
      cases h
      simp only [within, closeGroup, Outer.shift, List.map_cons, List.cons_append,
        Pieces.whole_shift, Part.toExpr_shift, Part.depth_shift]
      cases numbered <;> rfl

theorem within_nextAlternative :
    (within base r).nextAlternative = within base r.nextAlternative := by
  simp only [nextAlternative, within, Pieces.sequence_shift]
  rfl

end Reader

end PlainLink.Regex
