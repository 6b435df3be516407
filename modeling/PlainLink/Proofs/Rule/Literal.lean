/-
# Rules that are names

A rule whose text has no sign of the pattern language is for the fields of exactly that
name.  In a list as it stands in a query it deletes these fields and nothing else.  In a
list that stands escaped in a value it deletes the first of them and, because the value
of a field is read up to the next plain separator, all that stands behind it.

    utm on  utm=1&b=2            leaves  &b=2
    utm on  utm%3D1%26b%3D2      leaves nothing

`strippedEscaped` says exactly what is left of the second kind of list: the fields in
front of the first one with the name, and its ampersand.  The expression of such a rule
is a sequence of characters, and what it takes of a text is all of its name or nothing.

Main statement: `stripFields_literal`.
-/
import Mathlib.Data.Bool.AllAny
import PlainLink.Proofs.Rule.Completed
import PlainLink.Proofs.Rule.FieldList

namespace PlainLink

open Regex

namespace Pattern

/-! ## Reading a name -/

/-- The character means itself in a pattern, as letters, digits and `_` do. -/
def MeansItself (c : Char) : Prop :=
  c ∉ "()|[?*+\x7b\\.^$".toList

instance : DecidablePred MeansItself := fun c => inferInstanceAs (Decidable (c ∉ _))

def literalExpr (n : Text) : Expr :=
  .seqOf (n.map charExpr)

theorem step_literal {c : Char} (hc : MeansItself c) (r : Reader) (rest : List Char) :
    r.step c rest = .ok (r.addChar c, rest) := by
  unfold Reader.step
  split
  all_goals first
    | rfl
    | exact absurd hc (by decide)

theorem run_literal {n : Text} (hn : ∀ c ∈ n, MeansItself c) {steps : Nat}
    (hsteps : n.length < steps) (current : List Part) :
    Reader.run steps { pieces := ⟨current, []⟩ } n =
      .ok { pieces := ⟨(n.map fun c => .expr (charExpr c) 0).reverse ++ current, []⟩ } := by
  induction n generalizing steps current with
  | nil =>
      obtain ⟨steps, rfl⟩ := Nat.exists_eq_add_one_of_ne_zero (Nat.ne_zero_of_lt hsteps)
      rfl
  | cons c n ih =>
      obtain ⟨steps, rfl⟩ := Nat.exists_eq_add_one_of_ne_zero (Nat.ne_zero_of_lt hsteps)
      obtain ⟨hc, hn⟩ := List.forall_mem_cons.1 hn
      have hstep := step_literal hc { pieces := ⟨current, []⟩ } n
      have hrest := ih hn (Nat.lt_of_succ_lt_succ hsteps) (.expr (charExpr c) 0 :: current)
      show (Reader.step _ c n >>= fun x => Reader.run steps x.1 x.2) = _
      rw [hstep]
      refine hrest.trans ?_
      rw [List.map_cons, List.reverse_cons, List.append_assoc, List.singleton_append]

theorem toExpr_sequence (p : Pieces) :
    p.sequence.toExpr = Expr.seqOf (p.current.reverse.map Part.toExpr) := by
  obtain ⟨current, earlier⟩ := p
  match current with
  | [] => rfl
  | [_] => rfl
  | _ :: _ :: _ => rfl

theorem whole_literal (n : Text) :
    (Pieces.whole ⟨(n.map fun c => Part.expr (charExpr c) 0).reverse ++ [], []⟩).toExpr =
      literalExpr n := by
  refine (toExpr_sequence _).trans ?_
  rw [List.append_nil, List.reverse_reverse, List.map_map]
  rfl

/-! ## What a name takes -/

theorem literalExpr_induction {P : Expr → Prop}
    (hseq : ∀ a b, P a → P b → P (.seq a b)) {n : Text}
    (hne : n ≠ []) (hchar : ∀ c ∈ n, P (charExpr c)) : P (literalExpr n) := by
  induction n with
  | nil => exact absurd rfl hne
  | cons c n ih =>
      obtain ⟨hc, hn⟩ := List.forall_mem_cons.1 hchar
      cases n with
      | nil => exact hc
      | cons d n => exact hseq _ _ hc (ih (List.cons_ne_nil d n) hn)

theorem rests_literal (n t : Text) : (literalExpr n).rests t = (Text.after? n t).toList := by
  induction n generalizing t with
  | nil => rfl
  | cons c n ih =>
      have hcons : (literalExpr (c :: n)).rests t =
          ((charExpr c).rests t).flatMap (literalExpr n).rests := by
        cases n with
        | nil => exact (List.flatMap_singleton' _).symm
        | cons d n => rfl
      rw [hcons]
      cases t with
      | nil => rfl
      | cons d t =>
          by_cases hd : d = c
          · simp [charExpr, Expr.rests, CharSet.rests, CharSet.test, hd, ih, Text.after?,
              List.isPrefixOf?]
          · simp [charExpr, Expr.rests, CharSet.rests, CharSet.test, hd, Text.after?,
              List.isPrefixOf?, Ne.symm hd]

theorem takesAll_literal (n m : Text) : (literalExpr n).takesAll m ↔ m = n := by
  rw [Expr.takesAll, rests_literal, beq_iff_eq]
  have hafter : Text.after? n m = some [] ↔ m = n := by
    rw [Text.after?, List.isPrefixOf?_eq_some_iff_append_eq, List.append_nil]
    exact eq_comm
  rw [← hafter]
  cases Text.after? n m <;> simp

theorem names_literal {n : Text} {p : Pattern} (hne : n ≠ []) (hn : ∀ c ∈ n, MeansItself c)
    (hplain : Plain n) (h : compile .queryField n = .ok p) :
    Names p.regex.expr (literalExpr n) := by
  have hexpr := expr_of_run (run_literal hn (Nat.lt_succ_self _) []) rfl h
  have hshift : (literalExpr n).shift 1 = literalExpr n :=
    literalExpr_induction (P := fun e => e.shift 1 = e)
      (fun a b ha hb => by rw [Expr.shift, ha, hb]) hne
      fun _ _ => rfl
  rw [whole_literal, hshift] at hexpr
  refine ⟨.inl hexpr, ?_, ?_, ?_, ?_, fun c hc => ?_⟩
  · exact literalExpr_induction (P := fun e => e.lookless = true)
      (fun a b ha hb => by simp [Expr.lookless, ha, hb]) hne fun _ _ => rfl
  · exact literalExpr_induction (P := fun e => e.lastGroup = 0)
      (fun a b ha hb => by simp [Expr.lastGroup, ha, hb]) hne fun _ _ => rfl
  · exact literalExpr_induction (P := fun e => e.progresses = true)
      (fun a b ha hb => by simp [Expr.progresses, ha, hb]) hne fun _ _ => rfl
  · exact literalExpr_induction (P := fun e => e.takesSomething = true)
      (fun a b ha hb => by simp [Expr.takesSomething, ha]) hne fun _ _ => rfl
  · refine literalExpr_induction (P := fun e => e.avoids c = true)
      (fun a b ha hb => by simp [Expr.avoids, ha, hb]) hne fun d hd => ?_
    obtain ⟨hseparates, hequals⟩ := hplain d hd
    have hcd : c ≠ d := by
      rintro rfl
      exact hc.elim hseparates hequals
    simp [charExpr, Expr.avoids, CharSet.test, hcd]

/-! ## What a name deletes -/

/-- What is left of an escaped list: the fields in front of the first one with the name, and
the place of that one. -/
def strippedEscaped (n : Text) : List (Text × Text) → List Text
  | [] => []
  | field :: fields =>
    if field.1 = n then [[]] else escapedField field :: strippedEscaped n fields

theorem test_of_mem_escaped {field : Text × Text} {fields : List (Text × Text)}
    (hfield : PlainField field) (hfields : ∀ field ∈ fields, PlainField field) :
    ∀ c ∈ field.2 ++ fields.flatMap (fun field => "%26".toList ++ escapedField field),
      valueSet.test c := by
  have hmark : ∀ c ∈ "%26".toList ++ "%3D".toList, valueSet.test c :=
    List.all_eq_true.1 (by decide)
  intro c hc
  rcases List.mem_append.1 hc with hc | hc
  · exact valueSet_test (hfield.value c hc).1
  · obtain ⟨other, hother, hc⟩ := List.mem_flatMap.1 hc
    have hplain := hfields other hother
    rcases List.mem_append.1 hc with hc | hc
    · exact hmark c (List.mem_append_left _ hc)
    · rcases List.mem_append.1 hc with hc | hc
      · exact valueSet_test (hplain.name c hc).1
      · rcases List.mem_append.1 hc with hc | hc
        · exact hmark c (List.mem_append_right _ hc)
        · exact valueSet_test (hplain.value c hc).1

section

variable {n : Text} {p : Pattern} (h : Names p.regex.expr (literalExpr n))
    {fields : List (Text × Text)}
  (hfields : ∀ field ∈ fields, PlainField field)

include h hfields

theorem Names.stripFields_plain :
    p.stripFields (Text.join ['&'] (fields.map plainField)) =
      Text.join ['&'] (fields.map fun field => if field.1 = n then []
        else plainField field) := by
  have hsegments : ∀ s ∈ fields.map plainField, ∀ c ∈ s, ¬ separates c := by
    intro s hs c hc
    obtain ⟨field, hfield, rfl⟩ := List.mem_map.1 hs
    rcases List.mem_append.1 hc with hc | hc
    · exact ((hfields field hfield).name c hc).1
    · rcases List.mem_cons.1 hc with rfl | hc
      · decide
      · exact ((hfields field hfield).value c hc).1
  rw [h.stripFields_join hsegments, List.map_map]
  refine congrArg _ (List.map_congr_left fun field hfield => ?_)
  show stripSegment (literalExpr n) (plainField field) = _
  rw [stripSegment, plainField, nameOf_append (hfields field hfield).name]
  exact if_congr (takesAll_literal n field.1) rfl rfl

theorem Names.walks_escaped :
    Walks p.regex.expr (fields.flatMap fun field => "%26".toList ++ escapedField field)
      ((strippedEscaped n fields).flatMap ("%26".toList ++ ·)) := by
  induction fields with
  | nil => exact walks_nil h
  | cons field fields ih =>
      obtain ⟨hfield, hfields⟩ := List.forall_mem_cons.1 hfields
      rw [strippedEscaped, List.flatMap_cons]
      split
      · next hname =>
        exact h.walks_deleted hfield ((takesAll_literal n field.1).2 hname)
          (test_of_mem_escaped hfield hfields)
      · next hname =>
        exact h.passes_field hfield (mt (takesAll_literal n field.1).1 hname) _ _ (ih hfields)

theorem Names.stripFields_escaped :
    p.stripFields (Text.join "%26".toList (fields.map escapedField)) =
      Text.join "%26".toList (strippedEscaped n fields) := by
  refine Rewrites.replaceAll_eq h.expr_progresses h.expr_takes fieldText_ofParts ?_
  cases fields with
  | nil => exact .stop (h.matchAt?_nil 0)
  | cons field fields =>
      obtain ⟨hfield, hfields⟩ := List.forall_mem_cons.1 hfields
      have hwalk := h.walks_escaped hfields
      have htest := test_of_mem_escaped hfield hfields
      rw [List.map_cons, join_cons, List.flatMap_map, strippedEscaped]
      generalize fields.flatMap _ = tail at hwalk htest ⊢
      have hbehind : BehindName ("%3D".toList ++ (field.2 ++ tail)) :=
        fun c hc => .inl (Option.some.inj hc ▸ rfl)
      obtain ⟨c, name, hname⟩ := List.exists_cons_of_ne_nil hfield.name_ne
      have hstart : BoundAt none [] (field.1 ++ ("%3D".toList ++ (field.2 ++ tail))) := by
        refine boundAt_start fun d hd => ?_
        rw [hname] at hd
        exact Option.some.inj hd ▸ (hfield.name c (hname ▸ List.mem_cons_self)).1
      rw [escapedField, List.append_assoc, List.append_assoc]
      split
      · next hnamed =>
        have hempty : behindValue ("%3D".toList ++ (field.2 ++ tail)) = [] := by
          rw [behindValue_escaped, afterValue, ← List.append_nil (field.2 ++ tail),
            List.dropWhile_append_of_pos htest]
          rfl
        exact h.rewrites_deleted hbehind hstart (hfield.head?_ne _)
          ((takesAll_literal n field.1).2 hnamed) (hempty ▸ rfl) (hempty ▸ walks_nil h)
      · next hother =>
        have hrest := walks_escape h (a := '3') (b := 'D') (by decide) (by decide) (by decide)
          (walks_append h (fun c hc => (hfield.value c hc).1) hwalk)
        rw [join_cons, List.append_assoc, List.append_assoc]
        refine h.rewrites_kept hbehind hstart (hfield.head?_ne _) hfield.name
          (mt (takesAll_literal n field.1).1 hother) hrest fun hnone => ?_
        rw [hname] at hnone ⊢
        exact .keep hnone (walks_append h (fun d hd =>
          (hfield.name d (hname ▸ List.mem_cons_of_mem _ hd)).1) hrest _ _)

end

/-- A rule that is a name deletes the fields of that name, and nothing else, in a list as
it stands in a query; in a list that stands escaped it deletes the first one with all
that stands behind it. -/
theorem stripFields_literal {n : Text} {p : Pattern} (hne : n ≠ []) (hn : ∀ c ∈ n, MeansItself c)
    (hplain : Plain n) (hcompile : compile .queryField n = .ok p) (fields : List (Text × Text))
    (hfields : ∀ field ∈ fields, PlainField field) :
    p.stripFields (Text.join ['&'] (fields.map plainField)) =
        Text.join ['&'] (fields.map fun field => if field.1 = n then [] else plainField field) ∧
      p.stripFields (Text.join "%26".toList (fields.map escapedField)) =
        Text.join "%26".toList (strippedEscaped n fields) :=
  have h := names_literal hne hn hplain hcompile
  ⟨h.stripFields_plain hfields, h.stripFields_escaped hfields⟩

theorem stripFields_utm :
    ∃ p, compile .queryField "utm".toList = .ok p ∧
      p.stripFields "b=2&utm=1&c=3".toList = "b=2&&c=3".toList ∧
      p.stripFields "b%3D2%26utm%3D1%26c%3D3".toList = "b%3D2%26".toList :=
  ⟨_, rfl, stripFields_literal (n := "utm".toList) (by decide)
    (List.all_iff_forall_prop.1 (by decide))
    (by decide) rfl
    [(['b'], ['2']), (['u', 't', 'm'], ['1']), (['c'], ['3'])] (by decide)⟩

/-- In an escaped list a rule deletes more than the fields of its name. -/
theorem stripFields_escaped_not_always :
    ¬ ∀ (n : Text) (p : Pattern) (fields : List (Text × Text)),
      (n.all fun c => c.isAlphanum || c == '_') → compile .queryField n = .ok p →
      (∀ field ∈ fields, field.1 ≠ [] ∧ (field.1 ++ field.2).all fun c =>
        c.isAlphanum || c == '_') →
      p.stripFields (Text.join "%26".toList (fields.map escapedField)) =
        Text.join "%26".toList
          (fields.map fun field => if field.1 = n then [] else escapedField field) := by
  intro h
  obtain ⟨p, hp⟩ : ∃ p, compile .queryField "utm".toList = .ok p := ⟨_, rfl⟩
  have hnames :=
    names_literal (by decide) (List.all_iff_forall_prop.1 (by decide)) (by decide) hp
  have hfields : ∀ field ∈ [(['u', 't', 'm'], ['1']), (['b'], ['2'])], PlainField field := by
    decide
  have hstrip := hnames.stripFields_escaped hfields
  have hclaim := h _ p [(['u', 't', 'm'], ['1']), (['b'], ['2'])] (by decide) hp (by decide)
  rw [hstrip] at hclaim
  exact absurd hclaim (by decide)

end Pattern

end PlainLink
