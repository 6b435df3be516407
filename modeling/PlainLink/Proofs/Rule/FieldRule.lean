/-
# What a field rule matches

The expression of a field rule is that of the name, between the boundary in front of a
field and the value behind it.  Where the name is one that asks nothing about its place
and takes none of the characters that separate fields, a match can be told from three
texts: the boundary, what the name leaves of the text behind it, and what the value
leaves of that.

    boundary    an ampersand or another separator, plain or escaped, or the beginning of the text
    name        the first remainder of its expression
    value       an equals sign, plain or escaped, and everything up to the next plain separator

`Names` says that an expression is that of a rule for the fields that `name` names.
Whether a rule is of this kind can be evaluated (`namesFields`), and most of the rules
that come with the library are.
-/
import PlainLink.Proofs.Regex.Remainders
import PlainLink.Proofs.Regex.Rewriting
import PlainLink.Rule.Pattern

namespace PlainLink

open Regex

namespace Pattern

/-! ## The parts around the name -/

/-- The expression of one character. -/
def charExpr (c : Char) : Expr :=
  .set (.char c)

def boundaryExpr : Expr :=
  .altOf [
    .seqOf [charExpr '%', charExpr '2', charExpr '6'],
    charExpr '&',
    .seqOf [charExpr '%', charExpr '2', charExpr '3'],
    charExpr '#',
    charExpr '?',
    .look .textStart]

/-- An equals sign, plain or escaped. -/
def equalsExpr : Expr :=
  .altOf [
    charExpr '=',
    .seqOf [charExpr '%', charExpr '3', .set (.union (.char 'd') (.union (.char 'D') .none))]]

def valueSet : CharSet :=
  .compl (.union (.char '#') (.union (.char '&') .none))

def valueExpr : Expr :=
  .rep 0 (some 1) true (.seq equalsExpr (.rep 0 none true (.set valueSet)))

/-- The escaped question mark that most rules allow in front of the name. -/
def escapedMark : Expr :=
  .rep 0 (some 1) true (.seqOf [charExpr '%', charExpr '3', charExpr 'F'])

/-- A character that cannot stand in a name or value: it separates fields,
or begins an escape. -/
def separates (c : Char) : Bool :=
  "&#?%".toList.contains c

/-- The expression is that of a rule for the fields that `name` names. -/
structure Names (e name : Expr) : Prop where
  expr : e = .seq (.group 0 boundaryExpr) (.seq name valueExpr) ∨
    e = .seq (.group 0 boundaryExpr) (.seq (.seq escapedMark name) valueExpr)
  lookless : name.lookless
  groupless : name.lastGroup = 0
  progresses : name.progresses
  takes : name.takesSomething
  avoids : ∀ c, separates c ∨ c = '=' → name.avoids c

namespace Names

variable {e name : Expr} (h : Names e name)

include h

theorem expr_progresses : e.progresses := by
  rcases h.expr with rfl | rfl
  · simp [Expr.progresses, h.progresses, boundaryExpr, valueExpr, equalsExpr,
      Expr.altOf, Expr.seqOf, charExpr, Expr.takesSomething]
  · simp [Expr.progresses, h.progresses, boundaryExpr, valueExpr, equalsExpr,
      Expr.altOf, Expr.seqOf, charExpr, Expr.takesSomething, escapedMark]

theorem expr_takes : e.takesSomething := by
  rcases h.expr with rfl | rfl
  · simp [Expr.takesSomething, h.takes]
  · simp [Expr.takesSomething, h.takes]

theorem outs_behind :
    ∃ body, e = .seq (.group 0 boundaryExpr) (.seq body valueExpr) ∧
      ∀ p : Spot, p.rest.head? ≠ some '%' → body.outs p = name.outs p := by
  rcases h.expr with rfl | rfl
  · exact ⟨name, rfl, fun _ _ => rfl⟩
  · refine ⟨_, rfl, fun p hp => ?_⟩
    have hnone : (Expr.seqOf [charExpr '%', charExpr '3', charExpr 'F']).outs p = [] := by
      obtain ⟨index, before, rest, marks⟩ := p
      cases rest with
      | nil => rfl
      | cons c rest =>
          have hc : c ≠ '%' := by simpa using hp
          simp [Expr.seqOf, charExpr, Expr.outs, Spot.take, CharSet.test, hc]
    simp [Expr.outs, escapedMark, times, upTo_of_stuck hnone]

end Names

/-! ## Boundaries -/

/-- In front of the text `t` stands the boundary `bound`, and if there is another way to begin
a match there, it leads to an ampersand. -/
def BoundAt (before : Option Char) (bound t : Text) : Prop :=
  ∀ index marks, ∃ more,
    boundaryExpr.outs ⟨index, before, bound ++ t, marks⟩ =
      ⟨index + bound.length, lastOr before bound, t, marks⟩ :: more ∧
    ∀ q ∈ more, q.rest.head? = some '&'

theorem boundAt_ampersand (before : Option Char) (t : Text) : BoundAt before ['&'] t := by
  intro index marks
  cases before with
  | none =>
      exact ⟨[⟨index, none, '&' :: t, marks⟩], by
        simp [boundaryExpr, Expr.altOf, Expr.seqOf, charExpr, Expr.outs, Spot.take, CharSet.test,
          Spot.ask, Look.holds, lastOr], by simp⟩
  | some c =>
      exact ⟨[], by
        simp [boundaryExpr, Expr.altOf, Expr.seqOf, charExpr, Expr.outs, Spot.take, CharSet.test,
          Spot.ask, Look.holds, lastOr], by simp⟩

theorem boundAt_escaped (c : Char) (t : Text) : BoundAt (some c) "%26".toList t := by
  intro index marks
  refine ⟨[], ?_, by simp⟩
  simp [boundaryExpr, Expr.altOf, Expr.seqOf, charExpr, Expr.outs, Spot.take, CharSet.test,
    Spot.ask, Look.holds, lastOr]

/-- At the beginning of a text that no separator begins, a match has no boundary in front. -/
theorem outs_boundary_start {t : Text} (ht : ∀ c ∈ t.head?, ¬ separates c) (index : Nat)
    (marks : Marks) :
    boundaryExpr.outs ⟨index, none, t, marks⟩ = [⟨index, none, t, marks⟩] := by
  cases t with
  | nil => rfl
  | cons c t =>
      have hc := ht c rfl
      simp only [separates, List.contains_iff_mem] at hc
      simp at hc
      simp [boundaryExpr, Expr.altOf, Expr.seqOf, charExpr, Expr.outs, Spot.take, CharSet.test,
        Spot.ask, Look.holds, hc]

theorem boundAt_start {t : Text} (ht : ∀ c ∈ t.head?, ¬ separates c) : BoundAt none [] t :=
  fun index marks =>
    ⟨[], outs_boundary_start ht index marks, fun _ hq => absurd hq List.not_mem_nil⟩

theorem outs_boundary_eq_nil {p : Spot} (hbefore : p.before.isSome)
    (hrest : ∀ c ∈ p.rest.head?, ¬ separates c) : boundaryExpr.outs p = [] := by
  obtain ⟨index, before, rest, marks⟩ := p
  obtain ⟨b, rfl⟩ := Option.isSome_iff_exists.1 hbefore
  cases rest with
  | nil => rfl
  | cons c t =>
      have hc := hrest c rfl
      simp only [separates, List.contains_iff_mem] at hc
      simp at hc
      simp [boundaryExpr, Expr.altOf, Expr.seqOf, charExpr, Expr.outs, Spot.take, CharSet.test,
        Spot.ask, Look.holds, hc]

/-! ## Values -/

/-- A value goes on as far as the text has no separator, plain. -/
def afterValue (t : Text) : Text :=
  t.dropWhile valueSet.test

/-- What is left behind a name by the value that may follow it. -/
def behindValue (t : Text) : Text :=
  ((equalsExpr.rests t).head?.map afterValue).getD t

theorem head?_rests_value (t : Text) : (valueExpr.rests t).head? = some (behindValue t) := by
  have hvalue : valueExpr.rests t =
      (equalsExpr.rests t).flatMap (Expr.rep 0 none true (.set valueSet)).rests ++ [t] := by
    simp [valueExpr, Expr.rests, times, upTo]
  rw [hvalue, List.head?_append, behindValue]
  cases equalsExpr.rests t with
  | nil => rfl
  | cons u us =>
      rw [List.flatMap_cons, List.head?_append, Expr.head?_rests_of_set]
      rfl

theorem behindValue_equals (t : Text) : behindValue ('=' :: t) = afterValue t := by
  simp [behindValue, equalsExpr, Expr.altOf, Expr.seqOf, charExpr, Expr.rests, CharSet.rests,
    CharSet.test]

theorem behindValue_escaped (t : Text) : behindValue ("%3D".toList ++ t) = afterValue t := by
  simp [behindValue, equalsExpr, Expr.altOf, Expr.seqOf, charExpr, Expr.rests, CharSet.rests,
    CharSet.test]

theorem behindValue_of_none {t : Text} (ht : ∀ c ∈ t.head?, c ≠ '=' ∧ c ≠ '%') :
    behindValue t = t := by
  cases t with
  | nil => rfl
  | cons c t =>
      obtain ⟨hequals, hpercent⟩ := ht c rfl
      simp [behindValue, equalsExpr, Expr.altOf, Expr.seqOf, charExpr, Expr.rests, CharSet.rests,
        CharSet.test, hequals, hpercent]

/-! ## Matches -/

theorem matchAt?_of_no_boundary {e behind : Expr}
    (hexpr : e = .seq (.group 0 boundaryExpr) behind)
    {index : Nat} {before : Option Char} {t : Text}
    (hnone : ∀ marks, boundaryExpr.outs ⟨index, before, t, marks⟩ = []) :
    e.matchAt? ⟨index, before, t, []⟩ = none := by
  have hgroup : (Expr.group 0 boundaryExpr).outs ((Spot.mk index before t []).mark 0) = [] := by
    rw [Expr.outs]
    exact congrArg (List.map _) (hnone _)
  rw [Expr.matchAt?, hexpr, Expr.outs, hgroup]
  rfl

section

variable {e name : Expr} (hlookless : name.lookless) {before : Option Char}
    {bound t : Text} {index : Nat}
  (houts : e.outs ((Spot.mk index before (bound ++ t) []).mark 0) =
    (name.outs ⟨index + bound.length, lastOr before bound, t,
      [(3, index + bound.length), (2, index), (0, index)]⟩).flatMap valueExpr.outs)

include hlookless houts

theorem matchAt?_eq_none_of_outs (hnone : name.rests t = []) :
    e.matchAt? ⟨index, before, bound ++ t, []⟩ = none := by
  have hrests := Expr.map_rest_outs hlookless
    ⟨index + bound.length, lastOr before bound, t,
      [(3, index + bound.length), (2, index), (0, index)]⟩
  rw [hnone] at hrests
  rw [Expr.matchAt?, houts, List.map_eq_nil_iff.1 hrests]
  rfl

/-- A match takes the boundary, what the name prefers to take, and the value behind it. -/
theorem matchAt?_eq_some_of_outs (hgroupless : name.lastGroup = 0) {u : Text}
    (hu : (name.rests t).head? = some u) :
    ∃ q, e.matchAt? ⟨index, before, bound ++ t, []⟩ = some q ∧ q.rest = behindValue u ∧
      (Match.mk index (bound ++ t) q.marks).group? 1 = some bound := by
  have hrests := Expr.map_rest_outs hlookless
    ⟨index + bound.length, lastOr before bound, t,
      [(3, index + bound.length), (2, index), (0, index)]⟩
  rw [← hrests, List.head?_map] at hu
  obtain ⟨o, ho, rfl⟩ := Option.map_eq_some_iff.1 hu
  have hvalue := head?_rests_value o.rest
  rw [← Expr.map_rest_outs (by decide) o, List.head?_map] at hvalue
  obtain ⟨v, hv, hrest⟩ := Option.map_eq_some_iff.1 hvalue
  have hmarks : v.marks = [(3, index + bound.length), (2, index), (0, index)] :=
    (Expr.marks_of_mem_outs (by decide) (List.mem_of_mem_head? hv)).trans
      (Expr.marks_of_mem_outs hgroupless (List.mem_of_mem_head? ho))
  obtain ⟨os, hos⟩ := List.head?_eq_some_iff.1 ho
  refine ⟨v.mark 1, ?_, hrest, ?_⟩
  · rw [Expr.matchAt?, houts, hos, List.flatMap_cons, List.head?_append, hv]
    rfl
  · simp [Match.group?, Match.position?, Spot.mark, hmarks]

end

namespace Names

variable {e name : Expr} (h : Names e name) {before : Option Char} {bound t : Text}
  (hbound : BoundAt before bound t) (ht : t.head? ≠ some '%') (index : Nat)

include h hbound ht

theorem outs_bound :
    e.outs ((Spot.mk index before (bound ++ t) []).mark 0) =
      (name.outs ⟨index + bound.length, lastOr before bound, t,
        [(3, index + bound.length), (2, index), (0, index)]⟩).flatMap valueExpr.outs := by
  obtain ⟨body, rfl, hbody⟩ := h.outs_behind
  obtain ⟨more, houts, hmore⟩ := hbound index [(2, index), (0, index)]
  have hgroup :
      (Expr.group 0 boundaryExpr).outs ((Spot.mk index before (bound ++ t) []).mark 0) =
      ⟨index + bound.length, lastOr before bound, t,
        [(3, index + bound.length), (2, index), (0, index)]⟩ :: more.map (·.mark 3) := by
    rw [Expr.outs]
    exact congrArg (List.map _) houts
  -- The other ways to begin lead to an ampersand, which no name takes.
  have hnothing : (more.map (·.mark 3)).flatMap (Expr.seq body valueExpr).outs = [] := by
    refine List.flatMap_eq_nil_iff.2 fun q hq => ?_
    obtain ⟨r, hr, rfl⟩ := List.mem_map.1 hq
    obtain ⟨rest, hrest⟩ := List.head?_eq_some_iff.1 (hmore r hr)
    have hrests := Expr.map_rest_outs h.lookless (r.mark 3)
    have hnone : name.rests ('&' :: rest) = [] :=
      Expr.rests_of_avoids h.lookless h.progresses h.takes (h.avoids '&' (.inl rfl)) rest
    rw [show (r.mark 3).rest = '&' :: rest from hrest, hnone] at hrests
    rw [Expr.outs, hbody _ (by simp [Spot.mark, hrest]), List.map_eq_nil_iff.1 hrests]
    rfl
  rw [Expr.outs, hgroup, List.flatMap_cons, hnothing, List.append_nil, Expr.outs, hbody _ ht]

theorem matchAt?_eq_none (hnone : name.rests t = []) :
    e.matchAt? ⟨index, before, bound ++ t, []⟩ = none :=
  matchAt?_eq_none_of_outs h.lookless (h.outs_bound hbound ht index) hnone

theorem matchAt?_eq_some {u : Text} (hu : (name.rests t).head? = some u) :
    ∃ q, e.matchAt? ⟨index, before, bound ++ t, []⟩ = some q ∧ q.rest = behindValue u ∧
      (Match.mk index (bound ++ t) q.marks).group? 1 = some bound :=
  matchAt?_eq_some_of_outs h.lookless (h.outs_bound hbound ht index) h.groupless hu

end Names

/-! ## Recognising field rules -/

/-- The expression of the name, without the escaped question mark in front. -/
def bareName : Expr → Expr
  | .seq mark name => if mark = escapedMark then name else .seq mark name
  | e => e

theorem eq_bareName (body : Expr) :
    body = bareName body ∨ body = .seq escapedMark (bareName body) := by
  cases body with
  | seq mark name =>
      by_cases hmark : mark = escapedMark
      · exact .inr (by rw [bareName, if_pos hmark, hmark])
      · exact .inl (by rw [bareName, if_neg hmark])
  | _ => exact .inl rfl

/-- The name of a field rule, if its expression is put together as that of a field rule is. -/
def fieldName? : Expr → Option Expr
  | .seq (.group 0 bound) (.seq body value) =>
    if bound = boundaryExpr ∧ value = valueExpr then some (bareName body) else none
  | _ => none

/-- The expression asks nothing about its place, has no groups, always takes something, and
takes nothing that separates fields or stands between name and value. -/
def isName (name : Expr) : Bool :=
  name.lookless && name.lastGroup == 0 && name.progresses && name.takesSomething
    && "&#?%=".toList.all fun c => name.avoids c

/-- The rule is for the fields that one expression names. -/
def namesFields (p : Pattern) : Bool :=
  (fieldName? p.regex.expr).any isName

theorem exists_names {p : Pattern} (h : p.namesFields) : ∃ name, Names p.regex.expr name := by
  unfold namesFields fieldName? at h
  split at h
  · next bound body value hexpr =>
    split at h
    · next hparts =>
      obtain ⟨rfl, rfl⟩ := hparts
      simp only [Option.any_some, isName, Bool.and_eq_true, beq_iff_eq, List.all_eq_true] at h
      obtain ⟨⟨⟨⟨hlookless, hgroupless⟩, hprogresses⟩, htakes⟩, havoids⟩ := h
      refine ⟨bareName body, ?_, hlookless, hgroupless, hprogresses, htakes, fun c hc => ?_⟩
      · rw [hexpr]
        rcases eq_bareName body with hbody | hbody
        · exact .inl (hbody ▸ rfl)
        · exact .inr (hbody ▸ rfl)
      · refine havoids c ?_
        simp only [separates, List.contains_iff_mem] at hc
        simp at hc ⊢
        grind
    · cases h
  · cases h

end Pattern

end PlainLink
