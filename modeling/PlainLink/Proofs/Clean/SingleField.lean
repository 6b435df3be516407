/-
# Field rules on a single field

Some rules name fields by more than plain characters, such as an escaped bracket.  In a
list, where a name may take a separator, little can be said of them.  A field that
stands alone has no separators, and there they do what all field rules do: by its name
they delete the field, or leave it as it is.  All that this takes of a rule is that its
names have no equals sign.

Main statement: `NamesLoosely.judgesByName`.
-/
import PlainLink.Proofs.Clean.Tracking

namespace PlainLink

open Regex

namespace Pattern

/-! ## Loose names -/

/-- The expression is that of a rule for the fields that `name` names, which may take
separators but no equals sign. -/
structure NamesLoosely (e name : Expr) : Prop where
  expr : e = .seq (.group 0 boundaryExpr) (.seq name valueExpr)
  lookless : name.lookless
  groupless : name.lastGroup = 0
  progresses : name.progresses
  takes : name.takesSomething
  avoids : name.avoids '='

/-- The rule is for the fields that one expression names, separators or not. -/
def namesLoosely (p : Pattern) : Bool :=
  match p.regex.expr with
  | .seq (.group 0 bound) (.seq name value) =>
    decide (bound = boundaryExpr ∧ value = valueExpr) && name.lookless && name.lastGroup == 0
      && name.progresses && name.takesSomething && name.avoids '='
  | _ => false

theorem exists_namesLoosely {p : Pattern} (h : p.namesLoosely) :
    ∃ name, NamesLoosely p.regex.expr name := by
  unfold namesLoosely at h
  split at h
  · next bound name value hexpr =>
    simp only [Bool.and_eq_true, decide_eq_true_eq, beq_iff_eq] at h
    obtain ⟨⟨⟨⟨⟨⟨rfl, rfl⟩, hlookless⟩, hgroupless⟩, hprogresses⟩, htakes⟩, havoids⟩ := h
    exact ⟨name, hexpr, hlookless, hgroupless, hprogresses, htakes, havoids⟩
  · cases h

/-- A text without separators is kept from inside on: each match begins with one. -/
theorem walks_self {e behind : Expr} (hexpr : e = .seq (.group 0 boundaryExpr) behind) {t : Text}
    (ht : ∀ c ∈ t, ¬ separates c) : Walks e t t := by
  induction t with
  | nil =>
      exact fun _ _ => .stop (matchAt?_of_no_boundary hexpr fun _ =>
        outs_boundary_eq_nil rfl (by simp))
  | cons c t ih =>
      obtain ⟨hc, ht⟩ := List.forall_mem_cons.1 ht
      intro index before
      have hnone : e.matchAt? ⟨index, some before, c :: t, []⟩ = none :=
        matchAt?_of_no_boundary hexpr fun _ => outs_boundary_eq_nil rfl (by simpa using hc)
      exact .keep hnone (ih ht (index + 1) c)

namespace NamesLoosely

section

variable {e name : Expr} (h : NamesLoosely e name)

include h

theorem expr_progresses : e.progresses := by
  rw [h.expr]
  simp [Expr.progresses, h.progresses, boundaryExpr, valueExpr, equalsExpr,
    Expr.altOf, Expr.seqOf, charExpr, Expr.takesSomething]

theorem expr_takes : e.takesSomething := by
  rw [h.expr]
  simp [Expr.takesSomething, h.takes]

theorem rests_append {value : Text} (hvalue : ∀ c ∈ value.head?, c = '=') (n : Text) :
    name.rests (n ++ value) = (name.rests n).map (· ++ value) := by
  cases value with
  | nil => simp
  | cons c value =>
      obtain rfl := hvalue c rfl
      exact Expr.rests_append h.lookless h.progresses h.avoids n value

variable {t : Text} (ht : ∀ c ∈ t, ¬ separates c)

include ht

/-- At the beginning of a field, only the name stands between the place of a
match and the value. -/
theorem outs_start :
    e.outs ((Spot.mk 0 none ([] ++ t) []).mark 0) =
      (name.outs ⟨0, none, t, [(3, 0), (2, 0), (0, 0)]⟩).flatMap valueExpr.outs := by
  have hhead : ∀ c ∈ t.head?, ¬ separates c := by
    intro c hc
    exact ht c (List.mem_of_mem_head? hc)
  have hgroup : (Expr.group 0 boundaryExpr).outs ((Spot.mk 0 none t []).mark 0) =
      [⟨0, none, t, [(3, 0), (2, 0), (0, 0)]⟩] := by
    rw [Expr.outs]
    exact congrArg (List.map _) (outs_boundary_start hhead 0 [(2, 0), (0, 0)])
  rw [List.nil_append, h.expr, Expr.outs, hgroup, List.flatMap_singleton]
  rfl

theorem matchAt?_eq_none (hnone : name.rests t = []) : e.matchAt? ⟨0, none, t, []⟩ = none := by
  have hmatch := matchAt?_eq_none_of_outs h.lookless (h.outs_start ht) hnone
  exact hmatch

theorem matchAt?_eq_some {u : Text} (hu : (name.rests t).head? = some u) :
    ∃ q, e.matchAt? ⟨0, none, t, []⟩ = some q ∧ q.rest = behindValue u ∧
      (Match.mk 0 t q.marks).group? 1 = some [] := by
  have hmatch := matchAt?_eq_some_of_outs h.lookless (h.outs_start ht) h.groupless hu
  exact hmatch

theorem rewrites_of_none (hnone : e.matchAt? ⟨0, none, t, []⟩ = none) :
    Rewrites e fieldText 0 none t t := by
  cases t with
  | nil => exact .stop hnone
  | cons c t => exact .keep hnone (walks_self h.expr (List.forall_mem_cons.1 ht).2 _ _)

/-- A field that is matched goes up to the value that the match ends with, or stays if the
match ends inside the field. -/
theorem rewrites_of_head {u rest : Text} (hu : (name.rests t).head? = some u)
    (hbehind : behindValue u = rest) (hsuffix : rest <:+ t) :
    Rewrites e fieldText 0 none t (if rest = [] then [] else t) := by
  obtain ⟨q, hmatch, rfl, hgroup⟩ := hbehind ▸ h.matchAt?_eq_some ht hu
  have hplain : ∀ c ∈ q.rest, ¬ separates c := by
    intro c hc
    exact ht c (hsuffix.subset hc)
  obtain ⟨taken, htext, hwalk⟩ :=
    rewrites_of_match h.expr_takes hmatch hgroup (walks_self h.expr hplain)
  cases hq : q.rest with
  | nil =>
      rw [hq, if_pos (show endsField [] from rfl)] at hwalk
      rwa [if_pos rfl]
  | cons c rest =>
      rw [hq] at hplain htext hwalk
      rw [if_neg (not_endsField_cons (hplain c List.mem_cons_self) rest), ← htext] at hwalk
      rwa [if_neg (List.cons_ne_nil c rest)]

end

/-! ## One field -/

section

variable {p : Pattern} {name : Expr} (h : NamesLoosely p.regex.expr name)

include h

theorem stripFields_segment {s : Text} (hs : ∀ c ∈ s, ¬ separates c) :
    p.stripFields s = stripSegment name s := by
  refine Rewrites.replaceAll_eq h.expr_progresses h.expr_takes fieldText_ofParts ?_
  have hn := plain_nameOf hs
  obtain ⟨value, hsplit, hequals⟩ := exists_value s
  rw [stripSegment]
  generalize nameOf s = n at hn hsplit ⊢
  subst hsplit
  have hrests := h.rests_append hequals n
  cases hname : name.rests n with
  | nil =>
      rw [hname, List.map_nil] at hrests
      rw [if_neg (by simp [Expr.takesAll, hname])]
      exact h.rewrites_of_none hs (h.matchAt?_eq_none hs hrests)
  | cons u us =>
      have hu : u <:+ n := Expr.suffix_of_mem_rests h.lookless (hname ▸ List.mem_cons_self)
      have hhead : (name.rests (n ++ value)).head? = some (u ++ value) := by
        rw [hrests, hname]
        rfl
      -- What the preferred way leaves of the name decides: nothing, or a part that no value
      -- begins.
      cases u with
      | nil =>
          have hbehind : behindValue value = [] := by
            have hnil : BehindSegment [] := fun c hc => absurd hc (Option.not_mem_none c)
            rw [← behindValue_append
              (fun c hc => hs c (List.mem_append_right n hc)) hequals hnil,
              List.append_nil]
          have hwalk := h.rewrites_of_head hs hhead hbehind List.nil_suffix
          rw [if_pos rfl] at hwalk
          rwa [if_pos (by simp [Expr.takesAll, hname])]
      | cons d u =>
          obtain ⟨hseparates, hd⟩ := hn d (hu.subset List.mem_cons_self)
          have hbehind : behindValue (d :: u ++ value) = d :: u ++ value := by
            refine behindValue_of_none fun c hc => ?_
            obtain rfl : d = c := Option.some.inj hc
            exact ⟨hd, fun hpercent => hseparates (hpercent ▸ rfl)⟩
          have hsuffix : d :: u ++ value <:+ n ++ value := by
            obtain ⟨front, rfl⟩ := hu
            exact ⟨front, (List.append_assoc _ _ _).symm⟩
          have hwalk := h.rewrites_of_head hs hhead hbehind hsuffix
          rw [List.cons_append, if_neg (List.cons_ne_nil d _)] at hwalk
          rwa [if_neg (by simp [Expr.takesAll, hname])]

theorem judgesByName : p.JudgesByName :=
  judgesByName_of_stripSegment fun _ => h.stripFields_segment

end

end NamesLoosely

end Pattern

end PlainLink
