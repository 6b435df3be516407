/-
# What a field rule does to a list of fields

In a list as it stands in a query, a rule deletes each field whose name it takes whole,
and keeps the others as they are; what separates the fields stays.  In a list that
stands escaped in the value of another field this is so only up to the first field that
is deleted: the value of that field, which is read up to the next plain separator, goes
on to the end of the text.

`Walks` is the walk of a rule from inside a text.  A field is passed as a whole, in one
of two ways: behind a boundary its name is taken and the walk goes on behind its value,
or it is not, and the walk goes on behind the name.

Main statement: `Names.stripFields_join`.
-/
import PlainLink.Proofs.Regex.Span
import PlainLink.Proofs.Rule.FieldRule

namespace PlainLink

open Regex

/-- The preferred way of the expression takes the whole text. -/
def Regex.Expr.takesAll (e : Expr) (t : Text) : Bool :=
  (e.rests t).head? == some []

namespace Pattern

/-- What a field rule puts in the place of a match. -/
def fieldText (m : Match) : Text :=
  if endsField m.after then (m.group? 1).getD [] else m.taken

theorem fieldText_ofParts : OfParts fieldText := by
  intro m m' htaken hafter hgroup
  rw [fieldText, fieldText, htaken, hafter, hgroup]

theorem stripFields_eq (p : Pattern) (t : Text) :
    p.stripFields t = p.regex.replaceAll fieldText t := rfl

theorem stripFields_sublist (p : Pattern) (t : Text) : (p.stripFields t).Sublist t := by
  refine Regex.replaceAll_sublist (fun {m _ _} hspans => ?_) t
  split
  · exact hspans.group?_sublist 1
  · exact .refl _

/-- The walk of a field rule from inside a text. -/
def Walks (e : Expr) (t out : Text) : Prop :=
  ∀ index c, Rewrites e fieldText index (some c) t out

/-- The walk goes on behind a match.  The boundary is left of the match, or all of it if
no field ends there. -/
theorem rewrites_of_match {e : Expr} (htakes : e.takesSomething) {index : Nat}
    {before : Option Char} {bound text out : Text} {q : Spot}
    (hmatch : e.matchAt? ⟨index, before, text, []⟩ = some q)
    (hgroup : (Match.mk index text q.marks).group? 1 = some bound) (hwalk : Walks e q.rest out) :
    ∃ taken, text = taken ++ q.rest ∧
      Rewrites e fieldText index before text
        ((if endsField q.rest then bound else taken) ++ out) := by
  obtain ⟨taken, hto, hne⟩ := Expr.to_of_matchAt? hmatch
  obtain ⟨-, htaken, hafter⟩ := Match.parts_of_matchAt? hmatch hto
  have htext : fieldText ⟨index, text, q.marks⟩ = if endsField q.rest then bound else taken := by
    rw [fieldText, hafter, hgroup, htaken]
    rfl
  have hbefore : q.before = some (taken.getLast (hne htakes)) := by
    rw [hto.before, lastOr, List.getLast?_eq_some_getLast (hne htakes)]
    rfl
  refine ⟨taken, hto.rest, ?_⟩
  rw [← htext]
  refine .put hmatch ?_
  rw [hbefore]
  exact hwalk _ _

section

variable {e name : Expr} (h : Names e name)

include h

theorem Names.matchAt?_of_no_boundary {index : Nat} {before : Option Char} {t : Text}
    (hnone : ∀ marks, boundaryExpr.outs ⟨index, before, t, marks⟩ = []) :
    e.matchAt? ⟨index, before, t, []⟩ = none := by
  obtain ⟨body, hexpr, -⟩ := h.outs_behind
  exact Pattern.matchAt?_of_no_boundary hexpr hnone

/-! ## Text without boundaries -/

theorem walks_nil : Walks e [] [] := fun _ _ =>
  .stop (h.matchAt?_of_no_boundary fun _ => outs_boundary_eq_nil rfl (by simp))

theorem walks_keep {c : Char} (hc : ¬ separates c) {t out : Text} (hwalk : Walks e t out) :
    Walks e (c :: t) (c :: out) := fun index b =>
  .keep (h.matchAt?_of_no_boundary fun _ => outs_boundary_eq_nil rfl (by simpa using hc))
    (hwalk (index + 1) c)

theorem walks_append {front : Text} (hfront : ∀ c ∈ front, ¬ separates c) {t out : Text}
    (hwalk : Walks e t out) : Walks e (front ++ t) (front ++ out) := by
  induction front with
  | nil => exact hwalk
  | cons c front ih =>
      exact walks_keep h (hfront c List.mem_cons_self)
        (ih fun d hd => hfront d (List.mem_cons_of_mem _ hd))

theorem walks_escape {a b : Char} (ha : ¬ separates a) (hb : ¬ separates b)
    (hab : ¬ (a = '2' ∧ (b = '6' ∨ b = '3'))) {t out : Text} (hwalk : Walks e t out) :
    Walks e ('%' :: a :: b :: t) ('%' :: a :: b :: out) := by
  intro index c
  refine .keep (h.matchAt?_of_no_boundary fun marks => ?_)
    (walks_keep h ha (walks_keep h hb hwalk) _ _)
  by_cases h2 : a = '2'
  · have hb' : b ≠ '6' ∧ b ≠ '3' := by simpa [h2] using hab
    simp [boundaryExpr, Expr.altOf, Expr.seqOf, charExpr, Expr.outs, Spot.take, CharSet.test,
      Spot.ask, Look.holds, h2, hb']
  · simp [boundaryExpr, Expr.altOf, Expr.seqOf, charExpr, Expr.outs, Spot.take, CharSet.test,
      Spot.ask, Look.holds, h2]

/-! ## A field -/

/-- Where the name takes something behind a boundary, the walk goes on behind the value. -/
theorem Names.rewrites_of_head {before : Option Char} {bound t u out : Text}
    (hbound : BoundAt before bound t) (hpercent : t.head? ≠ some '%')
    (hu : (name.rests t).head? = some u) (hwalk : Walks e (behindValue u) out) (index : Nat) :
    ∃ taken, bound ++ t = taken ++ behindValue u ∧
      Rewrites e fieldText index before (bound ++ t)
        ((if endsField (behindValue u) then bound else taken) ++ out) := by
  obtain ⟨q, hmatch, hrest, hgroup⟩ := h.matchAt?_eq_some hbound hpercent index hu
  exact hrest ▸ rewrites_of_match h.expr_takes hmatch hgroup (hrest ▸ hwalk)

end

/-- The text begins with a character that no name takes, if it is not empty. -/
def BehindName (t : Text) : Prop :=
  ∀ c ∈ t.head?, separates c ∨ c = '='

/-- The text holds no separator and no equals sign. -/
def Plain (t : Text) : Prop :=
  ∀ c ∈ t, ¬ separates c ∧ c ≠ '='

instance (t : Text) : Decidable (Plain t) :=
  List.decidableBAll _ t

theorem not_endsField_cons {c : Char} (hc : ¬ separates c) (t : Text) :
    ¬ endsField (c :: t) := by
  have hne : c ≠ '&' ∧ c ≠ '#' ∧ c ≠ '?' ∧ c ≠ '%' := by simpa [separates] using hc
  intro hends
  unfold endsField at hends
  split at hends <;> simp_all

section

variable {e name : Expr} (h : Names e name) {n tail : Text} (htail : BehindName tail)

include h htail

/-- What a name leaves of a text depends on the text up to the first
character that it avoids. -/
theorem Names.rests_append : name.rests (n ++ tail) = (name.rests n).map (· ++ tail) := by
  cases tail with
  | nil => simp
  | cons c tail =>
      exact Expr.rests_append h.lookless h.progresses (h.avoids c (htail c rfl)) n tail

variable {index : Nat} {before : Option Char} {bound out : Text}
  (hbound : BoundAt before bound (n ++ tail)) (hpercent : (n ++ tail).head? ≠ some '%')

include hbound hpercent

theorem Names.rewrites_deleted (hall : name.takesAll n) (hends : endsField (behindValue tail))
    (hwalk : Walks e (behindValue tail) out) :
    Rewrites e fieldText index before (bound ++ (n ++ tail)) (bound ++ out) := by
  have hhead : (name.rests (n ++ tail)).head? = some tail := by
    rw [h.rests_append htail, List.head?_map, beq_iff_eq.1 hall]
    rfl
  obtain ⟨taken, -, hwalks⟩ := h.rewrites_of_head hbound hpercent hhead hwalk index
  rwa [if_pos hends] at hwalks

/-- A field whose name is not taken whole is kept: it is not matched at all, or the match
ends inside the name. -/
theorem Names.rewrites_kept (hn : Plain n) (hall : ¬ name.takesAll n) (hwalk : Walks e tail out)
    (hnone : e.matchAt? ⟨index, before, bound ++ (n ++ tail), []⟩ = none →
      Rewrites e fieldText index before (bound ++ (n ++ tail)) (bound ++ (n ++ out))) :
    Rewrites e fieldText index before (bound ++ (n ++ tail)) (bound ++ (n ++ out)) := by
  cases hrests : name.rests n with
  | nil =>
      refine hnone (h.matchAt?_eq_none hbound hpercent index ?_)
      rw [h.rests_append htail, hrests]
      rfl
  | cons u us =>
      have hhead : (name.rests (n ++ tail)).head? = some (u ++ tail) := by
        rw [h.rests_append htail, hrests]
        rfl
      have hu : u <:+ n := Expr.suffix_of_mem_rests h.lookless (hrests ▸ List.mem_cons_self)
      cases u with
      | nil => exact absurd (by rw [Expr.takesAll, hrests]; rfl) hall
      | cons d u =>
          obtain ⟨hseparates, hequals⟩ := hn d (hu.subset List.mem_cons_self)
          have hbehind : behindValue (d :: u ++ tail) = d :: u ++ tail := by
            refine behindValue_of_none fun c hc => ?_
            obtain rfl : d = c := Option.some.inj hc
            exact ⟨hequals, fun hd => hseparates (hd ▸ rfl)⟩
          have hkeep : Walks e (d :: u ++ tail) (d :: u ++ out) :=
            walks_append h (fun c hc => (hn c (hu.subset hc)).1) hwalk
          rw [← hbehind] at hkeep
          obtain ⟨taken, htext, hwalks⟩ := h.rewrites_of_head hbound hpercent hhead hkeep index
          obtain ⟨front, hfront⟩ := hu
          have hinside : ¬ endsField (d :: u ++ tail) :=
            not_endsField_cons hseparates (u ++ tail)
          rw [hbehind, if_neg hinside] at hwalks
          rw [hbehind, ← hfront] at htext
          obtain rfl : bound ++ front = taken := by
            have hcut : bound ++ front ++ (d :: u ++ tail) = taken ++ (d :: u ++ tail) := by
              rw [← htext]
              simp
            exact List.append_cancel_right hcut
          simpa [← hfront] using hwalks

end

/-! ## Lists as they stand in a query -/

/-- The name of a segment: the text up to the first equals sign. -/
def nameOf (segment : Text) : Text :=
  segment.takeWhile (· != '=')

theorem plain_nameOf {segment : Text} (h : ∀ c ∈ segment, ¬ separates c) :
    Plain (nameOf segment) :=
  fun c hc =>
    ⟨h c (List.takeWhile_subset _ hc), by simpa using List.all_eq_true.1 List.all_takeWhile c hc⟩

theorem nameOf_append {n : Text} (hn : Plain n) (value : Text) :
    nameOf (n ++ '=' :: value) = n := by
  rw [nameOf, List.takeWhile_append_of_pos fun c hc => by simpa using (hn c hc).2]
  simp

/-- A segment without the field that the rule deletes. -/
def stripSegment (name : Expr) (segment : Text) : Text :=
  if name.takesAll (nameOf segment) then [] else segment

/-- What stands behind a segment: nothing, or an ampersand. -/
def BehindSegment (t : Text) : Prop :=
  ∀ c ∈ t.head?, c = '&'

theorem BehindSegment.endsField {t : Text} (ht : BehindSegment t) : endsField t := by
  cases t with
  | nil => rfl
  | cons c t =>
      obtain rfl := ht c rfl
      rfl

theorem behindSegment_flatMap (segments : List Text) :
    BehindSegment (segments.flatMap ('&' :: ·)) := by
  intro c hc
  cases segments with
  | nil => cases hc
  | cons s segments => exact (Option.some.inj hc).symm

theorem valueSet_test {c : Char} (hc : ¬ separates c) : valueSet.test c := by
  have hne : c ≠ '&' ∧ c ≠ '#' ∧ c ≠ '?' ∧ c ≠ '%' := by simpa [separates] using hc
  simp [valueSet, CharSet.test, hne]

theorem afterValue_append {value t : Text} (hvalue : ∀ c ∈ value, ¬ separates c)
    (ht : BehindSegment t) : afterValue (value ++ t) = t := by
  rw [afterValue, List.dropWhile_append_of_pos fun c hc => valueSet_test (hvalue c hc)]
  cases t with
  | nil => rfl
  | cons c t =>
      obtain rfl := ht c rfl
      rfl

theorem exists_value (s : Text) :
    ∃ value, s = nameOf s ++ value ∧ ∀ c ∈ value.head?, c = '=' := by
  refine ⟨s.dropWhile (· != '='), List.takeWhile_append_dropWhile.symm, fun c hc => ?_⟩
  have hhead := List.head?_dropWhile_not (· != '=') s
  simp_all

theorem behindValue_append {value t : Text} (hvalue : ∀ c ∈ value, ¬ separates c)
    (hequals : ∀ c ∈ value.head?, c = '=') (ht : BehindSegment t) :
    behindValue (value ++ t) = t := by
  cases value with
  | nil =>
      refine behindValue_of_none fun c hc => ?_
      obtain rfl := ht c hc
      decide
  | cons d value =>
      obtain rfl := hequals d rfl
      rw [List.cons_append, behindValue_equals,
        afterValue_append (fun c hc => hvalue c (List.mem_cons_of_mem _ hc)) ht]

section

variable {e name : Expr} (h : Names e name)

include h

/-- A segment behind a boundary is left empty or as it is, and the walk goes on behind it. -/
theorem Names.rewrites_segment {s t out : Text} (hs : ∀ c ∈ s, ¬ separates c)
    (ht : BehindSegment t) (hwalk : Walks e t out) {index : Nat} {before : Option Char}
    {bound : Text} (hbound : BoundAt before bound (s ++ t))
    (hnone : e.matchAt? ⟨index, before, bound ++ (s ++ t), []⟩ = none →
      Rewrites e fieldText index before (bound ++ (s ++ t)) (bound ++ (s ++ out))) :
    Rewrites e fieldText index before (bound ++ (s ++ t))
      (bound ++ (stripSegment name s ++ out)) := by
  have hn := plain_nameOf hs
  obtain ⟨value, hsplit, hequals⟩ := exists_value s
  rw [stripSegment]
  generalize nameOf s = n at hn hsplit ⊢
  subst hsplit
  rw [List.append_assoc] at hbound hnone ⊢
  have hvalue : ∀ c ∈ value, ¬ separates c := fun c hc => hs c (List.mem_append_right _ hc)
  have htail : BehindName (value ++ t) := by
    intro c hc
    cases value with
    | nil => exact .inl (ht c hc ▸ rfl)
    | cons d value => exact .inr (hequals c hc)
  have hpercent : (n ++ (value ++ t)).head? ≠ some '%' := by
    intro hhead
    cases n with
    | cons d n => exact (hn d List.mem_cons_self).1 (Option.some.inj hhead ▸ rfl)
    | nil =>
        cases value with
        | cons d value => exact hvalue d List.mem_cons_self (Option.some.inj hhead ▸ rfl)
        | nil => exact absurd (ht _ hhead) (by decide)
  split
  · next hall =>
    have hbehind : behindValue (value ++ t) = t := behindValue_append hvalue hequals ht
    refine h.rewrites_deleted htail hbound hpercent hall ?_ ?_
    · rw [hbehind]
      exact ht.endsField
    · rw [hbehind]
      exact hwalk
  · next hall =>
    rw [List.append_assoc] at hnone ⊢
    exact h.rewrites_kept htail hbound hpercent hn hall (walks_append h hvalue hwalk) hnone

theorem Names.rewrites_ampersand {s t out : Text} (hs : ∀ c ∈ s, ¬ separates c)
    (ht : BehindSegment t) (hwalk : Walks e t out) (index : Nat) (before : Option Char) :
    Rewrites e fieldText index before ('&' :: (s ++ t)) ('&' :: (stripSegment name s ++ out)) :=
  h.rewrites_segment hs ht hwalk (boundAt_ampersand before _) fun hnone =>
    .keep hnone (walks_append h hs hwalk _ _)

theorem Names.walks_segments {segments : List Text}
    (hsegments : ∀ s ∈ segments, ∀ c ∈ s, ¬ separates c) :
    Walks e (segments.flatMap ('&' :: ·)) (segments.flatMap ('&' :: stripSegment name ·)) := by
  induction segments with
  | nil => exact walks_nil h
  | cons s segments ih =>
      exact fun index c => h.rewrites_ampersand (hsegments s List.mem_cons_self)
        (behindSegment_flatMap segments)
        (ih fun s hs => hsegments s (List.mem_cons_of_mem _ hs)) index (some c)

theorem Names.matchAt?_nil (index : Nat) : e.matchAt? ⟨index, none, [], []⟩ = none :=
  h.matchAt?_eq_none (boundAt_start (t := []) (by simp)) (by simp) index
    (Expr.rests_nil h.lookless h.takes)

end

theorem join_cons (sep s : Text) (segments : List Text) :
    Text.join sep (s :: segments) = s ++ segments.flatMap (sep ++ ·) := by
  induction segments generalizing s with
  | nil => simp [Text.join]
  | cons s' segments ih => simp [Text.join, ih]

theorem join_ampersand (s : Text) (segments : List Text) :
    Text.join ['&'] (s :: segments) = s ++ segments.flatMap ('&' :: ·) :=
  join_cons ['&'] s segments

theorem stripSegment_nil (name : Expr) : stripSegment name [] = [] := by
  rw [stripSegment]
  split <;> rfl

/-- In a list as it stands in a query, the rule deletes each field whose name it takes
whole, and nothing else. -/
theorem Names.stripFields_join {p : Pattern} {name : Expr} (h : Names p.regex.expr name)
    {segments : List Text} (hsegments : ∀ s ∈ segments, ∀ c ∈ s, ¬ separates c) :
    p.stripFields (Text.join ['&'] segments) =
      Text.join ['&'] (segments.map (stripSegment name)) := by
  refine Rewrites.replaceAll_eq h.expr_progresses h.expr_takes fieldText_ofParts ?_
  cases segments with
  | nil => exact .stop (h.matchAt?_nil 0)
  | cons s segments =>
      obtain ⟨hs, hmore⟩ := List.forall_mem_cons.1 hsegments
      rw [List.map_cons, join_ampersand, join_ampersand, List.flatMap_map]
      cases s with
      | cons c s =>
          obtain ⟨hc, hs'⟩ := List.forall_mem_cons.1 hs
          refine h.rewrites_segment hs (behindSegment_flatMap segments) (h.walks_segments hmore)
            (boundAt_start fun d hd => ?_) fun hnone => .keep hnone ?_
          · obtain rfl : c = d := Option.some.inj hd
            exact hc
          · exact walks_append h hs' (h.walks_segments hmore) _ _
      | nil =>
          rw [stripSegment_nil]
          cases segments with
          | nil => exact .stop (h.matchAt?_nil 0)
          | cons s segments =>
              obtain ⟨hs, hmore⟩ := List.forall_mem_cons.1 hmore
              exact h.rewrites_ampersand hs (behindSegment_flatMap segments)
                (h.walks_segments hmore) 0 none

/-! ## Lists that stand escaped in a value -/

/-- A field as it stands in a query. -/
def plainField (field : Text × Text) : Text :=
  field.1 ++ '=' :: field.2

/-- A field as it stands escaped in a value. -/
def escapedField (field : Text × Text) : Text :=
  field.1 ++ ("%3D".toList ++ field.2)

/-- A field that has a name, and no separator or equals sign in name and value. -/
structure PlainField (field : Text × Text) : Prop where
  name_ne : field.1 ≠ []
  name : Plain field.1
  value : Plain field.2

instance (field : Text × Text) : Decidable (PlainField field) :=
  decidable_of_iff (field.1 ≠ [] ∧ Plain field.1 ∧ Plain field.2)
    ⟨fun ⟨hne, hname, hvalue⟩ => ⟨hne, hname, hvalue⟩, fun h => ⟨h.name_ne, h.name, h.value⟩⟩

theorem PlainField.head?_ne {field : Text × Text} (h : PlainField field) (t : Text) :
    (field.1 ++ t).head? ≠ some '%' := by
  intro hhead
  obtain ⟨c, n, hn⟩ := List.exists_cons_of_ne_nil h.name_ne
  rw [hn] at hhead
  exact (h.name c (hn ▸ List.mem_cons_self)).1 (Option.some.inj hhead ▸ rfl)

/-- The walk keeps the text, whatever follows. -/
def Passes (e : Expr) (t : Text) : Prop :=
  ∀ rest out, Walks e rest out → Walks e (t ++ rest) (t ++ out)

theorem Passes.append {e : Expr} {s t : Text} (hs : Passes e s) (ht : Passes e t) :
    Passes e (s ++ t) := by
  intro rest out hwalk
  rw [List.append_assoc, List.append_assoc]
  exact hs _ _ (ht _ _ hwalk)

theorem Passes.flatMap {α : Type} {e : Expr} {f : α → Text} {xs : List α}
    (hxs : ∀ x ∈ xs, Passes e (f x)) : Passes e (xs.flatMap f) := by
  induction xs with
  | nil => exact fun _ _ hwalk => hwalk
  | cons x xs ih =>
      exact (hxs x List.mem_cons_self).append (ih fun y hy => hxs y (List.mem_cons_of_mem _ hy))

section

variable {e name : Expr} (h : Names e name) {field : Text × Text} (hfield : PlainField field)

include h hfield

theorem Names.passes_field (hall : ¬ name.takesAll field.1) :
    Passes e ("%26".toList ++ escapedField field) := by
  intro t out hwalk index c
  have htail : BehindName ("%3D".toList ++ (field.2 ++ t)) :=
    fun c hc => .inl (Option.some.inj hc ▸ rfl)
  have hrest : Walks e ("%3D".toList ++ (field.2 ++ t)) ("%3D".toList ++ (field.2 ++ out)) :=
    walks_escape h (by decide) (by decide) (by decide)
      (walks_append h (fun c hc => (hfield.value c hc).1) hwalk)
  have hkept : Rewrites e fieldText index (some c) _ _ :=
    h.rewrites_kept htail (boundAt_escaped c _)
      (hfield.head?_ne _) hfield.name hall hrest fun hnone =>
      .keep hnone (walks_keep h (by decide) (walks_keep h (by decide)
        (walks_append h (fun c hc => (hfield.name c hc).1) hrest)) _ _)
  simpa [escapedField] using hkept

/-- With an escaped field whose name is taken whole all the rest of the value is deleted. -/
theorem Names.walks_deleted {t : Text} (hall : name.takesAll field.1)
    (ht : ∀ c ∈ field.2 ++ t, valueSet.test c) :
    Walks e ("%26".toList ++ escapedField field ++ t) "%26".toList := by
  intro index c
  have htail : BehindName ("%3D".toList ++ (field.2 ++ t)) :=
    fun c hc => .inl (Option.some.inj hc ▸ rfl)
  have hbehind : behindValue ("%3D".toList ++ (field.2 ++ t)) = [] := by
    rw [behindValue_escaped]
    rw [← List.append_nil (field.2 ++ t), afterValue, List.dropWhile_append_of_pos ht]
    rfl
  have hdeleted : Rewrites e fieldText index (some c) _ ("%26".toList ++ []) :=
    h.rewrites_deleted htail (boundAt_escaped c _) (hfield.head?_ne _) hall (hbehind ▸ rfl)
      (hbehind ▸ walks_nil h)
  simpa [escapedField] using hdeleted

end

section

variable {p : Pattern} {name : Expr} (h : Names p.regex.expr name)

include h

theorem Names.walks_ampersand : Walks p.regex.expr "%26".toList "%26".toList := by
  intro index c
  have hnone : name.rests [] = [] := Expr.rests_nil h.lookless h.takes
  exact .keep (h.matchAt?_eq_none (boundAt_escaped c []) (by simp) index hnone)
    (walks_keep h (by decide) (walks_keep h (by decide) (walks_nil h)) _ _)

/-- A field whose name is not taken whole is kept in front of its value, and the walk
goes on in the value. -/
theorem Names.stripFields_value {n value out : Text} (hne : n ≠ []) (hn : Plain n)
    (hall : ¬ name.takesAll n) (hwalk : Walks p.regex.expr value out) :
    p.stripFields (n ++ '=' :: value) = n ++ '=' :: out := by
  have hrest : Walks p.regex.expr ('=' :: value) ('=' :: out) := walks_keep h (by decide) hwalk
  have htail : BehindName ('=' :: value) := fun c hc => .inr (Option.some.inj hc).symm
  obtain ⟨c, n, rfl⟩ := List.exists_cons_of_ne_nil hne
  obtain ⟨hc, hn'⟩ := List.forall_mem_cons.1 hn
  refine Rewrites.replaceAll_eq h.expr_progresses h.expr_takes fieldText_ofParts ?_
  show Rewrites p.regex.expr fieldText 0 none ([] ++ (c :: n ++ '=' :: value))
    ([] ++ (c :: n ++ '=' :: out))
  refine h.rewrites_kept htail (boundAt_start fun d hd => ?_) (fun hhead => ?_) hn hall
    hrest fun hnone => .keep hnone ?_
  · exact Option.some.inj hd ▸ hc.1
  · exact hc.1 (Option.some.inj hhead ▸ rfl)
  · exact walks_append h (fun d hd => (hn' d hd).1) hrest _ _

end

end Pattern

end PlainLink
