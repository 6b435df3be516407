/-
# Fields that survive their rule

A rule names a field in full if it may take the whole name, but what it takes first may
be less.  Then the match ends inside the field, the check behind the match puts back
what was taken, and the search goes on behind it: the field stays, though the rule names
it.

Whatever the rule is, nothing else keeps a field that it names.  This is followed along
a list, segment by segment: a match begins where a named segment does or before it,
since the search leaves no place out; it ends inside a segment, and then all that it ran
into is kept, or at the end of one, and then all of that is deleted together.

That a rule names a field in full is told by the remainders of the name, and comes to
the same as that the rule, between the signs for the beginning and the end of a text,
finds a match in it (`isMatch_inFull`).

Main statement: `stripFields_survivor`.
-/
import PlainLink.Proofs.Rule.Boundary
import PlainLink.Proofs.Rule.Completed

namespace PlainLink

open Regex

namespace Pattern

variable {e : Expr} {p : Pattern}

/-! ## Lists of segments -/

/-- The text of the segments behind the first one. -/
def behindFirst (segments : List Text) : Text :=
  segments.flatMap ('&' :: ·)

theorem cut_segments {s u t : Text} {segments : List Text}
    (h : s ++ behindFirst segments = u ++ t) :
    ∃ front back v, segments = front ++ back ∧ t = v ++ behindFirst back ∧
      v <:+ front.getLastD s := by
  -- On the segments: the cut is inside the first one, or it cuts what stands behind it.
  induction segments generalizing s u with
  | nil =>
      refine ⟨[], [], t, rfl, (List.append_nil t).symm, u, ?_⟩
      rw [← h]
      exact List.append_nil s
  | cons s' segments ih =>
      have hcons : s ++ '&' :: (s' ++ behindFirst segments) = u ++ t := h
      rcases List.append_eq_append_iff.1 hcons with ⟨a, rfl, ha⟩ | ⟨v, rfl, hv⟩
      · cases a with
        | nil => exact ⟨[], s' :: segments, [], rfl, ha.symm, List.nil_suffix⟩
        | cons c a =>
            obtain ⟨front, back, v, rfl, ht, hv⟩ := ih (List.cons.inj ha).2
            exact ⟨s' :: front, back, v, rfl, ht, List.getLastD_cons.symm ▸ hv⟩
      · exact ⟨[], s' :: segments, v, rfl, hv, u, rfl⟩

/-- The match begins not behind the beginning of the text `tail`, and ends in
it, inside a field. -/
structure EndsInside (m : Match) (tail : Text) : Prop where
  begins : tail <:+ m.taken ++ m.after
  reaches : m.after <:+ tail
  inside : ¬ endsField m.after

/-- The match begins not behind the beginning of the text `field`, and goes on over all of it,
to the end of a field in the text `behind` that follows. -/
structure TakesWhole (m : Match) (field behind : Text) : Prop where
  begins : field ++ behind <:+ m.taken ++ m.after
  reaches : m.after <:+ behind
  ends : endsField m.after

/-- What is left of a list of segments, where `found` are the matches that were found.  A
segment is kept only if its name is not matched in full, or if a match that was found
runs into it and ends inside a field.  Segments one after the other that a match took are
left empty together. -/
inductive Thinned (e : Expr) (found : List Match) : List Text → List Text → Prop
  | nil : Thinned e found [] []
  | kept {s : Text} {segments out : List Text} :
      ([] ∈ e.rests (nameOf s) → ∃ m ∈ found, EndsInside m (Text.join ['&'] (s :: segments))) →
        Thinned e found segments out → Thinned e found (s :: segments) (s :: out)
  | deleted {s : Text} {block segments out : List Text} {m : Match} :
      m ∈ found → Text.join ['&'] (s :: block ++ segments) <:+ m.taken ++ m.after →
        m.after = behindFirst segments → Thinned e found segments out →
          Thinned e found (s :: block ++ segments) ([] :: out)

theorem join_eq_append_behindFirst (s : Text) (segments : List Text) :
    Text.join ['&'] (s :: segments) = s ++ behindFirst segments :=
  join_ampersand s segments

theorem behindFirst_append (front back : List Text) :
    behindFirst (front ++ back) = behindFirst front ++ behindFirst back :=
  List.flatMap_append

theorem join_suffix (s : Text) (front back : List Text) :
    Text.join ['&'] (s :: back) <:+ Text.join ['&'] (front ++ s :: back) := by
  rw [join_eq_append_behindFirst]
  cases front with
  | nil => exact join_eq_append_behindFirst s back ▸ List.suffix_refl _
  | cons s' front =>
      rw [List.cons_append, join_eq_append_behindFirst, behindFirst_append]
      exact ⟨s' ++ behindFirst front ++ ['&'], by simp [behindFirst]⟩

/-- The text ends a field only where the segments behind the first one begin. -/
theorem endsField_append_behindFirst {v : Text} (hv : ∀ c ∈ v, ¬ separates c)
    (segments : List Text) :
    endsField (v ++ behindFirst segments) ↔ v = [] := by
  cases v with
  | nil => exact iff_of_true (behindSegment_flatMap segments).endsField rfl
  | cons c v =>
      exact iff_of_false (not_endsField_cons (hv c List.mem_cons_self) _) (List.cons_ne_nil _ _)

namespace Thinned

variable {found found' : List Match} {s : Text} {segments out front back : List Text} {m : Match}

theorem mono (h : Thinned e found segments out) (hsub : found ⊆ found') :
    Thinned e found' segments out := by
  induction h with
  | nil => exact .nil
  | kept hs _ ih =>
      exact .kept (fun hnamed => (hs hnamed).imp fun _ ⟨hm, hends⟩ => ⟨hsub hm, hends⟩) ih
  | deleted hm htaken hafter _ ih => exact .deleted (hsub hm) htaken hafter ih

theorem unnamed (hfront : ∀ s ∈ front, [] ∉ e.rests (nameOf s)) (h : Thinned e found back out) :
    Thinned e found (front ++ back) (front ++ out) := by
  induction front with
  | nil => exact h
  | cons s front ih =>
      obtain ⟨hs, hfront⟩ := List.forall_mem_cons.1 hfront
      exact .kept (fun hnamed => absurd hnamed hs) (ih hfront)

theorem of_unnamed (h : ∀ s ∈ segments, [] ∉ e.rests (nameOf s)) :
    Thinned e found segments segments := by
  have hthinned : Thinned e found (segments ++ []) (segments ++ []) := .unnamed h .nil
  rwa [List.append_nil] at hthinned

/-- All segments that a match runs into are kept if it ends inside the last of them. -/
theorem passed (hm : m ∈ found) (hinside : ¬ endsField m.after) {v : Text}
    (hafter : m.after = v ++ behindFirst back) (h : Thinned e found back out)
    (htaken : Text.join ['&'] (s :: front ++ back) <:+ m.taken ++ m.after)
    (hv : v <:+ front.getLastD s) :
    m.after <:+ Text.join ['&'] (s :: front ++ back) ∧
      Thinned e found (s :: front ++ back) (s :: front ++ out) := by
  -- On the segments before the last one: the match begins before all of them and ends behind
  -- all but the last.
  induction front generalizing s with
  | nil =>
      have hreaches : m.after <:+ Text.join ['&'] (s :: ([] ++ back)) := by
        obtain ⟨u, rfl⟩ := hv
        rw [hafter, List.nil_append, join_eq_append_behindFirst]
        exact ⟨u, (List.append_assoc _ _ _).symm⟩
      exact ⟨hreaches, .kept (fun _ => ⟨m, hm, htaken, hreaches, hinside⟩) h⟩
  | cons s' front ih =>
      have htail : Text.join ['&'] (s' :: front ++ back) <:+
          Text.join ['&'] (s :: s' :: front ++ back) :=
        join_suffix s' [s] (front ++ back)
      obtain ⟨hreaches, hthinned⟩ := ih (htail.trans htaken) (List.getLastD_cons.symm ▸ hv)
      have hreaches' := hreaches.trans htail
      exact ⟨hreaches', .kept (fun _ => ⟨m, hm, htaken, hreaches', hinside⟩) hthinned⟩

/-- What is left of a segment is empty or the segment, with what has kept it. -/
theorem of_mem (h : Thinned e found segments out) (hs : s ∈ out) (hne : s ≠ []) :
    ∃ front back, segments = front ++ s :: back ∧
      ([] ∈ e.rests (nameOf s) → ∃ m ∈ found, EndsInside m (Text.join ['&'] (s :: back))) := by
  induction h with
  | nil => cases hs
  | @kept s' segments out hkept _ ih =>
      rcases List.mem_cons.1 hs with rfl | hs
      · exact ⟨[], segments, rfl, hkept⟩
      · obtain ⟨front, back, rfl, hevidence⟩ := ih hs
        exact ⟨s' :: front, back, rfl, hevidence⟩
  | @deleted s' block segments out m _ _ _ _ ih =>
      rcases List.mem_cons.1 hs with rfl | hs
      · exact absurd rfl hne
      · obtain ⟨front, back, rfl, hevidence⟩ := ih hs
        exact ⟨s' :: block ++ front, back, (List.append_assoc _ _ _).symm, hevidence⟩

theorem mem_or_takesWhole (h : Thinned e found segments out) (front : List Text)
    (hsplit : segments = front ++ s :: back) :
    s ∈ out ∨ ∃ m ∈ found, TakesWhole m s (behindFirst back) := by
  induction h generalizing front with
  | nil => cases front <;> cases hsplit
  | @kept s' segments out _ _ ih =>
      cases front with
      | nil => exact .inl ((List.cons.inj hsplit).1 ▸ List.mem_cons_self)
      | cons _ front =>
          exact (ih front (List.cons.inj hsplit).2).imp_left (List.mem_cons_of_mem _)
  | @deleted s' block segments out m hm htaken hafter _ ih =>
      rcases List.append_eq_append_iff.1 hsplit with ⟨a, -, hsegments⟩ | ⟨a, hblock, hsegments⟩
      · exact (ih _ hsegments).imp_left (List.mem_cons_of_mem _)
      · cases a with
        | nil => exact (ih [] hsegments.symm).imp_left (List.mem_cons_of_mem _)
        | cons _ a =>
            obtain ⟨rfl, rfl⟩ := List.cons.inj hsegments
            refine .inr ⟨m, hm, ?_, ?_, ?_⟩
            · rw [← join_eq_append_behindFirst]
              exact (hsplit ▸ join_suffix s front _).trans htaken
            · show m.after <:+ behindFirst (a ++ segments)
              rw [hafter, behindFirst_append]
              exact List.suffix_append _ _
            · rw [hafter]
              exact (behindSegment_flatMap segments).endsField

end Thinned

/-! ## Walking through a list -/

/-- No segment holds a character that separates fields. -/
def Segments (segments : List Text) : Prop :=
  ∀ s ∈ segments, ∀ c ∈ s, ¬ separates c

theorem Segments.end_of_last {s v : Text} {front back : List Text}
    (h : Segments (s :: (front ++ back))) (hv : v <:+ front.getLastD s) :
    ∀ c ∈ v, ¬ separates c := by
  have hlast : front.getLastD s ∈ s :: front := List.getLastD_mem_cons
  intro c hc
  refine h _ ?_ c (hv.subset hc)
  rcases List.mem_cons.1 hlast with hlast | hlast
  · exact List.mem_cons.2 (.inl hlast)
  · exact List.mem_cons_of_mem _ (List.mem_append_left _ hlast)

theorem Segments.eq_ampersand {w : Text} {segments : List Text} (h : Segments (w :: segments)) :
    ∀ c ∈ w ++ behindFirst segments, separates c → c = '&' := by
  obtain ⟨hw, hsegments⟩ := List.forall_mem_cons.1 h
  intro c hc hseparates
  rcases List.mem_append.1 hc with hc | hc
  · exact absurd hseparates (hw c hc)
  · obtain ⟨s, hs, hc⟩ := List.mem_flatMap.1 hc
    rcases List.mem_cons.1 hc with rfl | hc
    · rfl
    · exact absurd hseparates (hsegments s hs c hc)

variable (e) in
/-- What a match leaves of the segments that it runs into: they are left
empty together, or kept. -/
theorem exists_of_match {found : List Match} {m : Match} (hm : m ∈ found) {bound taken s : Text}
    {segments : List Text} (hsegments : Segments (s :: segments))
    (hgroup : m.group? 1 = some bound) (htaken : m.taken = bound ++ taken)
    (hrest : taken ++ m.after = s ++ behindFirst segments) :
    ∃ back v first more, m.after = v ++ behindFirst back ∧ Segments (v :: back) ∧
      fieldText m ++ v = bound ++ (first ++ behindFirst more) ∧
      ∀ out, Thinned e found back out →
        Thinned e found (s :: segments) (first :: more ++ out) := by
  obtain ⟨front, back, v, rfl, hafter, hv⟩ := cut_segments hrest.symm
  have hplain := hsegments.end_of_last hv
  have hback : Segments (v :: back) := by
    intro x hx
    rcases List.mem_cons.1 hx with rfl | hx
    · exact hplain
    · exact hsegments x (List.mem_cons_of_mem _ (List.mem_append_right _ hx))
  have htail : Text.join ['&'] (s :: front ++ back) <:+ m.taken ++ m.after := by
    rw [htaken, List.append_assoc, hrest, List.cons_append, join_eq_append_behindFirst]
    exact List.suffix_append _ _
  have hends := endsField_append_behindFirst hplain back
  rw [← hafter] at hends
  -- At the end of a segment the check lets the match be deleted; anywhere else it puts the
  -- match back.
  by_cases hnil : v = []
  · obtain rfl := hnil
    refine ⟨back, [], [], [], hafter, hback, ?_, fun out h => .deleted hm htail hafter h⟩
    rw [fieldText, if_pos (hends.2 rfl), hgroup]
    rfl
  · refine ⟨back, v, s, front, hafter, hback, ?_, fun out h =>
      (h.passed hm (fun h => hnil (hends.1 h)) hafter htail hv).2⟩
    rw [fieldText, if_neg fun h => hnil (hends.1 h), htaken, List.append_assoc]
    rw [hafter, behindFirst_append, ← List.append_assoc, ← List.append_assoc] at hrest
    rw [List.append_cancel_right hrest]

/-- From inside a text on, a replacement of fewer steps leaves a thinned list. -/
def WalksThinned (e : Expr) (p : Pattern) (steps : Nat) : Prop :=
  ∀ base c behind w segments, (w ++ behindFirst segments).length < steps →
    Segments (w :: segments) →
    ∃ out, p.regex.replaceFrom fieldText steps base (some c) behind (w ++ behindFirst segments) =
        w ++ behindFirst out ∧
      Thinned e (p.regex.matchesFrom steps base (some c) (w ++ behindFirst segments)) segments
        out

section

variable (hexpr : p.regex.expr = .seq (.group 0 boundaryExpr) (.seq (e.shift 1) valueExpr))
  (he : e.lookless)

include hexpr he

theorem exists_lives_of_named {base : Nat} {before : Option Char} {w s : Text}
    {front back : List Text} (hs : [] ∈ e.rests (nameOf s)) :
    ∃ q, (Spot.mk base before (w ++ behindFirst (front ++ s :: back)) []).To
      (w ++ behindFirst front) q ∧
      Lives p.regex.program q := by
  let q : Spot :=
    ⟨base + (w ++ behindFirst front).length, lastOr before (w ++ behindFirst front),
    '&' :: (s ++ behindFirst back), []⟩
  refine ⟨q, ⟨?_, rfl, rfl⟩, lives_of_ampersand hexpr he hs rfl⟩
  show w ++ behindFirst (front ++ s :: back) =
      w ++ behindFirst front ++ '&' :: (s ++ behindFirst back)
  rw [behindFirst_append, ← List.append_assoc]
  rfl

theorem unnamed_of_none {base : Nat} {before : Option Char} {w : Text} {segments : List Text}
    (hnone : p.regex.findFrom? base before (w ++ behindFirst segments) = none) :
    ∀ s ∈ segments, [] ∉ e.rests (nameOf s) := by
  intro s hs hnamed
  obtain ⟨front, back, rfl⟩ := List.append_of_mem hs
  obtain ⟨q, hto, hlives⟩ := exists_lives_of_named hexpr he hnamed
  exact not_lives_of_findFrom?_eq_none hnone hto hlives

/-- A match whose boundary is an ampersand begins where a segment does, and no
segment between is named. -/
theorem exists_segment_of_match {base : Nat} {before : Option Char} {w taken : Text}
    {segments : List Text} {m : Match} (hsegments : Segments (w :: segments))
    (hfind : p.regex.findFrom? base before (w ++ behindFirst segments) = some m)
    (htaken : m.taken = '&' :: taken) :
    ∃ front s back, segments = front ++ s :: back ∧ m.before = w ++ behindFirst front ∧
      taken ++ m.after = s ++ behindFirst back ∧ ∀ x ∈ front, [] ∉ e.rests (nameOf x) := by
  obtain ⟨-, htext, start, stop, hfrom, hleftmost⟩ := findFrom?_leftmost hfind
  have hsplit : w ++ behindFirst segments = m.before ++ '&' :: (taken ++ m.after) := by
    rw [← htext, hfrom.parts, htaken]
    rfl
  obtain ⟨front, back, v, rfl, hback, hv⟩ := cut_segments hsplit
  have hplain := hsegments.end_of_last hv
  obtain rfl : v = [] := by
    cases v with
    | nil => rfl
    | cons d v =>
        obtain rfl := (List.cons.inj hback).1
        exact absurd (by decide) (hplain '&' List.mem_cons_self)
  cases back with
  | nil => cases hback
  | cons s back =>
      have hbefore : w ++ behindFirst front = m.before := by
        rw [hback, behindFirst_append, ← List.append_assoc] at hsplit
        exact List.append_cancel_right hsplit
      refine ⟨front, s, back, rfl, hbefore.symm, (List.cons.inj hback).2, fun x hx hnamed => ?_⟩
      obtain ⟨front', back', rfl⟩ := List.append_of_mem hx
      rw [List.append_assoc, List.cons_append] at hleftmost
      obtain ⟨q, hto, hlives⟩ := exists_lives_of_named hexpr he hnamed
      have hle := hleftmost _ q hto hlives
      rw [← hbefore, behindFirst_append, ← List.append_assoc, List.length_append] at hle
      have hpos : 0 < (behindFirst (x :: back')).length := Nat.succ_pos _
      omega

omit hexpr he in
theorem thinned_of_match {steps : Nat} (hnext : WalksThinned e p steps) {base : Nat}
    {before : Option Char} {behind : Bool} {text bound taken s : Text}
    {segments : List Text} {m : Match} (hfind : p.regex.findFrom? base before text = some m)
    (hne : m.taken ≠ []) (hlength : m.after.length < steps)
    (hsegments : Segments (s :: segments)) (hgroup : m.group? 1 = some bound)
    (htaken : m.taken = bound ++ taken) (hrest : taken ++ m.after = s ++ behindFirst segments) :
    ∃ first more, p.regex.replaceFrom fieldText (steps + 1) base before behind text =
        m.before ++ (bound ++ (first ++ behindFirst more)) ∧
      Thinned e (p.regex.matchesFrom (steps + 1) base before text) (s :: segments)
        (first :: more) := by
  obtain ⟨stop, last, hlast, hreplace, hmatches⟩ :=
    replaceFrom_of_taken steps behind hfind hne
  obtain ⟨d, rfl⟩ : ∃ d, last = some d := by
    obtain ⟨c, t, hcons⟩ := List.exists_cons_of_ne_nil hne
    rw [hlast, hcons, lastOr_cons]
    exact exists_lastOr_some c t
  rw [hreplace, hmatches]
  have hfound : m ∈ m :: p.regex.matchesFrom steps stop (some d) m.after := List.mem_cons_self
  obtain ⟨back, v, first, more, hafter, hplain, hleft, hthin⟩ :=
    exists_of_match e hfound hsegments hgroup htaken hrest
  obtain ⟨out, hout, hthinned⟩ := hnext stop d true v back (hafter ▸ hlength) hplain
  rw [← hafter] at hout hthinned
  refine ⟨first, more ++ out, ?_, hthin out (hthinned.mono (List.subset_cons_self _ _))⟩
  rw [hout, List.append_assoc, ← List.append_assoc (fieldText m), hleft, behindFirst_append]
  simp only [List.append_assoc]

theorem thinned_of_ampersand {steps : Nat} (hnext : WalksThinned e p steps) {base : Nat}
    {before : Option Char} {behind : Bool} {w taken : Text} {segments : List Text} {m : Match}
    (hlength : (w ++ behindFirst segments).length < steps + 1)
    (hsegments : Segments (w :: segments))
    (hfind : p.regex.findFrom? base before (w ++ behindFirst segments) = some m)
    (htaken : m.taken = '&' :: taken) (hgroup : m.group? 1 = some ['&']) :
    ∃ out, p.regex.replaceFrom fieldText (steps + 1) base before behind
      (w ++ behindFirst segments) =
        w ++ behindFirst out ∧
      Thinned e (p.regex.matchesFrom (steps + 1) base before (w ++ behindFirst segments))
        segments out := by
  obtain ⟨front, s, back, rfl, hbefore, hrest, hunnamed⟩ :=
    exists_segment_of_match hexpr he hsegments hfind htaken
  have hshorter : m.after.length < steps := by
    have htotal :
        w ++ behindFirst (front ++ s :: back) = m.before ++ '&' :: (taken ++ m.after) := by
      rw [hbefore, hrest, behindFirst_append, ← List.append_assoc]
      rfl
    rw [htotal, List.length_append, List.length_cons, List.length_append] at hlength
    omega
  have hback : Segments (s :: back) := fun x hx =>
    hsegments x (List.mem_cons_of_mem _ (List.mem_append_right _ hx))
  obtain ⟨first, more, hreplace, hthinned⟩ :=
    thinned_of_match hnext hfind (by simp [htaken]) hshorter hback hgroup htaken hrest
  refine ⟨front ++ first :: more, ?_, .unnamed hunnamed hthinned⟩
  rw [hreplace, hbefore, behindFirst_append, List.append_assoc]
  rfl

theorem walksThinned (steps : Nat) : WalksThinned e p steps := by
  -- On the steps: what stands behind a match is shorter than the text it was found in.
  induction steps with
  | zero => exact fun _ _ _ _ _ hlength => absurd hlength (Nat.not_lt_zero _)
  | succ steps ih =>
      intro base c behind w segments hlength hsegments
      cases hfind : p.regex.findFrom? base (some c) (w ++ behindFirst segments) with
      | none =>
          exact ⟨segments, replaceFrom_of_none hfind,
            .of_unnamed (unnamed_of_none hexpr he hfind)⟩
      | some m =>
          obtain ⟨-, htext, start, stop, hfrom, -⟩ := findFrom?_leftmost hfind
          rcases match_boundary hexpr hfrom (htext ▸ hsegments.eq_ampersand) with
            ⟨taken, htaken, hgroup⟩ | ⟨hnone, -⟩
          · exact thinned_of_ampersand hexpr he ih hlength hsegments hfind htaken hgroup
          · cases hnone

/-- Behind an empty match at the beginning of a list the walk goes on with
the second character. -/
theorem thinned_of_empty {c : Char} {s : Text} {segments : List Text} {m : Match}
    (hsegments : Segments ((c :: s) :: segments))
    (hfind : p.regex.findFrom? 0 none (c :: s ++ behindFirst segments) = some m)
    (hnil : m.taken = []) (hbefore : m.before = [])
    (hafter : m.after = c :: s ++ behindFirst segments) {steps : Nat}
    (hsteps : (s ++ behindFirst segments).length < steps) :
    ∃ out, p.regex.replaceFrom fieldText (steps + 1) 0 none false
      (c :: s ++ behindFirst segments) =
        c :: s ++ behindFirst out ∧
      Thinned e (p.regex.matchesFrom (steps + 1) 0 none (c :: s ++ behindFirst segments))
        ((c :: s) :: segments) ((c :: s) :: out) := by
  obtain ⟨hfirst, hmore⟩ := List.forall_mem_cons.1 hsegments
  obtain ⟨hc, hs⟩ := List.forall_mem_cons.1 hfirst
  have hinside : ¬ endsField m.after := hafter ▸ not_endsField_cons hc _
  obtain ⟨stop, hreplace, hmatches⟩ :=
    replaceFrom_of_empty steps false hfind hnil hafter
  obtain ⟨out, hout, hthinned⟩ := walksThinned hexpr he steps stop c false s segments hsteps
    (List.forall_mem_cons.2 ⟨hs, hmore⟩)
  refine ⟨out, ?_, ?_⟩
  · rw [hreplace]
    simp only [List.append_eq] at hout ⊢
    rw [hout, hbefore, fieldText, if_neg hinside, hnil]
    rfl
  · rw [hmatches]
    refine .kept (fun _ => ⟨m, List.mem_cons_self, ?_, ?_, hinside⟩)
      (hthinned.mono (List.subset_cons_self _ _))
    · rw [join_eq_append_behindFirst, hnil, hafter]
      exact List.suffix_refl _
    · rewrite [join_eq_append_behindFirst, hafter]
      exact List.suffix_refl _

theorem thinned_join {s : Text} {segments : List Text} (hsegments : Segments (s :: segments))
    (hne : s ≠ []) :
    ∃ first more, p.stripFields (Text.join ['&'] (s :: segments)) =
      Text.join ['&'] (first :: more) ∧
      Thinned e (p.regex.allMatches (Text.join ['&'] (s :: segments))) (s :: segments)
        (first :: more) := by
  rw [stripFields_eq, replaceAll, allMatches, join_eq_append_behindFirst]
  simp only [join_eq_append_behindFirst]
  generalize hsteps : (s ++ behindFirst segments).length = steps
  obtain ⟨c, s, rfl⟩ := List.exists_cons_of_ne_nil hne
  cases hfind : p.regex.findFrom? 0 none (c :: s ++ behindFirst segments) with
  | none =>
      refine ⟨c :: s, segments, replaceFrom_of_none hfind, .of_unnamed ?_⟩
      refine List.forall_mem_cons.2 ⟨fun hnamed => ?_, unnamed_of_none hexpr he hfind⟩
      exact not_lives_of_findFrom?_eq_none hfind (.refl _)
        (lives_of_start hexpr he hnamed rfl rfl)
  | some m =>
      obtain ⟨-, htext, start, stop, hfrom, hleftmost⟩ := findFrom?_leftmost hfind
      have hparts : c :: s ++ behindFirst segments = m.before ++ (m.taken ++ m.after) :=
        htext.symm.trans hfrom.parts
      rcases match_boundary hexpr hfrom (htext ▸ hsegments.eq_ampersand) with
        ⟨taken, htaken, hgroup⟩ | ⟨-, hbefore, hgroup⟩
      · -- The first match begins behind the first segment, which is not named then.
        obtain ⟨out, hout, hthinned⟩ :=
          thinned_of_ampersand hexpr he (walksThinned hexpr he steps)
          (by rw [hsteps]; exact Nat.lt_succ_self _) hsegments hfind htaken hgroup
        refine ⟨c :: s, out, hout, .kept (fun hnamed => ?_) hthinned⟩
        have hle := hleftmost [] _ (.refl _) (lives_of_start hexpr he hnamed rfl rfl)
        rw [List.length_eq_zero_iff.1 (Nat.le_zero.1 hle), htaken] at hparts
        obtain rfl : c = '&' := (List.cons.inj hparts).1
        exact absurd (by decide) (hsegments _ List.mem_cons_self '&' List.mem_cons_self)
      · rw [hbefore, List.nil_append] at hparts
        by_cases hnil : m.taken = []
        · rw [hnil, List.nil_append] at hparts
          have hshorter : (s ++ behindFirst segments).length < steps := by
            rw [← hsteps]
            exact Nat.lt_succ_self _
          obtain ⟨out, hout, hthinned⟩ :=
            thinned_of_empty hexpr he hsegments hfind hnil hbefore hparts.symm hshorter
          exact ⟨c :: s, out, hout, hthinned⟩
        · have hshorter : m.after.length < steps := by
            have hpos := List.length_pos_of_ne_nil hnil
            rw [hparts, List.length_append] at hsteps
            omega
          obtain ⟨first, more, hreplace, hthinned⟩ :=
            thinned_of_match (walksThinned hexpr he steps) hfind
            hnil hshorter hsegments hgroup (List.nil_append _).symm hparts.symm
          rw [hbefore] at hreplace
          exact ⟨first, more, hreplace, hthinned⟩

end

/-- What a field rule leaves of a list of segments is a thinned list, but
for empty segments. -/
theorem exists_thinned {segments : List Text}
    (hexpr : p.regex.expr = .seq (.group 0 boundaryExpr) (.seq (e.shift 1) valueExpr))
    (he : e.lookless) (hsegments : Segments segments) (hfilled : [] ∉ segments) :
    ∃ out, Thinned e (p.regex.allMatches (Text.join ['&'] segments)) segments out ∧
      ∀ s, s ≠ [] → (s ∈ (p.stripFields (Text.join ['&'] segments)).splitOn '&' ↔ s ∈ out) := by
  cases segments with
  | nil =>
      have hnil : p.stripFields [] = [] := List.sublist_nil.1 (p.stripFields_sublist [])
      refine ⟨[], .nil, fun s hne => iff_of_false (fun hs => ?_) List.not_mem_nil⟩
      rw [Text.join, hnil] at hs
      exact hne (List.mem_singleton.1 hs)
  | cons s₀ segments =>
      obtain ⟨first, more, hstrip, hthinned⟩ :=
        thinned_join hexpr he hsegments fun hnil => hfilled (List.mem_cons.2 (.inl hnil.symm))
      have hpieces : ∀ t ∈ first :: more, '&' ∉ t := by
        intro t ht hc
        obtain ⟨front, back, hsplit, -⟩ := hthinned.of_mem ht (List.ne_nil_of_mem hc)
        have hmem : t ∈ s₀ :: segments := hsplit ▸ List.mem_append_right _ List.mem_cons_self
        exact hsegments t hmem '&' hc (by decide)
      refine ⟨first :: more, hthinned, fun s _ => ?_⟩
      rw [hstrip, Text.splitOn_join List.not_mem_nil hpieces]
      simp

theorem segments_fields {fields : List (Text × Text)}
    (hfields : ∀ field ∈ fields, Plain field.1 ∧ Plain field.2) :
    Segments (fields.map plainField) := by
  intro t ht c hc
  obtain ⟨field, hfield, rfl⟩ := List.mem_map.1 ht
  obtain ⟨hname, hvalue⟩ := hfields field hfield
  rcases List.mem_append.1 hc with hc | hc
  · exact (hname c hc).1
  · rcases List.mem_cons.1 hc with rfl | hc
    · decide
    · exact (hvalue c hc).1

/-- A field rule names in full what it matches from the beginning to the end.  What it leaves
of a list is empty segments and fields of the list.  A field that it names in full is among
them only where a match runs into the field and ends inside one, so that the check behind the
match puts all of it back; and no field is missing that no match takes to its end. -/
theorem stripFields_survivor {source : Text} (hparse : Expr.parse source = .ok e)
    (hlook : e.lookless) (hcompile : compile .queryField source = .ok p)
    (fields : List (Text × Text)) (hfields : ∀ field ∈ fields, Plain field.1 ∧ Plain field.2) :
    let text := Text.join ['&'] (fields.map plainField)
    (∀ whole, Regex.compile (inFull source) = .ok whole → ∀ n, whole.isMatch n ↔
      [] ∈ e.rests n) ∧
      (∀ s ∈ (p.stripFields text).splitOn '&', s ≠ [] →
        ∃ front field back, fields = front ++ field :: back ∧ s = plainField field ∧
          ([] ∈ e.rests field.1 → ∃ m ∈ p.regex.allMatches text,
            EndsInside m (Text.join ['&'] ((field :: back).map plainField)))) ∧
      ∀ front field back, fields = front ++ field :: back →
        plainField field ∈ (p.stripFields text).splitOn '&' ∨
          ∃ m ∈ p.regex.allMatches text,
            TakesWhole m (plainField field) (behindFirst (back.map plainField)) := by
  have hfilled : ∀ field, plainField field ≠ [] := fun field =>
    List.append_ne_nil_of_right_ne_nil _ (List.cons_ne_nil _ _)
  have hnil : [] ∉ fields.map plainField := fun h =>
    have ⟨field, _, hempty⟩ := List.mem_map.1 h
    hfilled field hempty
  obtain ⟨out, hthinned, hout⟩ :=
    exists_thinned (expr_of_parse hparse hcompile) hlook (segments_fields hfields) hnil
  refine ⟨fun whole hwhole => isMatch_inFull hparse hlook hwhole, fun s hs hne => ?_,
    fun front field back hsplit => ?_⟩
  · obtain ⟨front, back, hsplit, hevidence⟩ := hthinned.of_mem ((hout s hne).1 hs) hne
    obtain ⟨front, tail, rfl, rfl, htail⟩ := List.map_eq_append_iff.1 hsplit
    obtain ⟨field, back, rfl, rfl, rfl⟩ := List.map_eq_cons_iff.1 htail
    have hname := (hfields field (List.mem_append_right _ List.mem_cons_self)).1
    rw [plainField, nameOf_append hname] at hevidence
    exact ⟨front, field, back, rfl, rfl, hevidence⟩
  · rw [hout _ (hfilled field)]
    refine hthinned.mem_or_takesWhole (front.map plainField) ?_
    rw [hsplit, List.map_append, List.map_cons]

theorem stripFields_survivor_shorter :
    ∃ e p, Expr.parse "a|ab".toList = .ok e ∧ compile .queryField "a|ab".toList = .ok p ∧
      (∃ front field back, [("ab".toList, ['1']), (['a'], ['2'])] = front ++ field :: back ∧
        "ab=1".toList = plainField field ∧
        ([] ∈ e.rests field.1 → ∃ m ∈ p.regex.allMatches "ab=1&a=2".toList,
          EndsInside m (Text.join ['&'] ((field :: back).map plainField)))) ∧
      ∃ m ∈ p.regex.allMatches "ab=1&a=2".toList, TakesWhole m "a=2".toList [] := by
  obtain ⟨e, hparse, hlook⟩ : ∃ e, Expr.parse "a|ab".toList = .ok e ∧ e.lookless := ⟨_, rfl, rfl⟩
  obtain ⟨p, hcompile, hleft, hdeleted⟩ : ∃ p, compile .queryField "a|ab".toList = .ok p ∧
      "ab=1".toList ∈ (p.stripFields "ab=1&a=2".toList).splitOn '&' ∧
      "a=2".toList ∉ (p.stripFields "ab=1&a=2".toList).splitOn '&' :=
    ⟨_, rfl, by decide +kernel, by decide +kernel⟩
  obtain ⟨-, hkept, htaken⟩ := stripFields_survivor hparse hlook hcompile
    [("ab".toList, ['1']), (['a'], ['2'])] (by decide)
  refine ⟨e, p, hparse, hcompile, hkept _ hleft (by decide), ?_⟩
  exact (htaken [("ab".toList, ['1'])] (['a'], ['2']) [] rfl).resolve_left hdeleted

/-- A field may stay that the rule names in full: the rule prefers to take less of the name. -/
theorem named_survives :
    ¬ ∀ (source : Text) (e : Expr) (p : Pattern) (fields : List (Text × Text)),
      Expr.parse source = .ok e → e.lookless → compile .queryField source = .ok p →
      (∀ field ∈ fields, (field.1 ++ field.2).all fun c => c.isAlphanum || c == '_') →
      ∀ s ∈ (p.stripFields (Text.join ['&'] (fields.map plainField))).splitOn '&',
        [] ∉ e.rests (nameOf s) := by
  intro h
  obtain ⟨e, hparse, hlook, hnamed⟩ : ∃ e, Expr.parse "a|ab".toList = .ok e ∧ e.lookless ∧
      [] ∈ e.rests "ab".toList := ⟨_, rfl, rfl, by decide⟩
  obtain ⟨p, hcompile, hs⟩ : ∃ p, compile .queryField "a|ab".toList = .ok p ∧
      "ab=1".toList ∈ (p.stripFields "ab=1".toList).splitOn '&' := ⟨_, rfl, by decide +kernel⟩
  exact h "a|ab".toList e p [("ab".toList, ['1'])] hparse hlook hcompile (by decide) _ hs hnamed

end Pattern

end PlainLink
