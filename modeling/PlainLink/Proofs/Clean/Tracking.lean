/-
# Field rules one after the other

The rules of a provider are applied in turn.  To a list as it stands in a query they do
together what each does: every segment is treated by itself (`stripBy_join`), and goes
if any of the rules deletes it.

A list that stands escaped in a value is left as it is up to the first field that one of
the rules deletes; with that field everything behind it goes, and its ampersand is left
(`stripBy_escapedList_of_deletes`).  A rule for a field further back may have cut the
list before, so this is proved of lists of which the end may be missing (`CutFields`).
-/
import PlainLink.Clean.Cleaner
import PlainLink.Proofs.Clean.Deletion
import PlainLink.Proofs.Rule.Ampersands

namespace PlainLink

open Regex Pattern

/-! ## One rule -/

namespace Pattern

/-- The rule deletes fields of the name. -/
def deletes (p : Pattern) (n : Text) : Prop :=
  p.stripFields (n ++ ['=']) = []

instance (p : Pattern) (n : Text) : Decidable (p.deletes n) :=
  inferInstanceAs (Decidable (_ = _))

/-- The rule treats a field that stands alone as one: it deletes the field or leaves it as
it is, by its name. -/
def JudgesByName (p : Pattern) : Prop :=
  ∀ s, (∀ c ∈ s, ¬ separates c) → p.stripFields s = if p.deletes (nameOf s) then [] else s

section

variable {p : Pattern} {name : Expr}
  (hstrip : ∀ s, (∀ c ∈ s, ¬ separates c) → p.stripFields s = stripSegment name s)

include hstrip

theorem deletes_iff_takesAll {n : Text} (hn : Plain n) : p.deletes n ↔ name.takesAll n := by
  have hseparates : ∀ c ∈ n ++ ['='], ¬ separates c := by
    intro c hc
    rcases List.mem_append.1 hc with hc | hc
    · exact (hn c hc).1
    · exact List.mem_singleton.1 hc ▸ by decide
  rw [deletes, hstrip _ hseparates, stripSegment, nameOf_append hn]
  by_cases hall : name.takesAll n = true
  · simp [hall]
  · simp [hall]

theorem judgesByName_of_stripSegment : p.JudgesByName := by
  intro s hs
  rw [hstrip s hs, stripSegment]
  simp only [deletes_iff_takesAll hstrip (plain_nameOf hs)]

end

section

variable {p : Pattern} {name : Expr} (h : Names p.regex.expr name)

include h

theorem Names.stripFields_segment {s : Text} (hs : ∀ c ∈ s, ¬ separates c) :
    p.stripFields s = stripSegment name s := by
  have hjoin := h.stripFields_join (List.forall_mem_singleton.2 hs)
  simpa [Text.join] using hjoin

theorem Names.deletes_iff {n : Text} (hn : Plain n) : p.deletes n ↔ name.takesAll n :=
  deletes_iff_takesAll (fun _ => h.stripFields_segment) hn

theorem Names.judgesByName : p.JudgesByName :=
  judgesByName_of_stripSegment fun _ => h.stripFields_segment

end

end Pattern

/-! ## All rules -/

namespace Clean

/-- A text without the fields that any of the rules names. -/
def stripBy (rules : List Pattern) (t : Text) : Text :=
  rules.foldl (fun t rule => rule.stripFields t) t

theorem stripBy_cons (p : Pattern) (rules : List Pattern) (t : Text) :
    stripBy (p :: rules) t = stripBy rules (p.stripFields t) := rfl

theorem stripBy_append (rules more : List Pattern) (t : Text) :
    stripBy (rules ++ more) t = stripBy more (stripBy rules t) :=
  List.foldl_append

theorem stripBy_eq_self {rules : List Pattern} {t : Text}
    (h : ∀ p ∈ rules, p.stripFields t = t) :
    stripBy rules t = t := by
  induction rules with
  | nil => rfl
  | cons p rules ih =>
      obtain ⟨hp, hmore⟩ := List.forall_mem_cons.1 h
      rw [stripBy_cons, hp, ih hmore]

theorem stripBy_sublist (rules : List Pattern) (t : Text) : (stripBy rules t).Sublist t :=
  foldl_sublist stripFields_sublist rules t

theorem stripBy_append_ampersands {rules : List Pattern}
    (hrules : ∀ rule ∈ rules, rule.stripsBefore) (t : Text) (n : Nat) :
    stripBy rules (t ++ ampersands n) = stripBy rules t ++ ampersands n := by
  induction rules generalizing t with
  | nil => rfl
  | cons rule rules ih =>
      obtain ⟨hrule, hmore⟩ := List.forall_mem_cons.1 hrules
      rw [stripBy_cons, stripBy_cons, stripFields_append_ampersands hrule, ih hmore]

/-- Where the texts of a set stay in it under each rule or become `out`, one of the rules makes
all of them `out`, and `out` stays, that is what the rules make of them together. -/
theorem stripBy_eq_of_mem {rules : List Pattern} {S : Text → Prop} {out : Text}
    (hstays : ∀ p ∈ rules, p.stripFields out = out)
    (hstep : ∀ p ∈ rules, ∀ t, S t → S (p.stripFields t) ∨ p.stripFields t = out) {p : Pattern}
    (hp : p ∈ rules) (hdoes : ∀ t, S t → p.stripFields t = out) {t : Text} (ht : S t) :
    stripBy rules t = out := by
  induction rules generalizing t with
  | nil => cases hp
  | cons q rules ih =>
      obtain ⟨-, hstays'⟩ := List.forall_mem_cons.1 hstays
      obtain ⟨hq, hstep'⟩ := List.forall_mem_cons.1 hstep
      rw [stripBy_cons]
      by_cases hout : q.stripFields t = out
      · rw [hout, stripBy_eq_self hstays']
      · rcases List.mem_cons.1 hp with rfl | hp
        · exact absurd (hdoes t ht) hout
        · exact ih hstays' hstep' hp ((hq t ht).resolve_right hout)

/-- A field that stands alone is deleted if one of the rules deletes fields of its name, and
otherwise left as it is. -/
theorem stripBy_eq_ite {rules : List Pattern} (hrules : ∀ p ∈ rules, p.JudgesByName) {s : Text}
    (hs : ∀ c ∈ s, ¬ separates c) :
    stripBy rules s = if ∃ p ∈ rules, p.deletes (nameOf s) then [] else s := by
  have hempty : ∀ p ∈ rules, p.stripFields [] = [] := by
    intro p hp
    rw [hrules p hp [] (by simp), ite_self]
  by_cases hdeletes : ∃ p ∈ rules, p.deletes (nameOf s)
  · obtain ⟨p, hp, hdeleted⟩ := hdeletes
    rw [if_pos ⟨p, hp, hdeleted⟩]
    have hstep : ∀ q ∈ rules, ∀ t, t = s → q.stripFields t = s ∨ q.stripFields t = [] := by
      rintro q hq t rfl
      rw [hrules q hq t hs]
      split
      · exact .inr rfl
      · exact .inl rfl
    exact stripBy_eq_of_mem hempty hstep hp
      (fun t ht => by rw [ht, hrules p hp s hs, if_pos hdeleted]) rfl
  · rw [if_neg hdeletes]
    refine stripBy_eq_self fun p hp => ?_
    rw [hrules p hp s hs, if_neg fun hdeleted => hdeletes ⟨p, hp, hdeleted⟩]

/-- The rules of a provider for fields, less those that are switched off. -/
def fieldRules (flags : CleanFlags) (p : Provider) : List Pattern :=
  (if flags.ignoreRules then [] else p.rules) ++
    if flags.ignoreReferralMarketing then [] else p.referralMarketing

theorem stripTracking_eq_stripBy (p : Provider) (flags : CleanFlags) (t : Text) :
    stripTracking p flags t = stripBy (fieldRules flags p) t := by
  rw [stripTracking, stripBy, fieldRules, List.foldl_append]
  cases flags.ignoreRules <;> cases flags.ignoreReferralMarketing <;> rfl

theorem stripTracking_eq (p : Provider) (t : Text) :
    stripTracking p {} t = stripBy (p.rules ++ p.referralMarketing) t :=
  stripTracking_eq_stripBy p {} t

theorem fieldRules_sublist (flags : CleanFlags) (p : Provider) :
    (fieldRules flags p).Sublist (p.rules ++ p.referralMarketing) := by
  refine .append ?_ ?_
  · split <;> simp
  · split <;> simp

section

variable {rules : List Pattern} (hrules : ∀ p ∈ rules, p.namesFields)

include hrules

/-- The rules treat each segment of a list by itself. -/
theorem stripBy_join {segments : List Text}
    (hsegments : ∀ s ∈ segments, ∀ c ∈ s, ¬ separates c) :
    stripBy rules (Text.join ['&'] segments) =
      Text.join ['&'] (segments.map (stripBy rules)) := by
  induction rules generalizing segments with
  | nil =>
      have hid : stripBy [] = id := rfl
      rw [hid, List.map_id]
      rfl
  | cons p rules ih =>
      obtain ⟨hp, hmore⟩ := List.forall_mem_cons.1 hrules
      obtain ⟨name, h⟩ := exists_names hp
      have hstripped : ∀ s ∈ segments.map (stripSegment name), ∀ c ∈ s, ¬ separates c := by
        intro s hs
        obtain ⟨s, hmem, rfl⟩ := List.mem_map.1 hs
        rw [stripSegment]
        split
        · exact fun c hc => absurd hc List.not_mem_nil
        · exact hsegments s hmem
      rw [stripBy_cons, h.stripFields_join hsegments, ih hmore hstripped, List.map_map]
      refine congrArg _ (List.map_congr_left fun s hs => ?_)
      rw [Function.comp_apply, stripBy_cons, h.stripFields_segment (hsegments s hs)]

theorem stripBy_of_deletes {p : Pattern} (hp : p ∈ rules) {s : Text}
    (hs : ∀ c ∈ s, ¬ separates c) (hdeletes : p.deletes (nameOf s)) : stripBy rules s = [] := by
  have hjudges : ∀ q ∈ rules, q.JudgesByName := by
    intro q hq
    obtain ⟨name, h⟩ := exists_names (hrules q hq)
    exact h.judgesByName
  rw [stripBy_eq_ite hjudges hs, if_pos ⟨p, hp, hdeletes⟩]

theorem stripBy_join_append {segments behind : List Text} (hne : segments ≠ [])
    (hsegments : ∀ s ∈ segments ++ behind, ∀ c ∈ s, ¬ separates c)
    (hbehind : ∀ s ∈ behind, stripBy rules s = []) :
    stripBy rules (Text.join ['&'] (segments ++ behind)) =
      stripBy rules (Text.join ['&'] segments) ++ ampersands behind.length := by
  have hempty : behind.map (stripBy rules) = List.replicate behind.length [] :=
    List.map_eq_replicate_iff.2 hbehind
  have hne' : segments.map (stripBy rules) ≠ [] := by simpa using hne
  rw [stripBy_join hrules hsegments, List.map_append, hempty, join_append_replicate hne',
    stripBy_join hrules fun s hs => hsegments s (List.mem_append_left _ hs)]

end

/-! ## Escaped lists -/

theorem not_separates_of_isUnreserved {c : Char} (h : Text.isUnreserved c) : ¬ separates c := by
  intro hseparates
  have hc : c = '&' ∨ c = '#' ∨ c = '?' ∨ c = '%' := by simpa [separates] using hseparates
  rcases hc with rfl | rfl | rfl | rfl <;> exact absurd h (by decide)

/-- Of what stands in front of the second field of an escaped URL, a field
rule keeps everything. -/
theorem passes_escape {e name : Expr} (h : Names e name) {t : Text}
    (ht : ∀ c ∈ t, Text.isUnreserved c ∨ c ∈ [':', '/', '?', '=']) :
    Passes e (Text.escape Text.isUnreserved t) := by
  refine .flatMap fun c hc rest out hwalk => ?_
  rcases ht c hc with hunreserved | hmark
  · rw [if_pos hunreserved]
    exact walks_keep h (not_separates_of_isUnreserved hunreserved) hwalk
  · simp only [List.mem_cons, List.not_mem_nil, or_false] at hmark
    rcases hmark with rfl | rfl | rfl | rfl
    all_goals exact walks_escape h (by decide) (by decide) (by decide) hwalk

/-- Fields behind the first one of a list that stands escaped in a value. -/
def escapedFields (fields : List (Text × Text)) : Text :=
  fields.flatMap fun f => "%26".toList ++ escapedField f

/-- The field `k` with a value that begins with `lead`, goes on with escaped fields
and ends with `last`. -/
def escapedList (k lead : Text) (fields : List (Text × Text)) (last : Text) : Text :=
  k ++ '=' :: (lead ++ escapedFields fields ++ last)

theorem escapedFields_append (fields more : List (Text × Text)) :
    escapedFields (fields ++ more) = escapedFields fields ++ escapedFields more :=
  List.flatMap_append

theorem escapedFields_cons (f : Text × Text) (fields : List (Text × Text)) :
    escapedFields (f :: fields) = "%26".toList ++ escapedField f ++ escapedFields fields :=
  List.flatMap_cons

/-- Escaped fields from `x` on, whole or with an ampersand for those that are cut off. -/
def CutFields (x : Text × Text) (t : Text) : Prop :=
  ∃ behind last, (∀ f ∈ x :: behind, PlainField f) ∧ (last = [] ∨ last = "%26".toList) ∧
    t = escapedFields (x :: behind) ++ last

/-- The value of a field that stands escaped goes on over the fields behind it. -/
theorem CutFields.valueSet_test {x : Text × Text} {t : Text} (h : CutFields x t) :
    ∃ rest, t = "%26".toList ++ escapedField x ++ rest ∧ ∀ c ∈ x.2 ++ rest, valueSet.test c := by
  obtain ⟨behind, last, hplain, hlast, rfl⟩ := h
  obtain ⟨hx, hbehind⟩ := List.forall_mem_cons.1 hplain
  have hmarks : ∀ c ∈ "%26".toList ++ "%3D".toList, valueSet.test c :=
    List.all_eq_true.1 (by decide)
  have hfields : ∀ f, PlainField f → ∀ c ∈ "%26".toList ++ escapedField f, valueSet.test c := by
    intro f hf c hc
    simp only [escapedField, List.mem_append] at hc
    rcases hc with hc | hc | hc | hc
    · exact hmarks c (List.mem_append_left _ hc)
    · exact Pattern.valueSet_test (hf.name c hc).1
    · exact hmarks c (List.mem_append_right _ hc)
    · exact Pattern.valueSet_test (hf.value c hc).1
  refine ⟨escapedFields behind ++ last, by rw [escapedFields_cons, List.append_assoc],
    fun c hc => ?_⟩
  rcases List.mem_append.1 hc with hc | hc
  · exact Pattern.valueSet_test (hx.value c hc).1
  · rcases List.mem_append.1 hc with hc | hc
    · obtain ⟨f, hf, hc⟩ := List.mem_flatMap.1 hc
      exact hfields f (hbehind f hf) c hc
    · rcases hlast with rfl | rfl
      · exact absurd hc List.not_mem_nil
      · exact hmarks c (List.mem_append_left _ hc)

section

variable {p : Pattern} {name : Expr} (h : Names p.regex.expr name)

include h

theorem passes_escapedFields {fields : List (Text × Text)}
    (hfields : ∀ f ∈ fields, PlainField f ∧ ¬ name.takesAll f.1) :
    Passes p.regex.expr (escapedFields fields) :=
  .flatMap fun f hf => h.passes_field (hfields f hf).1 (hfields f hf).2

theorem CutFields.walks_deleted {x : Text × Text} {t : Text} (ht : CutFields x t)
    (hx : PlainField x) (hall : name.takesAll x.1) : Walks p.regex.expr t "%26".toList := by
  obtain ⟨rest, rfl, hrest⟩ := ht.valueSet_test
  exact h.walks_deleted hx hall hrest

theorem CutFields.exists_walks {x : Text × Text} {t : Text} (ht : CutFields x t)
    (hall : ¬ name.takesAll x.1) : ∃ out, CutFields x out ∧ Walks p.regex.expr t out := by
  obtain ⟨behind, last, hplain, hlast, rfl⟩ := ht
  cases hfind : behind.find? fun f => name.takesAll f.1 with
  | none =>
      have hnone := List.find?_eq_none.1 hfind
      have hpasses : Passes p.regex.expr (escapedFields (x :: behind)) :=
        passes_escapedFields h fun f hf => ⟨hplain f hf,
          (List.mem_cons.1 hf).elim (fun heq => heq ▸ hall) (hnone f)⟩
      have hwalk : Walks p.regex.expr last last := by
        rcases hlast with rfl | rfl
        · exact walks_nil h
        · exact h.walks_ampersand
      exact ⟨_, ⟨behind, last, hplain, hlast, rfl⟩, hpasses _ _ hwalk⟩
  | some y =>
      obtain ⟨hy, kept, cut, rfl, hkept⟩ := List.find?_eq_some_iff_append.1 hfind
      have hfront : ∀ f ∈ x :: kept, PlainField f := fun f hf =>
        hplain f (by simp only [List.mem_cons, List.mem_append] at hf ⊢; tauto)
      have hpasses : Passes p.regex.expr (escapedFields (x :: kept)) :=
        passes_escapedFields h fun f hf => ⟨hfront f hf,
          (List.mem_cons.1 hf).elim (fun heq => heq ▸ hall) fun hf => by simpa using hkept f hf⟩
      have hcut : CutFields y (escapedFields (y :: cut) ++ last) :=
        ⟨cut, last, fun f hf => hplain f (by simp_all), hlast, rfl⟩
      have hwalk := hcut.walks_deleted h (hplain y (by simp)) hy
      refine ⟨_, ⟨kept, _, hfront, .inr rfl, rfl⟩, ?_⟩
      rw [← List.cons_append, escapedFields_append, List.append_assoc]
      exact hpasses _ _ hwalk

end

section

variable {rules : List Pattern} (hrules : ∀ p ∈ rules, p.namesFields) {k lead : Text}
  {fields : List (Text × Text)} (hne : k ≠ []) (hk : Plain k)
    (hkept : ∀ p ∈ rules, ¬ p.deletes k)
  (hlead : ∀ p ∈ rules, Passes p.regex.expr lead)
  (hfields : ∀ f ∈ fields, PlainField f ∧ ∀ p ∈ rules, ¬ p.deletes f.1)

include hrules hne hk hkept hlead hfields

/-- Of an escaped list whose fields a rule keeps, the rule may delete only what comes last. -/
theorem stripFields_escapedList {p : Pattern} (hp : p ∈ rules) {last out : Text}
    (hwalk : Walks p.regex.expr last out) :
    p.stripFields (escapedList k lead fields last) = escapedList k lead fields out := by
  obtain ⟨name, h⟩ := exists_names (hrules p hp)
  have hpasses : Passes p.regex.expr (escapedFields fields) :=
    passes_escapedFields h fun f hf => by
    obtain ⟨hfield, hnot⟩ := hfields f hf
    exact ⟨hfield, fun hall => hnot p hp ((h.deletes_iff hfield.name).2 hall)⟩
  exact h.stripFields_value hne hk (fun hall => hkept p hp ((h.deletes_iff hk).2 hall))
    ((hlead p hp).append hpasses _ _ hwalk)

theorem stripBy_escapedList_nil :
    stripBy rules (escapedList k lead fields []) = escapedList k lead fields [] :=
  stripBy_eq_self fun p hp => by
    obtain ⟨name, h⟩ := exists_names (hrules p hp)
    exact stripFields_escapedList hrules hne hk hkept hlead hfields hp (walks_nil h)

/-- With the first field that one of the rules deletes everything behind it goes;
its ampersand is left. -/
theorem stripBy_escapedList_of_deletes {x : Text × Text} {behind : List (Text × Text)}
    (hplain : ∀ f ∈ x :: behind, PlainField f) {p : Pattern} (hp : p ∈ rules)
    (hdeletes : p.deletes x.1) :
    stripBy rules (escapedList k lead (fields ++ x :: behind) []) =
      escapedList k lead fields "%26".toList := by
  obtain ⟨hx, -⟩ := List.forall_mem_cons.1 hplain
  have hlist : escapedList k lead (fields ++ x :: behind) [] =
      escapedList k lead fields (escapedFields (x :: behind)) := by
    rw [escapedList, escapedFields_append, List.append_nil, ← List.append_assoc]
    rfl
  have hcut : CutFields x (escapedFields (x :: behind)) :=
    ⟨behind, [], hplain, .inl rfl, (List.append_nil _).symm⟩
  have hdeleted : ∀ q ∈ rules, q.deletes x.1 → ∀ t, CutFields x t →
      q.stripFields (escapedList k lead fields t) = escapedList k lead fields "%26".toList := by
    intro q hq hdeletes t ht
    obtain ⟨name, h⟩ := exists_names (hrules q hq)
    exact stripFields_escapedList hrules hne hk hkept hlead hfields hq
      (ht.walks_deleted h hx ((h.deletes_iff hx.name).1 hdeletes))
  rw [hlist]
  refine stripBy_eq_of_mem (S := fun s => ∃ t, CutFields x t ∧ s = escapedList k lead fields t)
    (fun q hq => ?_) ?_ hp ?_ ⟨_, hcut, rfl⟩
  · obtain ⟨name, h⟩ := exists_names (hrules q hq)
    exact stripFields_escapedList hrules hne hk hkept hlead hfields hq h.walks_ampersand
  · rintro q hq s ⟨t, ht, rfl⟩
    by_cases hq' : q.deletes x.1
    · exact .inr (hdeleted q hq hq' t ht)
    · obtain ⟨name, h⟩ := exists_names (hrules q hq)
      obtain ⟨out, hout, hwalk⟩ :=
        ht.exists_walks h fun hall => hq' ((h.deletes_iff hx.name).2 hall)
      exact .inl ⟨out, hout,
        stripFields_escapedList hrules hne hk hkept hlead hfields hq hwalk⟩
  · rintro s ⟨t, ht, rfl⟩
    exact hdeleted p hp hdeletes t ht

end

end Clean

end PlainLink
