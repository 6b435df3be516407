/-
# What is left of a query

A query is put in order by one judgement after the other, from the left: a segment stays
if it is a field (one with a value, if empty ones go) and, if repeated names go, no
field of its name has stayed before it.  A segment that does not stay claims no name, so
that of each name the first field that may stay does.  What has stayed is judged the
same way again, and stays.

`Keeps` lists the judgements without saying how they are made: it relates some segments
to those of them that are kept.  It leaves no choice (`Keeps.unique`), and the reader of
lists, which carries the names seen so far, keeps what it says (`keepFields_keeps`).
The rest is by induction on the judgements:

    Keeps.first       the first field of a name that may stay does
    Keeps.pairwise    no two fields of one name are kept
    Keeps.again       what was kept is kept again

Main statement: `filterQuery_keeps`.
-/
import Mathlib.Data.List.Induction
import PlainLink.Clean.Fields

namespace PlainLink.Clean

/-! ## Fields -/

/-- The segment is a field of the name, and has a value if it needs one. -/
def IsField (needsValue : Bool) (name segment : Text) : Prop :=
  ∃ value, segment = name ++ '=' :: value ∧ '=' ∉ name ∧ (needsValue → value ≠ [])

section

variable {needsValue : Bool} {name segment : Text}

theorem isField_iff : IsField needsValue name segment ↔
    ∃ value, field? segment = some (name, value) ∧ (needsValue → value ≠ []) := by
  constructor
  · rintro ⟨value, rfl, hname, hvalue⟩
    exact ⟨value, Text.splitFirst?_append hname value, hvalue⟩
  · rintro ⟨value, hfield, hvalue⟩
    obtain ⟨rfl, hname⟩ := Text.splitFirst?_eq_some hfield
    exact ⟨value, rfl, hname, hvalue⟩

theorem IsField.name_eq {needsValue' : Bool} {name' : Text} (h : IsField needsValue name segment)
    (h' : IsField needsValue' name' segment) : name = name' := by
  obtain ⟨value, hfield, -⟩ := isField_iff.1 h
  obtain ⟨value', hfield', -⟩ := isField_iff.1 h'
  exact congrArg Prod.fst (Option.some.inj (hfield.symm.trans hfield'))

theorem IsField.of_needs (h : IsField needsValue name segment) : IsField false name segment := by
  obtain ⟨value, hsegment, hname, -⟩ := h
  exact ⟨value, hsegment, hname, nofun⟩

end

/-! ## One judgement after the other -/

variable (stripEmpty stripDuplicates : Bool)

/-- The segment stays behind those that were kept before it. -/
def Stays (before : List Text) (segment : Text) : Prop :=
  ∃ name, IsField stripEmpty name segment ∧
    (stripDuplicates → ∀ earlier ∈ before, ¬ IsField stripEmpty name earlier)

/-- What is kept of some segments, judged from the left. -/
inductive Keeps : List Text → List Text → Prop
  | nil : Keeps [] []
  | keep {front kept : List Text} {segment : Text} :
      Keeps front kept → Stays stripEmpty stripDuplicates kept segment →
      Keeps (front ++ [segment]) (kept ++ [segment])
  | drop {front kept : List Text} {segment : Text} :
      Keeps front kept → ¬ Stays stripEmpty stripDuplicates kept segment →
        Keeps (front ++ [segment]) kept

namespace Keeps

variable {stripEmpty stripDuplicates : Bool} {front segments kept : List Text} {segment : Text}

theorem of_nil (h : Keeps stripEmpty stripDuplicates [] kept) : kept = [] := by
  generalize hnone : ([] : List Text) = none at h
  cases h with
  | nil => rfl
  | keep => exact absurd hnone.symm (List.concat_ne_nil _ _)
  | drop => exact absurd hnone.symm (List.concat_ne_nil _ _)

theorem of_concat (h : Keeps stripEmpty stripDuplicates (front ++ [segment]) kept) :
    ∃ before, Keeps stripEmpty stripDuplicates front before ∧
      (Stays stripEmpty stripDuplicates before segment ∧ kept = before ++ [segment] ∨
        ¬ Stays stripEmpty stripDuplicates before segment ∧ kept = before) := by
  generalize hwhole : front ++ [segment] = whole at h
  cases h with
  | nil => exact absurd hwhole (List.concat_ne_nil _ _)
  | keep hfront hstays =>
      obtain ⟨rfl, hlast⟩ := List.append_inj' hwhole rfl
      obtain ⟨rfl, -⟩ := List.cons.inj hlast
      exact ⟨_, hfront, .inl ⟨hstays, rfl⟩⟩
  | drop hfront hgoes =>
      obtain ⟨rfl, hlast⟩ := List.append_inj' hwhole rfl
      obtain ⟨rfl, -⟩ := List.cons.inj hlast
      exact ⟨_, hfront, .inr ⟨hgoes, rfl⟩⟩

theorem sublist (h : Keeps stripEmpty stripDuplicates segments kept) :
    kept.Sublist segments := by
  induction h with
  | nil => exact .refl _
  | keep _ _ ih => exact ih.append (.refl _)
  | drop _ _ ih => exact ih.trans (List.sublist_append_left _ _)

theorem isField (h : Keeps stripEmpty stripDuplicates segments kept) :
    ∀ segment ∈ kept, ∃ name, IsField stripEmpty name segment := by
  induction h with
  | nil => exact fun _ hmem => absurd hmem List.not_mem_nil
  | keep _ hstays ih =>
      intro segment hmem
      rcases List.mem_append.1 hmem with hmem | hmem
      · exact ih segment hmem
      · obtain ⟨name, hfield, -⟩ := hstays
        exact ⟨name, List.mem_singleton.1 hmem ▸ hfield⟩
  | drop _ _ ih => exact ih

/-- The judgements leave no choice. -/
theorem unique (h : Keeps stripEmpty stripDuplicates segments kept) {other : List Text}
    (hother : Keeps stripEmpty stripDuplicates segments other) : other = kept := by
  induction h generalizing other with
  | nil => exact hother.of_nil
  | keep _ hstays ih =>
      obtain ⟨before, hbefore, ⟨-, hkept⟩ | ⟨hgoes, -⟩⟩ := hother.of_concat
      · rw [hkept, ih hbefore]
      · exact absurd (ih hbefore ▸ hstays) hgoes
  | drop _ hgoes ih =>
      obtain ⟨before, hbefore, ⟨hstays, -⟩ | ⟨-, hkept⟩⟩ := hother.of_concat
      · exact absurd (ih hbefore ▸ hstays) hgoes
      · rw [hkept, ih hbefore]

theorem cut {back : List Text} (h : Keeps stripEmpty stripDuplicates (front ++ back) kept) :
    ∃ before after, Keeps stripEmpty stripDuplicates front before ∧ kept = before ++ after := by
  induction back using List.reverseRecOn generalizing kept with
  | nil => exact ⟨kept, [], List.append_nil front ▸ h, (List.append_nil kept).symm⟩
  | append_singleton back segment ih =>
      rw [← List.append_assoc] at h
      obtain ⟨before, hbefore, hlast⟩ := h.of_concat
      obtain ⟨first, after, hfirst, rfl⟩ := ih hbefore
      rcases hlast with ⟨-, rfl⟩ | ⟨-, rfl⟩
      · exact ⟨first, after ++ [segment], hfirst, List.append_assoc _ _ _⟩
      · exact ⟨first, after, hfirst, rfl⟩

theorem first {name : Text} {back : List Text}
    (h : Keeps stripEmpty stripDuplicates (front ++ segment :: back) kept)
    (hfield : IsField stripEmpty name segment)
    (hfirst : ∀ earlier ∈ front, ¬ IsField stripEmpty name earlier) :
    ∃ before after, Keeps stripEmpty stripDuplicates front before ∧
      kept = before ++ segment :: after := by
  rw [List.append_cons] at h
  obtain ⟨before, after, hbefore, rfl⟩ := h.cut
  obtain ⟨first, hkeeps, ⟨-, rfl⟩ | ⟨hgoes, -⟩⟩ := hbefore.of_concat
  · exact ⟨first, after, hkeeps, (List.append_cons _ _ _).symm⟩
  · have hnew : ∀ earlier ∈ first, ¬ IsField stripEmpty name earlier := fun earlier hmem =>
      hfirst earlier (hkeeps.sublist.subset hmem)
    exact absurd ⟨name, hfield, fun _ => hnew⟩ hgoes

theorem pairwise (h : Keeps stripEmpty true segments kept) :
    kept.Pairwise fun s t => ∀ name, IsField false name s → ¬ IsField false name t := by
  induction h with
  | nil => exact .nil
  | @keep front kept segment hkeeps hstays ih =>
      refine List.pairwise_append.2 ⟨ih, List.pairwise_singleton _ _,
        fun earlier hmem last hlast => ?_⟩
      obtain rfl := List.mem_singleton.1 hlast
      intro name hearlier hlast
      obtain ⟨name', hfield, hnew⟩ := hstays
      obtain ⟨name'', hfield'⟩ := hkeeps.isField earlier hmem
      obtain rfl := hfield.name_eq hlast
      obtain rfl := hfield'.name_eq hearlier
      exact hnew rfl earlier hmem hfield'
  | drop _ _ ih => exact ih

theorem again (h : Keeps stripEmpty stripDuplicates segments kept) :
    Keeps stripEmpty stripDuplicates kept kept := by
  induction h with
  | nil => exact .nil
  | keep _ hstays ih => exact .keep ih hstays
  | drop _ _ ih => exact ih

end Keeps

/-! ## The kept segments -/

/-- The names of the fields among some segments, latest first. -/
def namesBefore (segments : List Text) : List Text :=
  (segments.filterMap fun segment => (field? segment).map (·.1)).reverse

theorem mem_namesBefore {segments : List Text} {name : Text} :
    name ∈ namesBefore segments ↔ ∃ segment ∈ segments, IsField false name segment := by
  simp [namesBefore, isField_iff]

/-- A later segment is judged by the names of those that are kept before it. -/
theorem keepFields_append (seen segments more : List Text) :
    keepFields stripEmpty stripDuplicates seen (segments ++ more) =
      keepFields stripEmpty stripDuplicates seen segments ++
        keepFields stripEmpty stripDuplicates
          (namesBefore (keepFields stripEmpty stripDuplicates seen segments) ++ seen) more := by
  induction segments generalizing seen with
  | nil => rfl
  | cons segment segments ih =>
      rw [List.cons_append, keepFields, keepFields]
      cases hfield : field? segment with
      | none => exact ih seen
      | some field =>
          obtain ⟨name, value⟩ := field
          have hnames : ∀ kept, namesBefore (segment :: kept) ++ seen =
              namesBefore kept ++ name :: seen := by
            intro kept
            simp [namesBefore, hfield]
          dsimp only
          split
          · exact ih seen
          · rw [ih (name :: seen), List.cons_append, hnames]

section

variable {stripEmpty : Bool} (stripDuplicates : Bool)

/-- What the names of the kept segments tell of a segment is all that its
judgement asks of them. -/
theorem stays_iff {kept : List Text} (hkept : ∀ s ∈ kept, ∃ name, IsField stripEmpty name s)
    (segment : Text) :
    Stays stripEmpty stripDuplicates kept segment ↔ ∃ name value,
      field? segment = some (name, value) ∧
      ¬ ((stripEmpty && value.isEmpty) || (stripDuplicates &&
        (namesBefore kept).contains name)) := by
  have hseen : ∀ name, (namesBefore kept).contains name ↔
      ∃ earlier ∈ kept, IsField stripEmpty name earlier := by
    intro name
    rw [List.contains_iff_mem, mem_namesBefore]
    constructor
    · rintro ⟨earlier, hmem, hname⟩
      obtain ⟨name', hfield⟩ := hkept earlier hmem
      exact ⟨earlier, hmem, hname.name_eq hfield ▸ hfield⟩
    · rintro ⟨earlier, hmem, hname⟩
      exact ⟨earlier, hmem, hname.of_needs⟩
  simp only [Bool.or_eq_true, Bool.and_eq_true, List.isEmpty_iff, hseen]
  constructor
  · rintro ⟨name, hfield, hnew⟩
    obtain ⟨value, hvalue, hneeds⟩ := isField_iff.1 hfield
    refine ⟨name, value, hvalue, ?_⟩
    rintro (⟨hstrips, hnone⟩ | ⟨hstrips, earlier, hmem, hname⟩)
    · exact hneeds hstrips hnone
    · exact hnew hstrips earlier hmem hname
  · rintro ⟨name, value, hvalue, hstays⟩
    refine ⟨name, isField_iff.2 ⟨value, hvalue, fun hstrips hnone => ?_⟩,
      fun hstrips earlier hmem hname => ?_⟩
    · exact hstays (.inl ⟨hstrips, hnone⟩)
    · exact hstays (.inr ⟨hstrips, earlier, hmem, hname⟩)

end

theorem keepFields_keeps (segments : List Text) :
    Keeps stripEmpty stripDuplicates segments
      (keepFields stripEmpty stripDuplicates [] segments) := by
  induction segments using List.reverseRecOn with
  | nil => exact .nil
  | append_singleton front segment ih =>
      rw [keepFields_append, List.append_nil]
      generalize keepFields stripEmpty stripDuplicates [] front = kept at ih ⊢
      have hiff := stays_iff stripDuplicates ih.isField segment
      by_cases hstays : Stays stripEmpty stripDuplicates kept segment
      · obtain ⟨name, value, hfield, hkept⟩ := hiff.1 hstays
        simp only [keepFields, hfield, if_neg hkept]
        exact .keep ih hstays
      · have hnone :
            keepFields stripEmpty stripDuplicates (namesBefore kept) [segment] = [] := by
          unfold keepFields
          cases hfield : field? segment with
          | none => rfl
          | some field =>
              exact if_pos (Decidable.byContradiction fun hkept =>
                hstays (hiff.2 ⟨_, _, hfield, hkept⟩))
        rw [hnone, List.append_nil]
        exact .drop ih hstays

theorem splitOn_join_ampersand {kept : List Text} (hsome : kept ≠ [])
    (hfree : ∀ s ∈ kept, '&' ∉ s) :
    (Text.join ['&'] kept).splitOn '&' = kept := by
  obtain ⟨first, more, rfl⟩ := List.exists_cons_of_ne_nil hsome
  have hcut : (Text.join ['&'] (first :: more)).splitOn '&' = first :: more.map ([] ++ ·) :=
    Text.splitOn_join List.not_mem_nil hfree
  rwa [show more.map ([] ++ ·) = more from List.map_id more] at hcut

theorem ite_isEmpty_filterQuery (query : Text) :
    (if query.isEmpty then [] else filterQuery query stripEmpty stripDuplicates) =
      filterQuery query stripEmpty stripDuplicates := by
  cases query with
  | nil => rfl
  | cons c query => rfl

theorem keepFields_append_replicate (segments : List Text) (n : Nat) :
    keepFields stripEmpty stripDuplicates [] (segments ++ List.replicate n []) =
      keepFields stripEmpty stripDuplicates [] segments := by
  have hnone : ∀ m seen,
      keepFields stripEmpty stripDuplicates seen (List.replicate m []) = [] := by
    intro m
    induction m with
    | zero => exact fun _ => rfl
    | succ m ih => exact ih
  rw [keepFields_append, hnone, List.append_nil]

/-- A query is cut into segments, and what is kept of them is put together again.  The
judgements that the segments are kept by are those of `Keeps`, and leave no choice.  The first
field of each name that may stay does; if repeated names go, no two segments of the result have
one name; and to put the result in order once more changes nothing. -/
theorem filterQuery_keeps (query : Text) :
    ∃ kept, filterQuery query stripEmpty stripDuplicates = Text.join ['&'] kept ∧
      (∀ other, Keeps stripEmpty stripDuplicates (query.splitOn '&') other ↔ other = kept) ∧
      (kept ≠ [] → (filterQuery query stripEmpty stripDuplicates).splitOn '&' = kept) ∧
      (∀ front segment back name, query.splitOn '&' = front ++ segment :: back →
        IsField stripEmpty name segment →
        (∀ earlier ∈ front, ¬ IsField stripEmpty name earlier) →
        ∃ before after, Keeps stripEmpty stripDuplicates front before ∧
          kept = before ++ segment :: after) ∧
      (stripDuplicates → ((filterQuery query stripEmpty stripDuplicates).splitOn '&').Pairwise
        fun s t => ∀ name, IsField false name s → ¬ IsField false name t) ∧
      filterQuery (filterQuery query stripEmpty stripDuplicates) stripEmpty stripDuplicates =
        filterQuery query stripEmpty stripDuplicates := by
  have hkeeps := keepFields_keeps stripEmpty stripDuplicates (query.splitOn '&')
  have hresult : filterQuery query stripEmpty stripDuplicates =
      Text.join ['&'] (keepFields stripEmpty stripDuplicates [] (query.splitOn '&')) := rfl
  generalize keepFields stripEmpty stripDuplicates [] (query.splitOn '&') =
    kept at hkeeps hresult
  have hfree : ∀ s ∈ kept, '&' ∉ s := fun s hs =>
    Text.not_mem_of_mem_splitOn (hkeeps.sublist.subset hs)
  have hcut : kept ≠ [] → (filterQuery query stripEmpty stripDuplicates).splitOn '&' = kept :=
    fun hsome => hresult ▸ splitOn_join_ampersand hsome hfree
  have hempty : kept = [] → filterQuery query stripEmpty stripDuplicates = [] := by
    intro hnone
    rw [hresult, hnone]
    rfl
  refine ⟨kept, hresult, fun other => ⟨hkeeps.unique, fun h => h ▸ hkeeps⟩, hcut, ?_, ?_, ?_⟩
  · intro front segment back name hsegments hfield hfirst
    exact (hsegments ▸ hkeeps).first hfield hfirst
  · intro hduplicates
    by_cases hnone : kept = []
    · rw [hempty hnone]
      exact List.pairwise_singleton _ _
    · rw [hcut hnone]
      exact (hduplicates ▸ hkeeps).pairwise
  · by_cases hnone : kept = []
    · rw [hempty hnone]
      rfl
    · have hagain := keepFields_keeps stripEmpty stripDuplicates kept
      rw [hresult, filterQuery, splitOn_join_ampersand hnone hfree, hkeeps.again.unique hagain]

/-- An empty field that goes does not claim its name. -/
example : filterQuery "a=&b=1&c&a=2&b=3".toList true true = "b=1&a=2".toList := by decide

end PlainLink.Clean
