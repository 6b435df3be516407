/-
# Texts that close no class

A class that is read to its end has one closing bracket more than it has opening ones,
if there are no escapes, ranges and line breaks in the text.  So a text in which the
closing brackets never get ahead of the opening ones cannot close a class that was
opened in front of it.

Main statement: `Sealed.not_inClass`.
-/
import PlainLink.Proofs.Regex.Classes

namespace PlainLink.Regex

/-- The text is read straight on: there are no escapes and no hyphens in it, and no line break
that could end a comment. -/
def Straight (t : Text) : Prop :=
  ∀ c ∈ t, c ∉ ['\n', '-', '\\']

/-- The text `u` is left of `t` behind something in which no class begins,
or nothing is left. -/
def Omits (t u : Text) : Prop :=
  u = [] ∨ ∃ omitted, t = omitted ++ u ∧ omitted.count '[' = 0

/-- What is read of `t` up to `rest` closes more classes than it opens. -/
def Closes (t rest : Text) : Prop :=
  ∃ used, t = used ++ rest ∧ used.count '[' < used.count ']'

/-- The text is read straight on, and closes none of the classes around it. -/
structure Sealed (t : Text) : Prop where
  straight : Straight t
  count_le : ∀ used, used <+: t → used.count ']' ≤ used.count '['

section

variable {t u v rest : Text} {c : Char}

theorem Straight.of_suffix (h : Straight t) (hu : u <:+ t) : Straight u :=
  fun c hc => h c (hu.subset hc)

theorem Straight.ne (h : Straight (c :: t)) : c ≠ '\n' ∧ c ≠ '-' ∧ c ≠ '\\' := by
  simpa using h c List.mem_cons_self

theorem Straight.not_mem_newline (h : Straight t) : '\n' ∉ t :=
  fun hmem => h _ hmem (by decide)

/-! ## Leaving out -/

theorem Omits.refl (t : Text) : Omits t t :=
  .inr ⟨[], rfl, rfl⟩

theorem Omits.trans (htu : Omits t u) (huv : Omits u v) : Omits t v := by
  rcases huv with rfl | ⟨omitted', rfl, hcount'⟩
  · exact .inl rfl
  · rcases htu with hnil | ⟨omitted, rfl, hcount⟩
    · exact .inl (List.append_eq_nil_iff.1 hnil).2
    · refine .inr ⟨omitted ++ omitted', (List.append_assoc _ _ _).symm, ?_⟩
      rw [List.count_append, hcount, hcount']

theorem Omits.cons (hc : c ≠ '[') (h : Omits t u) : Omits (c :: t) u := by
  rcases h with rfl | ⟨omitted, rfl, hcount⟩
  · exact .inl rfl
  · exact .inr ⟨c :: omitted, rfl, by rw [List.count_cons_of_ne hc, hcount]⟩

/-- Blanks are left out, and a comment leaves nothing, since its line does not end. -/
theorem Straight.omits_skip (h : Straight t) (f : Flags) : Omits t (f.skip t) := by
  unfold Flags.skip
  split
  · induction t with
    | nil => exact .refl _
    | cons c t ih =>
        have htail := h.of_suffix (List.suffix_cons c t)
        unfold dropSpaceAnd
        split
        · next hblank => exact .cons (by rintro rfl; cases hblank) (ih htail)
        · split
          · exact .inl (dropSpaceAnd_comment htail.not_mem_newline)
          · exact .refl _
  · exact .refl _

theorem omits_leadSign (sign : Char) (hsign : sign ≠ '[') (t : Text) :
    Omits t (leadSign sign t).2 := by
  unfold leadSign
  split
  · next hhead =>
    obtain ⟨rest, rfl⟩ := List.head?_eq_some_iff.1 hhead
    exact .cons hsign (.refl rest)
  · exact .refl t

theorem Straight.omits_complementSign (h : Straight t) (f : Flags) :
    Omits t (complementSign f t).2 := by
  have hskip := h.omits_skip f
  have hsign := omits_leadSign '^' (by decide) (f.skip t)
  have hbehind : Straight (leadSign '^' (f.skip t)).2 := by
    have hsuffix := (leadSign_goesOn '^' (by decide) (.append [] (f.skip t))).1
    exact h.of_suffix (hsuffix.trans (skip_suffix f t))
  unfold complementSign
  dsimp only
  split
  · exact (hskip.trans hsign).trans (hbehind.omits_skip f)
  · exact hskip.trans hsign

theorem Straight.omits_opening (h : Straight t) (f : Flags) : Omits t (opening f t).2.2 := by
  have hsign := h.omits_complementSign f
  have hbehind : Straight (complementSign f t).2 :=
    h.of_suffix (complementSign_goesOn List.not_mem_nil f (.append [] t)).1
  rw [opening_eq]
  dsimp only
  generalize (complementSign f t).2 = u at hsign hbehind
  have hhyphens : u.dropWhile (· == '-') = u := by
    cases u with
    | nil => rfl
    | cons c u => simp [hbehind.ne.2.1]
  rw [hhyphens]
  refine hsign.trans ((hbehind.omits_skip f).trans ?_)
  unfold closingItem
  dsimp only
  split
  · exact omits_leadSign ']' (by decide) _
  · exact .refl _

/-! ## Closing -/

theorem Omits.closes (htu : Omits t u) (hu : Closes u rest) : Closes t rest := by
  obtain ⟨used, rfl, hcount⟩ := hu
  rcases htu with hnil | ⟨omitted, rfl, homitted⟩
  · obtain ⟨rfl, rfl⟩ := List.append_eq_nil_iff.1 hnil
    exact absurd hcount (Nat.lt_irrefl _)
  · refine ⟨omitted ++ used, (List.append_assoc _ _ _).symm, ?_⟩
    rw [List.count_append, List.count_append, homitted]
    omega

theorem Closes.inside (htu : Closes t u) (hu : Closes u rest) : Closes ('[' :: t) rest := by
  obtain ⟨inside, rfl, hinside⟩ := htu
  obtain ⟨used, rfl, hcount⟩ := hu
  refine ⟨'[' :: (inside ++ used), by simp, ?_⟩
  rw [List.count_cons_self, List.count_cons_of_ne (by decide), List.count_append,
    List.count_append]
  omega

theorem Closes.suffix (h : Closes t rest) : rest <:+ t := by
  obtain ⟨used, rfl, -⟩ := h
  exact List.suffix_append used rest

theorem rest_of_itemBehind {f : Flags} {first : Atom} {s : CharSet} (h : Straight t)
    (hitem : itemBehind f first t = .ok (s, rest)) : rest = t := by
  cases t with
  | nil => cases hitem
  | cons c t =>
      have hc : c ≠ '-' := h.ne.2.1
      unfold itemBehind at hitem
      split at hitem
      · next heq => cases heq
      · next heq => exact absurd (List.cons.inj heq).1 hc
      · obtain ⟨s, -, hitem⟩ := exists_of_bind_eq_ok hitem
        cases hitem
        rfl

theorem omits_bracketItem {f : Flags} {s : CharSet} (h : Straight (c :: t)) (hc : c ≠ '[')
    (hitem : bracketItem f (c :: t) = .ok (s, rest)) : Omits (c :: t) rest := by
  have htail := h.of_suffix (List.suffix_cons c t)
  have hslash : ¬ c = '\\' := h.ne.2.2
  have hatom : bracketAtom f (c :: t) = .ok (.char c, t) := by
    simp only [bracketAtom]
  rw [bracketItem_eq, hatom] at hitem
  obtain rfl := rest_of_itemBehind (htail.of_suffix (skip_suffix f t)) hitem
  exact .cons hc (htail.omits_skip f)

theorem InClass.closes {f : Flags} {depth : Nat} {negated : Bool}
    {listing : Listing} {s : CharSet} (h : InClass f depth negated listing t s rest)
    (hstraight : Straight t) : Closes t rest := by
  induction h with
  | close hclose _ =>
      refine (hstraight.omits_skip f).closes ?_
      rw [hclose]
      exact ⟨[']'], rfl, by decide⟩
  | @named _ _ _ _ v behind _ _ _ hinner hnamed _ ih =>
      obtain ⟨front, rfl, -, hopen, hclose, -⟩ := namedClass?_cut hnamed
      have hfront : Closes (front ++ behind) behind := ⟨front, rfl, by
        rw [List.count_eq_zero.2 hopen]
        exact List.count_pos_iff.2 hclose⟩
      have hv := hstraight.of_suffix (suffix_of_skip_eq hinner)
      refine (hstraight.omits_skip f).closes ?_
      rw [hinner]
      exact hfront.inside (ih (hv.of_suffix (List.suffix_append ('[' :: front) behind)))
  | @inside _ _ _ _ _ _ v w middle _ _ _ hinner _ hopening _ _ ihinside ih =>
      have hv : Straight v :=
        hstraight.of_suffix ((List.suffix_cons '[' v).trans (suffix_of_skip_eq hinner))
      have hw : Omits v w ∧ Straight w := by
        have homits := hv.omits_opening f
        have hsuffix := opening_suffix f v
        rw [hopening] at homits hsuffix
        exact ⟨homits, hv.of_suffix hsuffix⟩
      have hmiddle : Closes v middle := hw.1.closes (ihinside hw.2)
      refine (hstraight.omits_skip f).closes ?_
      rw [hinner]
      exact hmiddle.inside (ih (hv.of_suffix hmiddle.suffix))
  | @combine _ _ _ _ v _ how _ hcombine _ ih =>
      have hv : Straight v :=
        hstraight.of_suffix ((List.suffix_append _ v).trans (suffix_of_skip_eq hcombine))
      have homits : Omits ((ClassSign.combine how).text ++ v) v :=
        .inr ⟨_, rfl, by cases how <;> rfl⟩
      exact (hstraight.omits_skip f).closes (hcombine ▸ homits.closes (ih hv))
  | @item _ _ _ t middle _ _ _ hsign hitem _ ih =>
      have hskip := hstraight.of_suffix (skip_suffix f t)
      refine (hstraight.omits_skip f).closes ?_
      cases hu : f.skip t with
      | nil =>
          rw [hu] at hitem
          cases hitem
      | cons c v =>
          rw [hu] at hitem hskip
          have hc : c ≠ '[' :=
            fun hc => classSign?_eq_none_iff.1 hsign .inner v (hu.trans (hc ▸ rfl))
          have homits := omits_bracketItem hskip hc hitem
          exact homits.closes (ih (hskip.of_suffix (bracketItem_suffix hitem)))

/-! ## Sealed texts -/

theorem Sealed.of_omits (h : Sealed t) (hu : Omits t u) : Sealed u := by
  rcases hu with rfl | ⟨omitted, rfl, homitted⟩
  · exact ⟨nofun, fun used hused => by rw [List.prefix_nil.1 hused]; exact Nat.le_refl _⟩
  · refine ⟨h.straight.of_suffix (List.suffix_append omitted u), fun used hused => ?_⟩
    have hcount := h.count_le (omitted ++ used) (List.prefix_append_right_inj omitted |>.2 hused)
    rw [List.count_append, List.count_append, homitted] at hcount
    omega

theorem Sealed.skip (h : Sealed t) (f : Flags) : Sealed (f.skip t) :=
  h.of_omits (h.straight.omits_skip f)

theorem Sealed.cons_paren (h : Sealed t) : Sealed (')' :: t) := by
  refine ⟨fun c hc => ?_, fun used hused => ?_⟩
  · rcases List.mem_cons.1 hc with rfl | hc
    · decide
    · exact h.straight c hc
  · cases used with
    | nil => exact Nat.le_refl _
    | cons c used =>
        obtain ⟨rfl, hbehind⟩ := List.cons_prefix_cons.1 hused
        rw [List.count_cons_of_ne (by decide), List.count_cons_of_ne (by decide)]
        exact h.count_le used hbehind

/-- No class is closed by a sealed text. -/
theorem Sealed.not_inClass (h : Sealed t) {f : Flags} {depth : Nat} {negated : Bool}
    {listing : Listing} {s : CharSet} : ¬ InClass f depth negated listing t s rest := by
  intro hclass
  obtain ⟨used, rfl, hcount⟩ := hclass.closes h.straight
  exact absurd hcount (Nat.not_lt.2 (h.count_le used (List.prefix_append _ _)))

end

end PlainLink.Regex
