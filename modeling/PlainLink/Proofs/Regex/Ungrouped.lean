/-
# Patterns taken out of their group

A text that stands in a group of a longer pattern is a pattern of its own, or it closes
the group.  For a step that is made in the group is made alone, unless it closes the
group, or takes the parenthesis behind the text for something else.  Then the group
stays open: what follows the parenthesis closes no more groups than it opens.

Main statement: `Reader.run_of_grouped`.
-/
import PlainLink.Proofs.Regex.Alone
import PlainLink.Proofs.Regex.Levels

namespace PlainLink.Regex

theorem Move.length_le {c : Char} {ps ps' : List Pieces} (h : Move c ps ps') :
    ps.length ≤ ps'.length + [c].count ')' := by
  cases h with
  | close part p q ps hc =>
      subst hc
      simp
  | _ => simp +arith

namespace Reader

variable {base r : Reader} {more t t' : List Char}

/-! ## Open groups -/

/-- Reading the text closes at most so many of the groups that were open before. -/
def ClosesAtMost (n : Nat) (t : List Char) : Prop :=
  ∀ (steps : Nat) (r r' : Reader), run steps r t = .ok r' → r.outer.length ≤ r'.outer.length + n

theorem step_suffix {r' : Reader} {c : Char} {rest : List Char}
    (h : r.step c t = .ok (r', rest)) :
    rest <:+ t := by
  have hnames : ({} : Reader).names = [] := rfl
  exact ((lifts_step List.not_mem_nil hnames (.append [] t) c).reads h).1

theorem step_outer {r' : Reader} {c : Char} {rest : List Char}
    (h : r.step c t = .ok (r', rest)) :
    r.outer.length ≤ r'.outer.length + [c].count ')' := by
  have hlevels := (step_move h).length_le
  simp only [levels, List.length_cons, List.length_map] at hlevels
  omega

/-- Reading a text closes at most as many groups as there are closing parentheses in it. -/
theorem closesAtMost_count (t : List Char) : ClosesAtMost (t.count ')') t := by
  intro steps
  induction steps generalizing t with
  | zero =>
      intro r r' h
      cases h
      exact Nat.le_add_right _ _
  | succ steps ih =>
      intro r r' h
      have hskip := (skip_suffix r.flags t).sublist.count_le ')'
      unfold run at h
      split at h
      · cases h
        exact Nat.le_add_right _ _
      · next c u heq =>
        obtain ⟨⟨next, rest⟩, hstep, h⟩ := exists_of_bind_eq_ok h
        have houter := step_outer hstep
        have hrest := (step_suffix hstep).sublist.count_le ')'
        have hrun := ih rest next r' h
        rw [heq, ← List.singleton_append, List.count_append] at hskip
        omega

theorem run_openGroup (steps : Nat) (r : Reader) (t : List Char) :
    run (steps + 1) r ("(?:".toList ++ t) = run steps (r.openGroup none r.flags) t := by
  have hskip : r.flags.skip ("(?:".toList ++ t) = '(' :: '?' :: ':' :: t :=
    skip_cons r.flags (by decide) (by decide) _
  have hhead : r.flags.skip ('?' :: ':' :: t) = '?' :: ':' :: t :=
    skip_cons r.flags (by decide) (by decide) _
  rw [run, hskip]
  simp only [step, head, hhead]
  rfl

theorem ClosesAtMost.openGroup {n : Nat} (h : ClosesAtMost (n + 1) t) :
    ClosesAtMost n ("(?:".toList ++ t) := by
  intro steps r r' hrun
  cases steps with
  | zero =>
      cases hrun
      exact Nat.le_add_right _ _
  | succ steps =>
      have houter := h steps _ _ (run_openGroup steps r t ▸ hrun)
      simp only [Reader.openGroup, List.length_cons] at houter
      omega

theorem ClosesAtMost.paren {n : Nat} (h : ClosesAtMost n t) :
    ClosesAtMost (n + 1) (')' :: t) := by
  intro steps r r' hrun
  cases steps with
  | zero =>
      cases hrun
      exact Nat.le_add_right _ _
  | succ steps =>
      rw [run, skip_close] at hrun
      obtain ⟨⟨next, rest⟩, hstep, hrun⟩ := exists_of_bind_eq_ok hrun
      have houter := step_outer hstep
      obtain ⟨closed, -, hpair⟩ := exists_of_bind_eq_ok hstep
      cases hpair
      have hrest := h steps _ _ hrun
      rw [List.count_singleton_self] at houter
      omega

/-! ## Counts -/

section

variable (hmore : '\n' ∉ more) (f : Flags)

theorem alone_count : Alone more (count f) := by
  refine ⟨fun {t t' y} hgoes h => ?_⟩
  obtain ⟨hrow, -⟩ := count_goesOn (f := f) hgoes
  rw [count_eq] at h ⊢
  dsimp only at h ⊢
  rw [hrow] at h
  obtain ⟨n, hn, -⟩ := exists_of_bind_eq_ok h
  rw [hn]
  exact ⟨_, rfl⟩

theorem alone_closeCounts (least : Nat) (most : Option Nat) :
    Alone more (closeCounts f least most) := by
  have hclose : Alone more fun t =>
      if most.any (· < least) then .error .badCount else .ok ((least, most), f.skip t) := by
    split
    · exact .refuse .badCount
    · exact .total fun t => ⟨_, rfl⟩
  refine .lead '\x7d' (by decide) hclose (.refuse .badCount) (fun _ => rfl) fun t ht => ?_
  unfold closeCounts
  split
  · exact absurd rfl ht
  · rfl

include hmore

theorem alone_countBehind : Alone more (countBehind f) := by
  have hcount : Alone more fun t =>
      count f t >>= fun x => if x.1.isNone then .error .badCount else .ok x := by
    refine .bind (local_count hmore f) (alone_count f) fun most => ?_
    cases most with
    | none => exact .refuse .badCount
    | some most => exact .total fun t => ⟨_, rfl⟩
  refine .peek '\x7d' (by decide) (.total fun t => ⟨(none, t), rfl⟩) hcount (fun t ht => ?_)
    fun t ht => ?_
  · obtain ⟨rest, rfl⟩ := List.head?_eq_some_iff.1 ht
    rfl
  · unfold countBehind
    split
    · exact absurd rfl ht
    · rfl

theorem alone_upperCount (least : Nat) : Alone more (upperCount f least) := by
  refine .lead ',' (by decide) (.skip f hmore (alone_countBehind hmore f))
    (.total fun t => ⟨(some least, t), rfl⟩) (fun _ => rfl) fun t ht => ?_
  unfold upperCount
  split
  · exact absurd rfl ht
  · rfl

/-- Counts between braces are read alone: the parenthesis is no digit and no sign of theirs. -/
theorem alone_counts : Alone more (counts f) := by
  refine .bind (.skip hmore f (local_count hmore f)) (.skip f hmore (alone_count f))
    fun least => ?_
  cases least with
  | none => exact .refuse .badCount
  | some least =>
      refine .bind (local_upperCount hmore f least) (alone_upperCount hmore f least) fun most =>
        ?_
      exact alone_closeCounts f least most

end

/-! ## Group heads -/

theorem openNamed_alone (hmore : Harmless more) (hnames : base.names = [])
    (hgoes : GoesOn more t t') {y : Reader × List Char}
    (h : (within base r).openNamed t' = .ok y) : ∃ x, r.openNamed t = .ok x := by
  rw [openNamed_eq] at h ⊢
  cases hsplit' : Text.splitFirst? '>' t' with
  | none =>
      rw [hsplit'] at h
      cases h
  | some cut' =>
      obtain ⟨⟨name, rest⟩, hsplit⟩ := hgoes.splitFirst_alone (by decide) hmore.no_angle hsplit'
      obtain ⟨-, rest', hsame, -⟩ := hgoes.splitFirst hsplit
      rw [hsame] at h
      dsimp only at h
      rw [within_openNew hnames] at h
      obtain ⟨_, hwithin, -⟩ := exists_of_bind_eq_ok h
      obtain ⟨opened, hopen, -⟩ := exists_of_bind_eq_ok hwithin
      rw [hsplit]
      dsimp only
      rw [hopen]
      exact ⟨_, rfl⟩

theorem flagStep_paren {f : Flags} {value : Bool} {seen : List Char} {next : Flags × Bool} :
    flagStep f value seen ')' ≠ .ok (some next) := by
  unfold flagStep
  rw [if_pos (by decide)]
  split
  · exact nofun
  · split <;> exact nofun

/-- A row of flags is read alone, unless it takes the parenthesis for its own. -/
theorem flagRow_alone {f f' : Flags} {value : Bool} {seen rest' : List Char} {sign : Char}
    (hgoes : GoesOn more t t') (h : flagRow f value seen t' = .ok (f', sign, rest')) :
    (∃ x, flagRow f value seen t = .ok x) ∨ rest' = more := by
  induction t generalizing t' f value seen with
  | nil =>
      rcases hgoes.nil with rfl | rfl
      · rw [flagRow_cons] at h
        obtain ⟨step, hstep, h⟩ := exists_of_bind_eq_ok h
        cases step with
        | none =>
            cases h
            exact .inr rfl
        | some next => exact absurd hstep flagStep_paren
      · cases h
  | cons c t ih =>
      obtain ⟨u, rfl, hu⟩ := hgoes.cons
      rw [flagRow_cons] at h ⊢
      obtain ⟨step, hstep, h⟩ := exists_of_bind_eq_ok h
      rw [hstep]
      cases step with
      | none => exact .inl ⟨_, rfl⟩
      | some next => exact ih hu h

/-- The head of a group is read alone, unless a row of flags takes the
parenthesis for its own. -/
theorem head_alone (hmore : Harmless more) (hnames : base.names = [])
    (hgoes : GoesOn more t t') {w : Reader} {rest' : List Char}
    (h : (within base r).head t' = .ok (w, rest')) :
    (∃ x, r.head t = .ok x) ∨ rest' = more := by
  have hskip := skip_goesOn hmore.no_newline r.flags hgoes
  rw [head_eq, within_flags] at h
  rw [head_eq]
  rcases hskip.front? heads (by decide) with
    ⟨hnone, hnone'⟩ | ⟨head, v, v', hfront, hfront', -, hv⟩
  · rw [hnone]
    exact .inl ⟨_, rfl⟩
  · rw [hfront'] at h
    rw [hfront]
    cases head with
    | look => cases h
    | named => exact .inl (openNamed_alone hmore hnames hv h)
    | flags =>
        obtain ⟨⟨f, sign, behind⟩, hrow', h⟩ := exists_of_bind_eq_ok h
        dsimp only [afterFlags] at h
        rcases flagRow_alone hv hrow' with ⟨row, hrow⟩ | rfl
        · left
          simp only [hrow, bind, Except.bind, afterFlags]
          split <;> exact ⟨_, rfl⟩
        · right
          split at h <;> (cases h; rfl)

/-! ## Steps -/

/-- The reader cannot come to the end of the text with all groups closed. -/
def Stuck (r : Reader) (t : List Char) : Prop :=
  ∀ (steps : Nat) (r' : Reader), t.length < steps → run steps r t = .ok r' → r'.outer ≠ []

theorem ClosesAtMost.stuck (h : ClosesAtMost 0 t) (houter : r.outer ≠ []) : Stuck r t := by
  intro steps r' _ hrun hclosed
  have hlength := h steps r r' hrun
  rw [hclosed] at hlength
  exact houter (List.length_eq_zero_iff.1 (Nat.le_zero.1 hlength))

theorem stuck_of_brace {e : Expr} {depth : Nat} {before : List Part} {s : List Char}
    (hcurrent : r.pieces.current = .expr e depth :: before)
    (hskip : r.flags.skip s = ')' :: more) :
    Stuck r ('\x7b' :: s) := by
  intro steps r' hsteps hrun
  obtain ⟨steps, rfl⟩ := Nat.exists_eq_add_one_of_ne_zero (Nat.ne_zero_of_lt hsteps)
  rw [run, skip_cons r.flags (by decide) (by decide)] at hrun
  obtain ⟨x, hstep, -⟩ := exists_of_bind_eq_ok hrun
  obtain ⟨rest, hcount⟩ : ∃ rest, count r.flags (')' :: more) = .ok (none, rest) := by
    have hblank : ¬ Text.isBlank ')' := by decide
    have hdigit : ¬ isCountChar r.flags ')' := by simp [isCountChar, hblank]
    simp [count_eq, countOf, hblank, hdigit, bind, Except.bind]
  have hcounts : counts r.flags s = .error .badCount := by
    rw [counts, hskip, hcount]
    rfl
  have hrepeat : r.repeatCounted s = .ok x := hstep
  rw [repeatCounted_eq hcurrent, hcounts] at hrepeat
  cases hrepeat

theorem exists_current_of_within {e : Expr} {depth : Nat} {before : List Part}
    (h : (within base r).pieces.current = .expr e depth :: before) :
    ∃ e before, r.pieces.current = .expr e depth :: before := by
  obtain ⟨part, before, hcurrent, hpart, -⟩ := List.map_eq_cons_iff.1 h
  cases part with
  | expr e d =>
      cases hpart
      exact ⟨e, before, hcurrent⟩
  | flags => cases hpart

theorem repeatLast_alone {least : Nat} {most : Option Nat} {y : Reader × List Char}
    (h : (within base r).repeatLast least most t' = .ok y) (t : List Char) :
    ∃ x, r.repeatLast least most t = .ok x := by
  obtain ⟨_, depth, _, hcurrent'⟩ := exists_current_of_repeatLast h
  obtain ⟨e, before, hcurrent⟩ := exists_current_of_within hcurrent'
  exact ⟨_, repeatLast_eq hcurrent least most t⟩

theorem repeatCounted_alone (hmore : '\n' ∉ more) (hgoes : GoesOn more t t')
    {y : Reader × List Char} (h : (within base r).repeatCounted t' = .ok y) :
    ∃ x, r.repeatCounted t = .ok x := by
  obtain ⟨_, depth, _, hcurrent'⟩ := exists_current_of_repeatCounted h
  obtain ⟨e, before, hcurrent⟩ := exists_current_of_within hcurrent'
  rw [repeatCounted_eq hcurrent'] at h
  rw [repeatCounted_eq hcurrent]
  obtain ⟨counted, hcounts', -⟩ := exists_of_bind_eq_ok h
  obtain ⟨own, hcounts⟩ := (alone_counts hmore r.flags).reads hgoes hcounts'
  rw [hcounts]
  exact ⟨_, repeatLast_eq hcurrent own.1.1 own.1.2 own.2⟩

theorem addAtom_alone {a : Atom} {w : Reader} (h : (within base r).addAtom a = .ok w) :
    ∃ r', r.addAtom a = .ok r' := by
  cases a with
  | char c => exact ⟨_, rfl⟩
  | byte c => cases h
  | set s =>
      obtain ⟨fitted, hfit, -⟩ := exists_of_bind_eq_ok h
      rw [within_flags] at hfit
      exact ⟨_, by rw [addAtom, hfit]; rfl⟩
  | look l => exact ⟨_, rfl⟩

/-- A step that is made in the group is made alone, unless it closes the group, or
the group stays open. -/
theorem step_alone (hmore : Harmless more) (hgroups : ClosesAtMost 0 more)
    (hnames : base.names = []) (hgoes : GoesOn more t t') {c : Char} {w : Reader}
    {rest' : List Char} (h : (within base r).step c t' = .ok (w, rest')) :
    (∃ x, r.step c t = .ok x) ∨ r.step c t = .error .groupNotOpened ∨ Stuck w rest' := by
  have hopen : c ≠ ')' → rest' = more → Stuck w rest' := by
    rintro hc rfl
    have houter := step_outer h
    rw [List.count_singleton, if_neg (by simpa using hc)] at houter
    refine hgroups.stuck (List.ne_nil_of_length_pos ?_)
    simp only [within, List.length_append, List.length_cons] at houter
    omega
  revert h
  unfold step
  split <;> intro h
  · exact (head_alone hmore hnames hgoes h).imp_right fun hparen => .inr
      (hopen (by decide) hparen)
  · cases hcase : r.outer with
    | nil => exact .inr (.inl (by rw [closeGroup, hcase]; rfl))
    | cons o outer => exact .inl ⟨_, by rw [closeGroup, hcase]; rfl⟩
  · exact .inl ⟨_, rfl⟩
  · obtain ⟨x, hclass, -⟩ := exists_of_bind_eq_ok h
    obtain ⟨own, hown⟩ := (alone_bracket r.flags hmore depthLimit).reads hgoes hclass
    exact .inl ⟨_, by rw [hown]; rfl⟩
  · exact .inl (repeatLast_alone h t)
  · exact .inl (repeatLast_alone h t)
  · exact .inl (repeatLast_alone h t)
  · exact .inl (repeatCounted_alone hmore.no_newline hgoes h)
  · obtain ⟨⟨a, behind⟩, hescape', h⟩ := exists_of_bind_eq_ok h
    obtain ⟨added, hadd', h⟩ := exists_of_bind_eq_ok h
    cases h
    rcases escape_alone r.flags hmore hgoes hescape' with hown | rfl | ⟨l, s, rfl, rfl, hskip⟩
    · obtain ⟨rest, hescape, -⟩ :=
        (local_escape hmore.no_newline r.flags).agrees hgoes hown hescape'
      obtain ⟨r', hadd⟩ := addAtom_alone hadd'
      refine .inl ⟨(r', rest), ?_⟩
      rw [hescape]
      exact congrArg (· >>= fun r => Except.ok (r, rest)) hadd
    · exact .inr (.inr (hopen (by decide) rfl))
    · -- Behind a word boundary the next step comes to the brace.
      cases hadd'
      exact .inr (.inr (stuck_of_brace rfl hskip))
  · obtain ⟨x, hdot, -⟩ := exists_of_bind_eq_ok h
    rw [within_flags] at hdot
    exact .inl ⟨_, by rw [hdot]; rfl⟩
  · exact .inl ⟨_, rfl⟩
  · exact .inl ⟨_, rfl⟩
  · exact .inl ⟨_, rfl⟩

/-! ## Runs -/

section

variable {whole : Reader} (hmore : Harmless more) (hgroups : ClosesAtMost 0 more)

include hmore hgroups

/-- A run in the group that ends with all groups closed is made alone, up to where
it closes the group. -/
theorem run_alone (hnames : base.names = []) {steps steps' : Nat} (hsteps : t.length < steps)
    (hsteps' : t'.length < steps') (hgoes : GoesOn more t t')
    (h : run steps' (within base r) t' = .ok whole)
    (hclosed : whole.outer = []) :
    (∃ r', run steps r t = .ok r') ∨ run steps r t = .error .groupNotOpened := by
  -- On the steps made alone: each step in the group that is not the last is made alone as
  -- well, and leaves the two readers as far apart as they were.
  induction steps generalizing steps' r t t' with
  | zero => exact absurd hsteps (Nat.not_lt_zero _)
  | succ steps ih =>
      obtain ⟨steps', rfl⟩ := Nat.exists_eq_add_one_of_ne_zero (Nat.ne_zero_of_lt hsteps')
      have hskip := skip_goesOn hmore.no_newline r.flags hgoes
      have hsuffix := (skip_suffix r.flags t).length_le
      have hsuffix' := (skip_suffix r.flags t').length_le
      unfold run at h ⊢
      rw [within_flags] at h
      generalize r.flags.skip t = s at hskip hsuffix ⊢
      generalize r.flags.skip t' = s' at h hskip hsuffix'
      cases s with
      | nil => exact .inl ⟨r, rfl⟩
      | cons c u =>
          obtain ⟨u', rfl, hu⟩ := hskip.cons
          obtain ⟨⟨w, rest'⟩, hstep', h⟩ := exists_of_bind_eq_ok h
          have hrest' := (step_suffix hstep').length_le
          rw [List.length_cons] at hsuffix hsuffix'
          dsimp only
          rcases step_alone hmore hgroups hnames hu hstep' with ⟨⟨next, rest⟩,
              hstep⟩ | hclose | hstuck
          · obtain ⟨hrest, _, hsame, hgoes'⟩ :=
              (lifts_step hmore.no_newline hnames hu c).reads hstep
            obtain ⟨rfl, rfl⟩ := Prod.mk.inj (Except.ok.inj (hstep'.symm.trans hsame))
            have hlength := hrest.length_le
            rw [hstep]
            exact ih (show rest.length < steps by omega) (by omega) hgoes' h
          · rw [hclose]
            exact .inr rfl
          · exact absurd hclosed (hstuck steps' whole (by omega) h)

/-- A text that is read in a group to an end where all groups are closed can be read alone with
all groups closed, or it closes a group that it has not opened. -/
theorem run_of_grouped (before : Reader) {source : Text} {steps : Nat}
    (hflags : before.flags = {}) (hnames : before.names = [])
    (hsteps : source.length + more.length + 1 < steps)
    (h : run steps (before.openGroup none {}) (source ++ ')' :: more) = .ok whole)
    (hclosed : whole.outer = []) :
    (∃ r, run (source.length + 1) {} source = .ok r ∧ r.outer = []) ∨
      run (source.length + 1) {} source = .error .groupNotOpened := by
  have hlength : (source ++ ')' :: more).length < steps := by
    rw [List.length_append, List.length_cons]
    omega
  rw [← within_start hflags hnames] at h
  rcases run_alone hmore hgroups hnames (Nat.lt_succ_self _) hlength
      (.append more source) h hclosed with
    ⟨r, hrun⟩ | herror
  · -- With a group left open alone, the parenthesis closes that one, and the group of the text
    -- stays open.
    refine .inl ⟨r, hrun, ?_⟩
    have hwithin :
        (within before r).outer.length = r.outer.length + (before.outer.length + 1) := by
      simp [within]
    rcases run_within hmore.no_newline hnames (Nat.lt_succ_self _) hlength
        (.append more source) hrun with
      hswallowed | ⟨left, -, hreads⟩
    · rw [hswallowed] at h
      cases h
      rw [hclosed, List.length_nil] at hwithin
      omega
    · have houter := hgroups.paren left _ _ (hreads.symm.trans h)
      rw [hclosed, hwithin, List.length_nil] at houter
      exact List.length_eq_zero_iff.1 (by omega)
  · exact .inr herror

end

end Reader

end PlainLink.Regex
