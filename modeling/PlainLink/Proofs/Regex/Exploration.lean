/-
# Exploring a place

A search goes through a numbered place at most once at each position.  That is enough to
find a path if there is any, since a path that comes back to a numbered place before it
takes a character can be cut short.  `LivesOff` is the existence of a path that keeps
off some numbers up to its next character, and `LivesOff.exit` is the cut.

The invariant of the search is that a front is alive if a path leads on from any
numbered place that was gone through.  While the branches of a choice are gone through,
this is known only of paths that keep off that choice; when they are, `LivesOff.exit`
gives it of the others.

Main statements: `enterAll_covers`, `advance_covers`.
-/
import PlainLink.Proofs.Regex.Paths

namespace PlainLink.Regex

/-! ## Paths that keep off some numbers -/

/-- Some path leads through the row and comes to none of the numbers in `busy` before
it takes a character. -/
inductive LivesOff (p : Spot) (busy : List Nat) : List Node → Prop
  | done : LivesOff p busy []
  | take {id : Nat} {s : CharSet} {rest : List Node} {r : Spot} :
      id ∉ busy → r ∈ p.take s → Lives rest r → LivesOff p busy (.set id s :: rest)
  | pass {n : Node} {rest row : List Node} {r : Spot} :
      (∀ id ∈ n.number?, id ∉ busy) → (row, r) ∈ n.steps p rest → LivesOff p busy row →
        LivesOff p busy (n :: rest)

/-- Each number of the row stands for one row of parts. -/
def RowNumbered (stack : Nat → List Node) : List Node → Prop
  | [] => True
  | n :: rest => n.numbered stack rest ∧ RowNumbered stack rest

section

variable {n : Node} {rest row : List Node} {p p' r : Spot} {id : Nat} {busy busy' : List Nat}
  {stack : Nat → List Node}

theorem LivesOff.of_alike (h : LivesOff p busy row) (hp : p.Alike p') :
    LivesOff p' busy row := by
  induction h with
  | done => exact .done
  | take hid htake hrest =>
      obtain ⟨r', hr', halike⟩ := hp.take htake
      exact .take hid hr' (hrest.of_alike halike)
  | pass hid hstep _ ih =>
      obtain ⟨r', hr', -⟩ := hp.steps hstep
      exact .pass hid hr' ih

theorem LivesOff.mono (h : LivesOff p busy' row) (hsub : busy ⊆ busy') :
    LivesOff p busy row := by
  induction h with
  | done => exact .done
  | take hid htake hrest => exact .take (fun hmem => hid (hsub hmem)) htake hrest
  | pass hid hstep _ ih => exact .pass (fun i hi hmem => hid i hi (hsub hmem)) hstep ih

theorem Lives.off (h : Lives row p) : LivesOff p [] row := by
  obtain ⟨q, hq⟩ := h
  induction hq with
  | done p => exact .done
  | take htake hrest _ => exact .take List.not_mem_nil htake ⟨_, hrest⟩
  | pass hstep _ ih =>
      have hto := Node.to_of_mem_steps hstep
      exact .pass (fun _ _ => List.not_mem_nil) hstep (ih.of_alike ⟨hto.before, hto.rest.symm⟩)

/-- A path through a part that is no set goes on in a row to which the part hands on. -/
theorem LivesOff.next (h : LivesOff p busy (n :: rest)) (hset : ∀ i s, n ≠ .set i s) :
    ∃ s ∈ n.steps p rest, LivesOff p busy s.1 := by
  cases h with
  | take _ _ _ => exact absurd rfl (hset _ _)
  | pass _ hstep hoff => exact ⟨_, hstep, hoff⟩

theorem LivesOff.number_not_mem (h : LivesOff p busy (n :: rest)) (hid : n.number? = some id) :
    id ∉ busy := by
  cases h with
  | take hnot _ _ => exact Option.some.inj hid ▸ hnot
  | pass hnot _ _ => exact hnot id hid

theorem RowNumbered.stack_eq (h : RowNumbered stack (n :: rest)) (hid : n.number? = some id) :
    stack id = n :: rest := by
  cases n with
  | set i s => exact Option.some.inj hid ▸ h.1
  | fork i a b => exact Option.some.inj hid ▸ h.1.1
  | loop i greedy body => exact Option.some.inj hid ▸ h.1.1
  | _ => cases hid

theorem RowNumbered.steps (h : RowNumbered stack (n :: rest))
    (hrow : (row, r) ∈ n.steps p rest) :
    RowNumbered stack row := by
  obtain ⟨hn, hrest⟩ := h
  cases n with
  | set i s => cases hrow
  | look l =>
      obtain ⟨s, -, heq⟩ := List.mem_map.1 hrow
      exact (Prod.mk.inj heq).1 ▸ hrest
  | skip => exact (Prod.mk.inj (List.mem_singleton.1 hrow)).1 ▸ hrest
  | mark slot => exact (Prod.mk.inj (List.mem_singleton.1 hrow)).1 ▸ hrest
  | seq a b => exact (Prod.mk.inj (List.mem_singleton.1 hrow)).1 ▸ ⟨hn.1, hn.2, hrest⟩
  | fork i a b =>
      rcases List.mem_cons.1 hrow with heq | hrow
      · exact (Prod.mk.inj heq).1 ▸ ⟨hn.2.1, hrest⟩
      · exact (Prod.mk.inj (List.mem_singleton.1 hrow)).1 ▸ ⟨hn.2.2, hrest⟩
  | loop i greedy body =>
      rcases List.mem_cons.1 hrow with heq | hrow
      · exact (Prod.mk.inj heq).1 ▸ ⟨hn.2, hn, hrest⟩
      · exact (Prod.mk.inj (List.mem_singleton.1 hrow)).1 ▸ hrest

/-- A path that need not keep off the number of a choice may be cut to one that does, or to one
that goes on from that choice and does not come back to it. -/
theorem LivesOff.exit (h : LivesOff p busy row) (hrow : RowNumbered stack row)
    (hn : RowNumbered stack (n :: rest)) (hid : n.number? = some id)
    (hset : ∀ i s, n ≠ .set i s) :
    LivesOff p (id :: busy) row ∨
      ∃ s ∈ n.steps p rest, LivesOff p (id :: busy) s.1 := by
  have hstack := hn.stack_eq hid
  induction h with
  | done => exact .inl .done
  | @take i s rest' r hi htake hlives =>
      refine .inl (.take (fun hmem => ?_) htake hlives)
      rcases List.mem_cons.1 hmem with rfl | hmem
      · have hsame := hrow.stack_eq rfl
        rw [hstack] at hsame
        exact hset _ _ (List.cons.inj hsame).1
      · exact hi hmem
  | @pass m rest' row' r hi hstep _ ih =>
      rcases ih (hrow.steps hstep) with hoff | hexit
      · by_cases hm : m.number? = some id
        · -- This is the choice itself, and the path goes on from it.
          have hsame := hrow.stack_eq hm
          rw [hstack] at hsame
          obtain ⟨rfl, rfl⟩ := List.cons.inj hsame
          exact .inr ⟨_, hstep, hoff⟩
        · refine .inl (.pass (fun j hj hmem => ?_) hstep hoff)
          rcases List.mem_cons.1 hmem with rfl | hmem
          · exact hm hj
          · exact hi j hj hmem
      · exact .inr hexit

end

/-! ## Alive fronts -/

/-- The way can take the next character, and some path leads on from there. -/
def Way.Lives (w : Way) (index : Nat) (t : Text) : Prop :=
  ∃ r ∈ Spot.take w.set ⟨index, none, t, w.marks⟩, Regex.Lives w.rest r

/-- A match is found, or some way leads on. -/
def Front.Alive (f : Front) (index : Nat) (t : Text) : Prop :=
  f.found.isSome ∨ ∃ w ∈ f.ways, w.Lives index t

/-- The ways of a front have their numbers, and where a path leads on from a numbered place
that was gone through and keeps off the places in `busy`, whose branches are still being gone
through, the front is alive. -/
structure Front.Explored (stack : Nat → List Node) (p : Spot) (busy : List Nat) (f : Front) :
    Prop where
  ways : ∀ w ∈ f.ways, RowNumbered stack w.rest
  seen : ∀ {n : Node} {rest : List Node} {id : Nat}, n.number? = some id → f.seen.testBit id →
    RowNumbered stack (n :: rest) → LivesOff p busy (n :: rest) → f.Alive p.index p.rest

/-- To go through a row of parts with `k` keeps what is explored, and the front is alive
afterwards if it was before or if a path leads through the row. -/
def Covers (stack : Nat → List Node) (p : Spot) (busy : List Nat) (row : List Node)
    (k : Marks → Front → Front) : Prop :=
  ∀ busy', busy ⊆ busy' → ∀ marks f, f.Explored stack p busy' →
    (k marks f).Explored stack p busy' ∧
      (f.Alive p.index p.rest ∨ LivesOff p busy' row → (k marks f).Alive p.index p.rest)

section

variable {stack : Nat → List Node} {p : Spot} {busy : List Nat} {n : Node}
    {rest : List Node} {id : Nat}
  {f : Front}

theorem Front.Explored.visit (h : f.Explored stack p busy) (id : Nat) :
    (f.visit id).Explored stack p (id :: busy) := by
  refine ⟨h.ways, fun {n rest i} hi hseen hrow hoff => ?_⟩
  rcases Front.testBit_visit hseen with rfl | hseen
  · exact absurd List.mem_cons_self (hoff.number_not_mem hi)
  · exact h.seen hi hseen hrow (hoff.mono (List.subset_cons_self _ _))

/-- When the branches of a choice are gone through, the choice itself is explored. -/
theorem Front.Explored.leave (h : f.Explored stack p (id :: busy))
    (hrow : RowNumbered stack (n :: rest)) (hid : n.number? = some id)
    (hset : ∀ i s, n ≠ .set i s)
    (hsteps : ∀ s ∈ n.steps p rest, LivesOff p (id :: busy) s.1 → f.Alive p.index p.rest) :
    f.Explored stack p busy ∧ (LivesOff p busy (n :: rest) → f.Alive p.index p.rest) := by
  refine ⟨⟨h.ways, fun {m rest' i} hi hseen hrow' hoff => ?_⟩, fun hoff => ?_⟩
  · rcases hoff.exit hrow' hrow hid hset with hoff | ⟨s, hs, hoff⟩
    · exact h.seen hi hseen hrow' hoff
    · exact hsteps s hs hoff
  · rcases hoff.exit hrow hrow hid hset with hoff | ⟨s, hs, hoff⟩
    · exact absurd List.mem_cons_self (hoff.number_not_mem hid)
    · exact hsteps s hs hoff

theorem Front.Explored.alive_of_closed (h : f.Explored stack p busy)
    (hrow : RowNumbered stack (n :: rest)) (hid : n.number? = some id) (hclosed : f.closed id)
    (hoff : f.Alive p.index p.rest ∨ LivesOff p busy (n :: rest)) : f.Alive p.index p.rest := by
  rcases hoff with halive | hoff
  · exact halive
  · rcases Bool.or_eq_true_iff.1 hclosed with hfound | hseen
    · exact .inl hfound
    · exact h.seen hid hseen hrow hoff

/-- A part with no number, and through which every path goes on in one row, is
as alive as that row. -/
theorem Covers.of_next {k k' : Marks → Front → Front} {row : List Node}
    (hon : Covers stack p busy row k) (hset : ∀ i s, n ≠ .set i s)
    (hsteps : ∀ s ∈ n.steps p rest, s.1 = row) (hk : ∀ marks, ∃ marks', k' marks = k marks') :
    Covers stack p busy (n :: rest) k' := by
  intro busy' hsub marks f hf
  obtain ⟨marks', hsame⟩ := hk marks
  rw [hsame]
  obtain ⟨hexplored, halive⟩ := hon busy' hsub marks' f hf
  refine ⟨hexplored, fun h => halive (h.imp_right fun hoff => ?_)⟩
  obtain ⟨s, hs, hoff⟩ := hoff.next hset
  exact hsteps s hs ▸ hoff

theorem Covers.mono {k : Marks → Front → Front} {row : List Node} {busy' : List Nat}
    (h : Covers stack p busy row k) (hsub : busy ⊆ busy') : Covers stack p busy' row k :=
  fun _ hsub' => h _ fun _ hid => hsub' (hsub hid)

/-- A choice is as alive as its two branches, which are gone through one after the other while
the choice itself is busy. -/
theorem Covers.choice {k k₁ k₂ : Marks → Front → Front} {row₁ row₂ : List Node}
    (hrow : RowNumbered stack (n :: rest)) (hid : n.number? = some id)
    (hset : ∀ i s, n ≠ .set i s) (hsteps : ∀ s ∈ n.steps p rest, s.1 = row₁ ∨ s.1 = row₂)
    (h₁ : Covers stack p (id :: busy) row₁ k₁) (h₂ : Covers stack p (id :: busy) row₂ k₂)
    (hk : ∀ marks f, k marks f = if f.closed id then f else k₂ marks (k₁ marks (f.visit id))) :
    Covers stack p busy (n :: rest) k := by
  intro busy' hsub marks f hf
  rw [hk]
  split
  · next hclosed => exact ⟨hf, hf.alive_of_closed hrow hid hclosed⟩
  · next hopen =>
    have hsub' : id :: busy ⊆ id :: busy' := List.cons_subset_cons id hsub
    obtain ⟨hexplored₁, halive₁⟩ := h₁ _ hsub' marks _ (hf.visit id)
    obtain ⟨hexplored₂, halive₂⟩ := h₂ _ hsub' marks _ hexplored₁
    obtain ⟨hexplored, halive⟩ := hexplored₂.leave hrow hid hset fun s hs hoff => by
      rcases hsteps s hs with hsame | hsame
      · exact halive₂ (.inl (halive₁ (.inr (hsame ▸ hoff))))
      · exact halive₂ (.inr (hsame ▸ hoff))
    exact ⟨hexplored, fun h => h.elim (fun h => halive₂ (.inl (halive₁ (.inl h)))) halive⟩

theorem Covers.look {onward : Marks → Front → Front} {l : Look}
    (hon : Covers stack p busy rest onward) :
    Covers stack p busy (.look l :: rest) ((Node.look l).enter p.place rest onward) := by
  intro busy' hsub marks f hf
  obtain ⟨hexplored, halive⟩ := hon busy' hsub marks f hf
  by_cases hholds : l.holds p.before p.rest.head? = true
  · have hpass : (Node.look l).enter p.place rest onward marks f = onward marks f :=
      if_pos hholds
    rw [hpass]
    refine ⟨hexplored, fun h => halive (h.imp_right fun hoff => ?_)⟩
    obtain ⟨s, hs, hoff⟩ := hoff.next (by simp)
    obtain ⟨r, -, rfl⟩ := List.mem_map.1 hs
    exact hoff
  · have hfail : (Node.look l).enter p.place rest onward marks f = f := if_neg hholds
    rw [hfail]
    refine ⟨hf, fun h => h.elim id fun hoff => ?_⟩
    obtain ⟨s, hs, hoff⟩ := hoff.next (by simp)
    obtain ⟨r, hr, -⟩ := List.mem_map.1 hs
    exact absurd (Spot.mem_ask.1 hr).1 hholds

theorem alive_of_takes {s : CharSet} {marks : Marks} (h : LivesOff p busy (.set id s :: rest)) :
    Front.Alive { f.visit id with ways := ⟨s, rest, marks⟩ :: f.ways } p.index p.rest := by
  cases h with
  | pass _ hstep _ => cases hstep
  | take _ htake hlives =>
      obtain ⟨c, text, hrest, hc, rfl⟩ := Spot.mem_take.1 htake
      refine .inr ⟨_, List.mem_cons_self, ⟨p.index + 1, some c, text, marks⟩, ?_, ?_⟩
      · exact Spot.mem_take.2 ⟨c, text, hrest, hc, rfl⟩
      · exact hlives.of_alike ⟨rfl, rfl⟩

theorem Covers.set {onward : Marks → Front → Front} {s : CharSet}
    (hrow : RowNumbered stack (.set id s :: rest)) :
    Covers stack p busy (.set id s :: rest) ((Node.set id s).enter p.place rest onward) := by
  intro busy' _ marks f hf
  simp only [Node.enter]
  split
  · next hclosed => exact ⟨hf, hf.alive_of_closed hrow rfl hclosed⟩
  · next hopen =>
    have hkept : f.Alive p.index p.rest → Front.Alive
        { f.visit id with ways := ⟨s, rest, marks⟩ :: f.ways } p.index p.rest :=
      Or.imp_right (Exists.imp fun _ hw => hw.imp_left (List.mem_cons_of_mem _))
    refine ⟨⟨fun w hw => ?_, fun {m rest' i} hi hseen hrow' hoff => ?_⟩,
      fun h => h.elim hkept alive_of_takes⟩
    · rcases List.mem_cons.1 hw with rfl | hw
      · exact hrow.2
      · exact hf.ways w hw
    · rcases Front.testBit_visit (f := f) hseen with rfl | hseen
      · rw [← hrow'.stack_eq hi, hrow.stack_eq rfl] at hoff
        exact alive_of_takes hoff
      · exact hkept (hf.seen hi hseen hrow' hoff)

theorem Node.enter_covers {onward : Marks → Front → Front} (hrow : RowNumbered stack (n :: rest))
    (hon : Covers stack p busy rest onward) :
    Covers stack p busy (n :: rest) (n.enter p.place rest onward) := by
  -- On the part; the body of a loop is followed by the loop itself, which is busy by then.
  induction n generalizing rest onward busy with
  | skip =>
      exact hon.of_next (by simp) (fun s hs => List.mem_singleton.1 hs ▸ rfl) fun marks =>
        ⟨marks, rfl⟩
  | mark slot =>
      exact hon.of_next (by simp) (fun s hs => List.mem_singleton.1 hs ▸ rfl) fun marks =>
        ⟨_, rfl⟩
  | seq a b iha ihb =>
      obtain ⟨⟨hnuma, hnumb⟩, hrest⟩ := hrow
      have hab : Covers stack p busy (a :: b :: rest)
          (a.enter p.place (b :: rest) (b.enter p.place rest onward)) :=
        iha ⟨hnuma, hnumb, hrest⟩ (ihb ⟨hnumb, hrest⟩ hon)
      exact hab.of_next (by simp) (fun s hs => List.mem_singleton.1 hs ▸ rfl) fun marks =>
        ⟨marks, rfl⟩
  | look l => exact hon.look
  | set id s => exact .set hrow
  | fork id a b iha ihb =>
      obtain ⟨hnuma, hnumb⟩ := hrow.1.2
      have hon' := hon.mono (List.subset_cons_self id busy)
      refine .choice hrow rfl (by simp) (fun s hs => ?_) (iha ⟨hnuma, hrow.2⟩ hon')
        (ihb ⟨hnumb, hrow.2⟩ hon') fun _ _ => rfl
      simp only [steps, List.mem_cons, List.not_mem_nil, or_false] at hs
      exact hs.imp (congrArg Prod.fst) (congrArg Prod.fst)
  | loop id greedy body ih =>
      have hstop : Covers stack p (id :: busy) (loop id greedy body :: rest) fun _ f => f :=
        fun _ hsub _ _ hf => ⟨hf, fun h => h.elim (fun halive => halive) fun hoff =>
          absurd (hsub List.mem_cons_self) (hoff.number_not_mem rfl)⟩
      have hagain := ih ⟨hrow.1.2, hrow⟩ hstop
      have hon' := hon.mono (List.subset_cons_self id busy)
      have hsteps : ∀ s ∈ (loop id greedy body).steps p rest,
          s.1 = body :: loop id greedy body :: rest ∨ s.1 = rest := by
        intro s hs
        simp only [steps, List.mem_cons, List.not_mem_nil, or_false] at hs
        exact hs.imp (congrArg Prod.fst) (congrArg Prod.fst)
      cases greedy with
      | true => exact .choice hrow rfl (by simp) hsteps hagain hon' fun _ _ => rfl
      | false =>
          exact .choice hrow rfl (by simp) (fun s hs => (hsteps s hs).symm) hon' hagain
            fun _ _ => rfl

theorem enterAll_covers {row : List Node} (hrow : RowNumbered stack row) :
    Covers stack p busy row (enterAll p.place row) := by
  induction row with
  | nil =>
      intro busy' _ marks f hf
      have hfound : (enterAll p.place [] marks f).found.isSome := by
        simp only [enterAll]
        split
        · next h => exact h
        · rfl
      have hways : (enterAll p.place [] marks f).ways = f.ways := by
        simp only [enterAll]
        split <;> rfl
      exact ⟨⟨fun w hw => hf.ways w (hways ▸ hw), fun _ _ _ _ => .inl hfound⟩,
        fun _ => .inl hfound⟩
  | cons n row ih => exact Node.enter_covers hrow (ih hrow.2)

end

theorem Front.start_explored {stack : Nat → List Node} {p : Spot} :
    Front.start.Explored stack p [] :=
  ⟨fun _ hw => absurd hw List.not_mem_nil, fun _ hseen => by simp [Front.start] at hseen⟩

section

variable {stack : Nat → List Node} {index : Nat} {c : Char} {t : Text} {f : Front}
    {ways : List Way}

/-- To let the ways take a character keeps what is explored, and the front is alive afterwards
if it was before or if some way leads on. -/
theorem advance_covers (hways : ∀ w ∈ ways, RowNumbered stack w.rest)
    (hf : f.Explored stack ⟨index + 1, some c, t, []⟩ []) :
    (advance ⟨index + 1, some c, t.head?⟩ c ways f).Explored stack ⟨index + 1,
      some c, t, []⟩ [] ∧
      (f.Alive (index + 1) t ∨ (∃ w ∈ ways, w.Lives index (c :: t)) →
        (advance ⟨index + 1, some c, t.head?⟩ c ways f).Alive (index + 1) t) := by
  induction ways generalizing f with
  | nil => exact ⟨hf, fun h => h.elim id fun ⟨_, hw, _⟩ => absurd hw List.not_mem_nil⟩
  | cons w ways ih =>
      obtain ⟨hw, hways⟩ := List.forall_mem_cons.1 hways
      have hlives : w.Lives index (c :: t) →
          w.set.test c ∧ Lives w.rest ⟨index + 1, some c, t, []⟩ := by
        rintro ⟨r, htake, hr⟩
        obtain ⟨d, text, hrest, hd, rfl⟩ := Spot.mem_take.1 htake
        obtain ⟨rfl, rfl⟩ := List.cons.inj hrest
        exact ⟨hd, hr.of_alike ⟨rfl, rfl⟩⟩
      simp only [advance]
      split
      · next hfound => exact ⟨hf, fun _ => .inl hfound⟩
      · split
        · obtain ⟨hexplored, halive⟩ := enterAll_covers hw [] (List.Subset.refl _) w.marks f hf
          obtain ⟨hadvanced, halive'⟩ := ih hways hexplored
          refine ⟨hadvanced, fun h => halive' ?_⟩
          rcases h with h | ⟨v, hv, h⟩
          · exact .inl (halive (.inl h))
          · rcases List.mem_cons.1 hv with rfl | hv
            · exact .inl (halive (.inr (hlives h).2.off))
            · exact .inr ⟨v, hv, h⟩
        · next htest =>
          obtain ⟨hadvanced, halive'⟩ := ih hways hf
          refine ⟨hadvanced, fun h => halive' ?_⟩
          rcases h with h | ⟨v, hv, h⟩
          · exact .inl h
          · rcases List.mem_cons.1 hv with rfl | hv
            · exact absurd (hlives h).1 htest
            · exact .inr ⟨v, hv, h⟩

end

end PlainLink.Regex
