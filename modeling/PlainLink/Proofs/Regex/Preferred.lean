/-
# The preferred match

A search goes through the text once, with all ways at the same time, and goes through a
numbered place at most once at each position.  Here it is shown that nothing is lost by
that: the match it finds is the one that backtracking finds, at the first position where
there is any and, of those there, the preferred one.

The argument is about what a front is worth, which is the marks that its ways lead to in
the end.  To go through a row of parts adds what the row is worth, if no way before it
is worth anything.  The invariant that carries this says of each numbered place gone
through that, if something can be found by way of it, something already is.  It does not
hold of a place while its own branches are gone through; that these do not come back to
it is what `Node.fits` says of the numbers.

Main statement: `search_eq_firstFrom`.
-/
import PlainLink.Proofs.Regex.Passage

namespace PlainLink.Regex

/-! ## Outcomes of a program -/

namespace Node

/-- The part always takes a character. -/
def takes : Node → Bool
  | skip => false
  | set _ _ => true
  | look _ => false
  | mark _ => false
  | seq a b => a.takes || b.takes
  | fork _ a b => a.takes && b.takes
  | loop _ _ _ => false

/-- The places to which a part leads, the preferred ones first. -/
def outs : Node → Spot → List Spot
  | skip, p => [p]
  | set _ s, p => p.take s
  | look l, p => p.ask l
  | mark slot, p => [p.mark slot]
  | seq a b, p => (a.outs p).flatMap b.outs
  | fork _ a b, p => a.outs p ++ b.outs p
  | loop _ greedy body, p => upTo greedy body.outs p.rest.length p

end Node

/-- The places to which a row of parts leads. -/
def outsAll : List Node → Spot → List Spot
  | [], p => [p]
  | n :: ns, p => (n.outs p).flatMap (outsAll ns)

namespace Node

variable {n : Node} {p q : Spot}

theorem length_le_of_mem_outs (h : q ∈ n.outs p) : q.rest.length ≤ p.rest.length := by
  induction n generalizing p q with
  | skip => exact List.mem_singleton.1 h ▸ Nat.le_refl _
  | set id s =>
      obtain ⟨c, -, hto⟩ := Spot.to_of_mem_take h
      rw [hto.rest]
      exact Nat.le_succ _
  | look l => exact (Spot.mem_ask.1 h).2 ▸ Nat.le_refl _
  | mark slot => exact List.mem_singleton.1 h ▸ Nat.le_refl _
  | seq a b iha ihb =>
      obtain ⟨r, hr, hq⟩ := List.mem_flatMap.1 h
      exact Nat.le_trans (ihb hq) (iha hr)
  | fork id a b iha ihb =>
      rcases List.mem_append.1 h with h | h
      · exact iha h
      · exact ihb h
  | loop id greedy body ih =>
      exact rel_of_mem_upTo (R := fun p q : Spot => q.rest.length ≤ p.rest.length)
        (fun _ => Nat.le_refl _) (fun _ _ _ hab hbc => Nat.le_trans hbc hab) (fun _ _ => ih) h

theorem length_lt_of_mem_outs (hn : n.takes) (h : q ∈ n.outs p) :
    q.rest.length < p.rest.length := by
  induction n generalizing p q with
  | skip => cases hn
  | set id s =>
      obtain ⟨c, -, hto⟩ := Spot.to_of_mem_take h
      rw [hto.rest]
      exact Nat.lt_succ_self _
  | look l => cases hn
  | mark slot => cases hn
  | seq a b iha ihb =>
      obtain ⟨r, hr, hq⟩ := List.mem_flatMap.1 h
      rcases Bool.or_eq_true_iff.1 hn with ha | hb
      · exact Nat.lt_of_le_of_lt (length_le_of_mem_outs hq) (iha ha hr)
      · exact Nat.lt_of_lt_of_le (ihb hb hq) (length_le_of_mem_outs hr)
  | fork id a b iha ihb =>
      obtain ⟨ha, hb⟩ := Bool.and_eq_true_iff.1 hn
      rcases List.mem_append.1 h with h | h
      · exact iha ha h
      · exact ihb hb h
  | loop id greedy body ih => cases hn

theorem map_under_outs (old : Marks) (n : Node) (p : Spot) :
    (n.outs p).map (·.under old) = n.outs (p.under old) := by
  induction n generalizing p with
  | skip => rfl
  | set id s =>
      obtain ⟨index, before, rest, marks⟩ := p
      cases rest with
      | nil => rfl
      | cons c rest =>
          simp only [outs, Spot.take, Spot.under]
          split <;> rfl
  | look l =>
      by_cases hl : l.holds p.before p.rest.head? = true
      · simp [outs, Spot.ask, Spot.under, hl]
      · simp [outs, Spot.ask, Spot.under, hl]
  | mark slot => rfl
  | seq a b iha ihb =>
      rw [outs, outs, List.map_flatMap, ← iha, List.flatMap_map]
      exact List.flatMap_congr fun q _ => ihb q
  | fork id a b iha ihb => rw [outs, outs, List.map_append, iha, ihb]
  | loop id greedy body ih => exact map_upTo ih p.rest.length p

end Node

theorem map_under_outsAll (old : Marks) (ns : List Node) (p : Spot) :
    (outsAll ns p).map (·.under old) = outsAll ns (p.under old) := by
  induction ns generalizing p with
  | nil => rfl
  | cons n ns ih =>
      rw [outsAll, outsAll, List.map_flatMap, ← Node.map_under_outs, List.flatMap_map]
      exact List.flatMap_congr fun q _ => ih q

theorem outsAll_seq (a b : Node) (rest : List Node) (p : Spot) :
    outsAll (.seq a b :: rest) p = outsAll (a :: b :: rest) p :=
  List.flatMap_assoc

theorem outsAll_fork (id : Nat) (a b : Node) (rest : List Node) (p : Spot) :
    outsAll (.fork id a b :: rest) p = outsAll (a :: rest) p ++ outsAll (b :: rest) p :=
  List.flatMap_append

theorem outsAll_loop {id : Nat} {greedy : Bool} {body : Node} (hbody : body.takes)
    (rest : List Node) (p : Spot) :
    outsAll (.loop id greedy body :: rest) p =
      if greedy then outsAll (body :: .loop id greedy body :: rest) p ++ outsAll rest p
      else outsAll rest p ++ outsAll (body :: .loop id greedy body :: rest) p := by
  have hshorter : ∀ p, ∀ q ∈ body.outs p, q.rest.length < p.rest.length :=
    fun _ _ => Node.length_lt_of_mem_outs hbody
  have hround : (Node.loop id greedy body).outs p =
      if greedy then (body.outs p).flatMap (Node.loop id greedy body).outs ++ [p]
      else p :: (body.outs p).flatMap (Node.loop id greedy body).outs := by
    have hagain : (body.outs p).flatMap (upTo greedy body.outs p.rest.length) =
        (body.outs p).flatMap (Node.loop id greedy body).outs :=
      List.flatMap_congr fun q hq =>
        upTo_eq_upTo hshorter (Nat.le_of_lt (hshorter p q hq)) (Nat.le_refl _)
    rw [Node.outs, upTo_eq_upTo hshorter (Nat.le_refl _) (Nat.le_succ _), upTo, hagain]
  rw [outsAll, hround]
  cases greedy with
  | true => simp [outsAll, List.flatMap_assoc]
  | false => simp [outsAll, List.flatMap_assoc]

/-! ## Numbers -/

namespace Node

/-- The numbers of the places that can be come to before a character is taken. -/
def front : Node → List Nat
  | skip => []
  | set id _ => [id]
  | look _ => []
  | mark _ => []
  | seq a b => a.front ++ if a.takes then [] else b.front
  | fork id a b => id :: (a.front ++ b.front)
  | loop id _ body => id :: body.front

/-- No choice is come to again from its own branches before a character is taken, where the
numbers in `after` can be come to behind the part.  Each round of a loop takes a character. -/
def fits : Node → (after : List Nat) → Prop
  | skip, _ => True
  | set _ _, _ => True
  | look _, _ => True
  | mark _, _ => True
  | seq a b, after => a.fits (b.front ++ if b.takes then [] else after) ∧ b.fits after
  | fork id a b, after =>
    id ∉ a.front ++ b.front ∧ (¬ (a.takes && b.takes) → id ∉ after) ∧ a.fits after ∧ b.fits after
  | loop id _ body, after =>
    body.takes ∧ id ∉ body.front ∧ id ∉ after ∧ body.fits (id :: (body.front ++ after))

/-- Each number of the part stands for one row of parts: itself, and what follows it. -/
def numbered (stack : Nat → List Node) : Node → (rest : List Node) → Prop
  | skip, _ => True
  | set id s, rest => stack id = set id s :: rest
  | look _, _ => True
  | mark _, _ => True
  | seq a b, rest => a.numbered stack (b :: rest) ∧ b.numbered stack rest
  | fork id a b, rest =>
    stack id = fork id a b :: rest ∧ a.numbered stack rest ∧ b.numbered stack rest
  | loop id greedy body, rest =>
    stack id = loop id greedy body :: rest ∧ body.numbered stack (loop id greedy body :: rest)

end Node

/-- The numbers of the places that a row of parts can come to before a character is taken. -/
def fronts : List Node → List Nat
  | [] => []
  | n :: ns => n.front ++ if n.takes then [] else fronts ns

theorem mem_fronts_cons {id : Nat} {n : Node} {ns : List Node} :
    id ∈ fronts (n :: ns) ↔ id ∈ n.front ∨ n.takes = false ∧ id ∈ fronts ns := by
  cases h : n.takes with
  | true => simp [fronts, h]
  | false => simp [fronts, h]

theorem Node.mem_front_seq {id : Nat} {a b : Node} :
    id ∈ (seq a b).front ↔ id ∈ a.front ∨ a.takes = false ∧ id ∈ b.front := by
  cases h : a.takes with
  | true => simp [front, h]
  | false => simp [front, h]

/-- A row of parts whose numbers are in order. -/
def Ordered (stack : Nat → List Node) : List Node → Prop
  | [] => True
  | n :: ns => n.numbered stack ns ∧ n.fits (fronts ns) ∧ Ordered stack ns

/-! ## What a front is worth -/

/-- The marks of the preferred outcome of a row of parts. -/
def preferred (ns : List Node) (p : Spot) : Option Marks :=
  (outsAll ns p).head?.map (·.marks)

/-- The marks to which a way leads in the end. -/
def Way.worth (w : Way) (index : Nat) (t : Text) : Option Marks :=
  ((Spot.take w.set ⟨index, none, t, w.marks⟩).flatMap (outsAll w.rest)).head?.map (·.marks)

/-- The marks to which the preferred way of a front leads in the end. -/
def Front.worth (f : Front) (index : Nat) (t : Text) : Option Marks :=
  (f.ways.reverse.findSome? (·.worth index t)).or f.found

theorem preferred_of_append {ns as bs : List Node} {p : Spot}
    (h : outsAll ns p = outsAll as p ++ outsAll bs p) :
    preferred ns p = (preferred as p).or (preferred bs p) := by
  rw [preferred, h, List.head?_append, Option.map_or]
  rfl

theorem isSome_preferred {ns : List Node} {index : Nat} {before : Option Char} {t : Text}
    {marks : Marks} :
    (preferred ns ⟨index, before, t, marks⟩).isSome ↔
      outsAll ns ⟨index, before, t, []⟩ ≠ [] := by
  have hunder := map_under_outsAll marks ns ⟨index, before, t, []⟩
  have hspot : (Spot.mk index before t []).under marks = ⟨index, before, t, marks⟩ := rfl
  rw [hspot] at hunder
  rw [preferred, ← hunder]
  cases outsAll ns ⟨index, before, t, []⟩ with
  | nil => simp
  | cons q qs => simp

section

variable (stack : Nat → List Node) (index : Nat) (before : Option Char) (t : Text)

/-- The ways of a front go on in order, and what can be found by way of a place that
was gone through is found.  The places in `busy` are those whose branches are still
being gone through. -/
structure Front.Settled (busy : List Nat) (f : Front) : Prop where
  ways : ∀ w ∈ f.ways, Ordered stack w.rest
  seen : ∀ id, f.seen.testBit id → id ∉ busy → outsAll (stack id) ⟨index, before, t, []⟩ ≠ [] →
    (f.worth index t).isSome

/-- To go through a row of parts with `k` adds what the row is worth. -/
def Adds (busy : List Nat) (ns : List Node) (k : Marks → Front → Front) : Prop :=
  ∀ marks f, f.Settled stack index before t busy →
    (k marks f).worth index t = (f.worth index t).or (preferred ns ⟨index, before, t, marks⟩) ∧
      (k marks f).Settled stack index before t busy

end

section

variable {stack : Nat → List Node} {index : Nat} {before : Option Char} {t : Text}
  {busy : List Nat} {f : Front}

theorem Front.isSome_worth_of_found (h : f.found.isSome) : (f.worth index t).isSome := by
  simp [Front.worth, h]

theorem Front.visit_worth (id : Nat) : (f.visit id).worth index t = f.worth index t := rfl

theorem Front.testBit_visit {id i : Nat} (h : (f.visit id).seen.testBit i) :
    i = id ∨ f.seen.testBit i := by
  have hbit : (f.seen.testBit i || decide (id = i)) = true := by
    simpa [Front.visit, Nat.testBit_or, Nat.one_shiftLeft, Nat.testBit_two_pow] using h
  rcases Bool.or_eq_true_iff.1 hbit with hseen | hid
  · exact .inr hseen
  · exact .inl (of_decide_eq_true hid).symm

theorem Front.Settled.visit (h : f.Settled stack index before t busy) (id : Nat) :
    (f.visit id).Settled stack index before t (id :: busy) := by
  refine ⟨h.ways, fun i hi hbusy hlives => ?_⟩
  rcases Front.testBit_visit hi with rfl | hseen
  · exact absurd List.mem_cons_self hbusy
  · exact h.seen i hseen (fun hmem => hbusy (List.mem_cons_of_mem _ hmem)) hlives

/-- The branches of a place are gone through, and what it is worth is found. -/
theorem Front.Settled.leave {id : Nat} (h : f.Settled stack index before t (id :: busy))
    (hid : outsAll (stack id) ⟨index, before, t, []⟩ ≠ [] → (f.worth index t).isSome) :
    f.Settled stack index before t busy := by
  refine ⟨h.ways, fun i hseen hbusy hlives => ?_⟩
  by_cases hi : i = id
  · exact hid (hi ▸ hlives)
  · refine h.seen i hseen (fun hmem => ?_) hlives
    rcases List.mem_cons.1 hmem with hmem | hmem
    · exact hi hmem
    · exact hbusy hmem

theorem Front.Settled.worth_of_closed {id : Nat} (h : f.Settled stack index before t busy)
    (hclosed : f.closed id) (hbusy : id ∉ busy) (marks : Marks) :
    f.worth index t = (f.worth index t).or (preferred (stack id) ⟨index, before, t, marks⟩) := by
  by_cases hworth : (f.worth index t).isSome
  · exact (Option.or_of_isSome hworth).symm
  · rcases Bool.or_eq_true_iff.1 hclosed with hfound | hseen
    · exact absurd (Front.isSome_worth_of_found hfound) hworth
    · have hdead : ¬ (preferred (stack id) ⟨index, before, t, marks⟩).isSome :=
        fun hlives => hworth (h.seen id hseen hbusy (isSome_preferred.1 hlives))
      rw [Option.not_isSome_iff_eq_none.1 hdead, Option.or_none]

theorem Adds.set {id : Nat} {s : CharSet} {rest : List Node} {onward : Marks → Front → Front}
    (hordered : Ordered stack (.set id s :: rest)) (hid : id ∉ busy) :
    Adds stack index before t busy (.set id s :: rest)
      ((Node.set id s).enter ⟨index, before, t.head?⟩ rest onward) := by
  intro marks f hf
  obtain ⟨hstack, -, hrest⟩ := hordered
  simp only [Node.enter]
  split
  · next hclosed =>
    refine ⟨?_, hf⟩
    have hworth := hf.worth_of_closed hclosed hid marks
    rwa [hstack] at hworth
  · next hopen =>
    have hworth : Front.worth { f.visit id with ways := ⟨s, rest, marks⟩ :: f.ways } index t =
        (f.worth index t).or (preferred (.set id s :: rest) ⟨index, before, t, marks⟩) := by
      simp only [Front.worth, Front.visit, Front.found_of_open hopen, Option.or_none,
        List.reverse_cons, List.findSome?_append]
      simp [Way.worth, preferred, outsAll, Node.outs, Spot.take]
    refine ⟨hworth, ?_, ?_⟩
    · intro w hw
      rcases List.mem_cons.1 hw with rfl | hw
      · exact hrest
      · exact hf.ways w hw
    · intro i hi hi' hlives
      rw [hworth]
      rcases Front.testBit_visit (f := f) hi with rfl | hseen
      · rw [hstack] at hlives
        simp [isSome_preferred.2 hlives]
      · simp [hf.seen i hseen hi' hlives]

/-- A choice adds what its two branches add, which are gone through one after the other while
the choice itself is busy. -/
theorem Adds.choice {id : Nat} {row row₁ row₂ : List Node} {k k₁ k₂ : Marks → Front → Front}
    (hstack : stack id = row) (hid : id ∉ busy)
    (hbranches : ∀ p, outsAll row p = outsAll row₁ p ++ outsAll row₂ p)
    (h₁ : Adds stack index before t (id :: busy) row₁ k₁)
    (h₂ : Adds stack index before t (id :: busy) row₂ k₂)
    (hk : ∀ marks f, k marks f = if f.closed id then f else k₂ marks (k₁ marks (f.visit id))) :
    Adds stack index before t busy row k := by
  intro marks f hf
  rw [hk]
  split
  · next hclosed =>
    refine ⟨?_, hf⟩
    have hworth := hf.worth_of_closed hclosed hid marks
    rwa [hstack] at hworth
  · next hopen =>
    have hfirst := h₁ marks _ (hf.visit id)
    have hsecond := h₂ marks _ hfirst.2
    have hworth := hsecond.1
    rw [hfirst.1, Option.or_assoc, ← preferred_of_append (hbranches _),
      Front.visit_worth] at hworth
    refine ⟨hworth, hsecond.2.leave fun hlives => ?_⟩
    rw [hstack] at hlives
    simp [hworth, isSome_preferred.2 hlives]

theorem Node.enter_adds {n : Node} {rest : List Node} {onward : Marks → Front → Front}
    (hordered : Ordered stack (n :: rest)) (hbusy : ∀ id ∈ busy, id ∉ fronts (n :: rest))
    (honward : ¬ n.takes → ∀ busy, (∀ id ∈ busy, id ∉ fronts rest) →
      Adds stack index before t busy rest onward) :
    Adds stack index before t busy (n :: rest)
      (n.enter ⟨index, before, t.head?⟩ rest onward) := by
  -- On the part; what follows it counts only where the part may take nothing.
  induction n generalizing rest onward busy with
  | skip =>
      intro marks f hf
      simpa [preferred, outsAll, outs, enter]
        using honward (by simp [takes]) busy hbusy marks f hf
  | set id s => exact .set hordered fun hmem => hbusy id hmem (by simp [fronts, front])
  | look l =>
      intro marks f hf
      have honward := honward (by simp [takes]) busy hbusy marks f hf
      simp only [enter]
      split
      · next hholds => simpa [preferred, outsAll, outs, Spot.ask, hholds] using honward
      · next hfails => exact ⟨by simp [preferred, outsAll, outs, Spot.ask, hfails], hf⟩
  | mark slot =>
      intro marks f hf
      simpa [preferred, outsAll, outs, Spot.mark, enter] using
        honward (by simp [takes]) busy hbusy ((slot, index) :: marks) f hf
  | seq a b iha ihb =>
      intro marks f hf
      obtain ⟨⟨hnuma, hnumb⟩, ⟨hfita, hfitb⟩, hrest⟩ := hordered
      have hbusya : ∀ i ∈ busy, i ∉ fronts (a :: b :: rest) := by
        intro i hi
        have hi := hbusy i hi
        simp only [mem_fronts_cons, mem_front_seq, takes] at hi ⊢
        grind
      have h := iha ⟨hnuma, hfita, hnumb, hfitb, hrest⟩ hbusya (fun ha busy hbusy =>
        ihb ⟨hnumb, hfitb, hrest⟩ hbusy fun hb => honward (by simp [takes, ha, hb])) marks f hf
      rwa [preferred, ← outsAll_seq] at h
  | fork id a b iha ihb =>
      obtain ⟨⟨hstack, hnuma, hnumb⟩, ⟨hbranches, hafter, hfita, hfitb⟩, hrest⟩ := hordered
      have hid : id ∉ busy := fun hmem => hbusy id hmem (by simp [fronts, front])
      have hbusy' : ∀ i ∈ id :: busy, i ∉ fronts (a :: rest) ∧ i ∉ fronts (b :: rest) := by
        intro i hi
        simp only [List.mem_append] at hbranches
        rcases List.mem_cons.1 hi with rfl | hi
        · simp only [mem_fronts_cons]
          grind
        · have hi := hbusy i hi
          simp only [mem_fronts_cons, front, takes, List.mem_cons, List.mem_append] at hi ⊢
          grind
      have ha := iha ⟨hnuma, hfita, hrest⟩ (fun i hi => (hbusy' i hi).1) fun ha =>
        honward (by simp [takes, ha])
      have hb := ihb ⟨hnumb, hfitb, hrest⟩ (fun i hi => (hbusy' i hi).2) fun hb =>
        honward (by simp [takes, hb])
      exact .choice hstack hid (outsAll_fork id a b rest) ha hb fun _ _ => rfl
  | loop id greedy body ih =>
      obtain ⟨⟨hstack, hnum⟩, ⟨htakes, hbody, hafter, hfit⟩, hrest⟩ := hordered
      have hid : id ∉ busy := fun hmem => hbusy id hmem (by simp [fronts, front])
      have hbusy' : ∀ i ∈ id :: busy, i ∉ fronts (body :: loop id greedy body :: rest) ∧
          i ∉ fronts rest := by
        intro i hi
        rcases List.mem_cons.1 hi with rfl | hi
        · simp only [mem_fronts_cons]
          grind
        · have hi := hbusy i hi
          simp only [mem_fronts_cons, front, takes, List.mem_cons] at hi ⊢
          grind
      -- The body takes a character, so that it does not come back to the loop at this place.
      have hagain : Adds stack index before t (id :: busy) (body :: loop id greedy body :: rest)
          (body.enter ⟨index, before, t.head?⟩ (loop id greedy body :: rest) fun _ f => f) :=
        ih ⟨hnum, hfit, ⟨hstack, hnum⟩, ⟨htakes, hbody, hafter, hfit⟩, hrest⟩
          (fun i hi => (hbusy' i hi).1) (fun h => absurd htakes h)
      have hon : Adds stack index before t (id :: busy) rest onward :=
        honward (by simp [takes]) _ fun i hi => (hbusy' i hi).2
      cases greedy with
      | true => exact .choice hstack hid (outsAll_loop htakes rest) hagain hon fun _ _ => rfl
      | false => exact .choice hstack hid (outsAll_loop htakes rest) hon hagain fun _ _ => rfl

theorem enterAll_adds {ns : List Node} (hordered : Ordered stack ns)
    (hbusy : ∀ id ∈ busy, id ∉ fronts ns) :
    Adds stack index before t busy ns (enterAll ⟨index, before, t.head?⟩ ns) := by
  induction ns generalizing busy with
  | nil =>
      intro marks f hf
      simp only [enterAll]
      split
      · next hfound =>
        exact ⟨(Option.or_of_isSome (Front.isSome_worth_of_found hfound)).symm, hf⟩
      · next hfound =>
        have hworth : Front.worth { f with found := some marks } index t =
            (f.worth index t).or (some marks) := by
          rw [Front.worth, Front.worth, Option.not_isSome_iff_eq_none.1 hfound, Option.or_none]
        refine ⟨hworth, hf.ways, fun id hseen hid hlives => ?_⟩
        simp [hworth]
  | cons n ns ih =>
      exact Node.enter_adds hordered hbusy fun _ busy hbusy => ih hordered.2.2 hbusy

/-! ## Searches -/

theorem Way.worth_nil (w : Way) : w.worth index [] = none := rfl

theorem Way.worth_cons (w : Way) (c : Char) :
    w.worth index (c :: t) =
      if w.set.test c then preferred w.rest ⟨index + 1, some c, t, w.marks⟩ else none := by
  by_cases hc : w.set.test c = true
  · simp [worth, Spot.take, hc, preferred]
  · simp [worth, Spot.take, hc]

theorem advance_adds {c : Char} {ways : List Way} (hways : ∀ w ∈ ways, Ordered stack w.rest)
    (hf : f.Settled stack (index + 1) (some c) t []) :
    (advance ⟨index + 1, some c, t.head?⟩ c ways f).worth (index + 1) t =
        (f.worth (index + 1) t).or (ways.findSome? (·.worth index (c :: t))) ∧
      (advance ⟨index + 1, some c, t.head?⟩ c ways f).Settled stack (index + 1)
        (some c) t [] := by
  induction ways generalizing f with
  | nil => exact ⟨(Option.or_none).symm, hf⟩
  | cons w ws ih =>
      have hws : ∀ w ∈ ws, Ordered stack w.rest :=
        fun w hw => hways w (List.mem_cons_of_mem _ hw)
      simp only [advance, List.findSome?_cons, w.worth_cons]
      split
      · next hfound =>
        exact ⟨(Option.or_of_isSome (Front.isSome_worth_of_found hfound)).symm, hf⟩
      · split
        · have hw := enterAll_adds (hways w List.mem_cons_self)
            (fun _ h => absurd h List.not_mem_nil) w.marks f hf
          obtain ⟨hworth, hsettled⟩ := ih hws hw.2
          refine ⟨?_, hsettled⟩
          rw [hworth, hw.1, Option.or_assoc]
          cases preferred w.rest ⟨index + 1, some c, t, w.marks⟩ <;> rfl
        · exact ih hws hf

end

theorem Front.start_settled {stack : Nat → List Node} {index : Nat}
    {before : Option Char} {t : Text} :
    Front.start.Settled stack index before t [] :=
  ⟨fun _ hw => absurd hw List.not_mem_nil, fun id hseen => by simp [Front.start] at hseen⟩

/-- The marks of the preferred outcome of a program at the first place behind `index`
where there is any. -/
def laterFrom (program : List Node) (index : Nat) : Text → Option Marks
  | [] => none
  | c :: rest =>
    (preferred program ⟨index + 1, some c, rest, []⟩).or (laterFrom program (index + 1) rest)

/-- The marks of the preferred outcome of a program at the first place where there is any. -/
def firstFrom (program : List Node) (index : Nat) (before : Option Char) (t : Text) :
    Option Marks :=
  (preferred program ⟨index, before, t, []⟩).or (laterFrom program index t)

section

variable {stack : Nat → List Node} {program : List Node} (hprogram : Ordered stack program)

include hprogram

theorem enterAll_program_adds (index : Nat) (before : Option Char) (t : Text) :
    Adds stack index before t [] program (enterAll ⟨index, before, t.head?⟩ program) :=
  enterAll_adds hprogram fun _ h => absurd h List.not_mem_nil

/-- A search goes on with its ways, and begins a new match only while it has none. -/
theorem scan_eq {t : Text} {index : Nat} {best : Option Marks} {ways : List Way}
    (hways : ∀ w ∈ ways, Ordered stack w.rest) :
    scan program index best ways t =
      ((ways.findSome? (·.worth index t)).or best).or (laterFrom program index t) := by
  induction t generalizing index best ways with
  | nil =>
      have hnone : ways.findSome? (·.worth index []) = none :=
        List.findSome?_eq_none_iff.2 fun w _ => w.worth_nil
      rw [hnone, scan, laterFrom, Option.none_or, Option.or_none]
  | cons c rest ih =>
      unfold scan
      split
      · next hdone =>
        obtain ⟨hbest, hempty⟩ := Bool.and_eq_true_iff.1 hdone
        rw [List.isEmpty_iff.1 hempty, List.findSome?_nil, Option.none_or,
          Option.or_of_isSome hbest]
      · let f := advance ⟨index + 1, some c, rest.head?⟩ c ways Front.start
        have hf : f.worth (index + 1) rest = ways.findSome? (·.worth index (c :: rest)) ∧
            f.Settled stack (index + 1) (some c) rest [] :=
          advance_adds hways Front.start_settled
        have hnext : ∀ f' : Front, f'.Settled stack (index + 1) (some c) rest [] →
            scan program (index + 1) (f'.found.or best) f'.ways.reverse rest =
              ((f'.worth (index + 1) rest).or best).or (laterFrom program (index + 1) rest) := by
          intro f' hf'
          rw [ih fun w hw => hf'.ways w (List.mem_reverse.1 hw), ← Option.or_assoc]
          rfl
        cases best with
        | none =>
            have hnew := enterAll_program_adds hprogram _ _ _ [] f hf.2
            exact (hnext _ hnew.2).trans (by
              rw [hnew.1, hf.1, Option.or_none, Option.or_none, Option.or_assoc]
              rfl)
        | some marks => exact (hnext f hf.2).trans (by simp [hf.1])

/-- A search finds what backtracking finds. -/
theorem search_eq_firstFrom (index : Nat) (before : Option Char) (t : Text) :
    search program index before t = firstFrom program index before t := by
  have hnew := enterAll_program_adds hprogram index before t [] Front.start Front.start_settled
  rw [search, scan_eq hprogram fun w hw => hnew.2.ways w (List.mem_reverse.1 hw), firstFrom]
  have hworth : Front.worth (enterAll ⟨index, before, t.head?⟩ program [] Front.start) index t =
      preferred program ⟨index, before, t, []⟩ := hnew.1
  rw [← hworth]
  rfl

end

end PlainLink.Regex
