/-
# Going through a program

A search goes through the parts of a program without taking a character: it notes the
numbered places, leaves a way at each set, and finds a match at the end.  All that it
does to the front is one of these three, and it does nothing at a place that was gone
through before.  So a condition on fronts that the three keep holds of whatever front
the search comes to.

Main statements: `Node.enter_preserves`, `enterAll_preserves`, `advance_preserves`.
-/
import PlainLink.Proofs.Regex.Outcomes

namespace PlainLink.Regex

/-! ## Steps -/

/-- The number of a set or a choice. -/
def Node.number? : Node → Option Nat
  | set id _ => some id
  | fork id _ _ => some id
  | loop id _ _ => some id
  | _ => none

/-- The rows to which a part hands on without taking a character, each with its place. -/
def Node.steps (p : Spot) : Node → (rest : List Node) → List (List Node × Spot)
  | skip, rest => [(rest, p)]
  | set _ _, _ => []
  | look l, rest => (p.ask l).map fun q => (rest, q)
  | mark slot, rest => [(rest, p.mark slot)]
  | seq a b, rest => [(a :: b :: rest, p)]
  | fork _ a b, rest => [(a :: rest, p), (b :: rest, p)]
  | loop id greedy body, rest => [(body :: loop id greedy body :: rest, p), (rest, p)]

/-- What a search looks at in a place. -/
def Spot.place (p : Spot) : Place :=
  ⟨p.index, p.before, p.rest.head?⟩

theorem Place.exists_spot (place : Place) : ∃ p : Spot, p.place = place := by
  obtain ⟨index, before, next⟩ := place
  exact ⟨⟨index, before, next.toList, []⟩, by cases next <;> rfl⟩

/-- Where a part is of the kind, so are the parts inside it. -/
structure Node.Hereditary (part : Node → Prop) : Prop where
  seq : ∀ {a b : Node}, part (.seq a b) → part a ∧ part b
  fork : ∀ {id : Nat} {a b : Node}, part (.fork id a b) → part a ∧ part b
  loop : ∀ {id : Nat} {greedy : Bool} {body : Node}, part (.loop id greedy body) → part body

theorem Node.hereditary_true : Node.Hereditary fun _ => True :=
  ⟨fun _ => ⟨trivial, trivial⟩, fun _ => ⟨trivial, trivial⟩, fun _ => trivial⟩

theorem Node.Hereditary.of_mem_steps {part : Node → Prop} (h : Node.Hereditary part)
    {row : List Node → Prop}
    (hcons : ∀ {n : Node} {rest : List Node}, part n → row rest → row (n :: rest))
    {n : Node} {rest : List Node} {p : Spot} {s : List Node × Spot} (hn : part n)
    (hrest : row rest) (hs : s ∈ n.steps p rest) : row s.1 := by
  cases n with
  | set id s => cases hs
  | look l =>
      obtain ⟨q, -, rfl⟩ := List.mem_map.1 hs
      exact hrest
  | skip => exact List.mem_singleton.1 hs ▸ hrest
  | mark slot => exact List.mem_singleton.1 hs ▸ hrest
  | seq a b =>
      obtain ⟨ha, hb⟩ := h.seq hn
      exact List.mem_singleton.1 hs ▸ hcons ha (hcons hb hrest)
  | fork id a b =>
      obtain ⟨ha, hb⟩ := h.fork hn
      rcases List.mem_cons.1 hs with rfl | hs
      · exact hcons ha hrest
      · exact List.mem_singleton.1 hs ▸ hcons hb hrest
  | loop id greedy body =>
      rcases List.mem_cons.1 hs with rfl | hs
      · exact hcons (h.loop hn) (hcons hn hrest)
      · exact List.mem_singleton.1 hs ▸ hrest

theorem Node.spot_of_mem_steps {n : Node} {rest : List Node} {p : Spot} {s : List Node × Spot}
    (hs : s ∈ n.steps p rest) : s.2 = p ∨ ∃ slot, n = .mark slot ∧ s.2 = p.mark slot := by
  cases n with
  | set id s => cases hs
  | look l =>
      obtain ⟨q, hq, rfl⟩ := List.mem_map.1 hs
      exact .inl (Spot.mem_ask.1 hq).2
  | mark slot =>
      obtain rfl := List.mem_singleton.1 hs
      exact .inr ⟨slot, rfl, rfl⟩
  | _ =>
      simp only [steps, List.mem_cons, List.not_mem_nil, or_false] at hs
      grind

theorem Node.at_of_mem_steps {n : Node} {rest : List Node} {p : Spot} {s : List Node × Spot}
    (hs : s ∈ n.steps p rest) : { p with marks := s.2.marks } = s.2 := by
  rcases Node.spot_of_mem_steps hs with hsame | ⟨slot, -, hmark⟩
  · rw [hsame]
  · rw [hmark]
    rfl

/-! ## Conditions that are kept -/

/-- The condition `front` is kept by all that is done to a front in going through parts of the
kind `part`.  `row` says with which marks a row of parts may be gone through. -/
structure Preserved (p : Spot) (part : Node → Prop) (row : List Node → Marks → Prop)
    (front : Front → Prop) : Prop where
  inside : Node.Hereditary part
  steps : ∀ {n : Node} {rest : List Node} {marks : Marks}, part n → row (n :: rest) marks →
    ∀ s ∈ n.steps { p with marks } rest, row s.1 s.2.marks
  visit : ∀ {n : Node} {id : Nat} {f : Front}, part n → n.number? = some id → f.found = none →
    front f → front (f.visit id)
  way : ∀ {id : Nat} {s : CharSet} {rest : List Node} {marks : Marks} {f : Front},
    row (.set id s :: rest) marks → f.found = none → front f →
    front { f with ways := ⟨s, rest, marks⟩ :: f.ways }
  found : ∀ {marks : Marks} {f : Front}, row [] marks → f.found = none → front f →
    front { f with found := some marks }

/-- To go through the row with `k` keeps the condition. -/
def Preserves (row : List Node → Marks → Prop) (front : Front → Prop) (ns : List Node)
    (k : Marks → Front → Front) : Prop :=
  ∀ marks f, row ns marks → front f → front (k marks f)

theorem Front.found_of_open {f : Front} {id : Nat} (h : ¬ f.closed id) : f.found = none := by
  simp only [Front.closed, Bool.or_eq_true, not_or, Option.isSome_iff_ne_none] at h
  exact Classical.not_not.1 h.1

section

variable {p : Spot} {part : Node → Prop} {row : List Node → Marks → Prop} {front : Front → Prop}
  {n : Node} {rest ns : List Node} {onward : Marks → Front → Front}

theorem Node.enter_preserves (h : Preserved p part row front) (hn : part n)
    (hon : Preserves row front rest onward) :
    Preserves row front (n :: rest) (n.enter p.place rest onward) := by
  -- On the part, with what follows it left open: the body of a loop is followed by the loop
  -- itself.
  induction n generalizing rest onward with
  | skip =>
      intro marks f hrow hf
      exact hon marks f (h.steps hn hrow _ List.mem_cons_self) hf
  | set id s =>
      intro marks f hrow hf
      simp only [enter]
      split
      · exact hf
      · next hopen =>
        have hfound := Front.found_of_open hopen
        exact h.way hrow hfound (h.visit hn rfl hfound hf)
  | look l =>
      intro marks f hrow hf
      simp only [enter]
      split
      · next hholds =>
        have hstep : (rest, { p with marks }) ∈ (look l).steps { p with marks } rest :=
          List.mem_map_of_mem (Spot.mem_ask.2 ⟨hholds, rfl⟩)
        exact hon marks f (h.steps hn hrow _ hstep) hf
      · exact hf
  | mark slot =>
      intro marks f hrow hf
      exact hon _ f (h.steps hn hrow _ List.mem_cons_self) hf
  | seq a b iha ihb =>
      intro marks f hrow hf
      obtain ⟨ha, hb⟩ := h.inside.seq hn
      exact iha ha (ihb hb hon) marks f (h.steps hn hrow _ List.mem_cons_self) hf
  | fork id a b iha ihb =>
      intro marks f hrow hf
      obtain ⟨ha, hb⟩ := h.inside.fork hn
      have hsteps := h.steps hn hrow
      simp only [enter]
      split
      · exact hf
      · next hopen =>
        have hvisit := h.visit hn rfl (Front.found_of_open hopen) hf
        have hfirst := iha ha hon marks _ (hsteps _ List.mem_cons_self) hvisit
        exact ihb hb hon marks _ (hsteps _ (List.mem_cons_of_mem _ List.mem_cons_self)) hfirst
  | loop id greedy body ih =>
      intro marks f hrow hf
      have hsteps := h.steps hn hrow
      have hstop : Preserves row front (loop id greedy body :: rest) fun _ f => f :=
        fun _ _ _ hf => hf
      have hagain := fun f => ih (h.inside.loop hn) hstop marks f (hsteps _ List.mem_cons_self)
      have hon' := fun f => hon marks f (hsteps _ (List.mem_cons_of_mem _ List.mem_cons_self))
      simp only [enter]
      split
      · exact hf
      · next hopen =>
        have hvisit := h.visit hn rfl (Front.found_of_open hopen) hf
        split
        · exact hon' _ (hagain _ hvisit)
        · exact hagain _ (hon' _ hvisit)

theorem enterAll_preserves (h : Preserved p part row front) (hns : ∀ n ∈ ns, part n) :
    Preserves row front ns (enterAll p.place ns) := by
  induction ns with
  | nil =>
      intro marks f hrow hf
      simp only [enterAll]
      split
      · exact hf
      · next hopen => exact h.found hrow (Option.not_isSome_iff_eq_none.1 hopen) hf
  | cons n ns ih =>
      obtain ⟨hn, hns⟩ := List.forall_mem_cons.1 hns
      exact Node.enter_preserves h hn (ih hns)

/-- To let ways take a character keeps the condition, if what is left of them
may be gone through. -/
theorem advance_preserves {c : Char} {ways : List Way} {f : Front}
    (hall : ∀ ns, Preserves row front ns (enterAll p.place ns))
    (hways : ∀ w ∈ ways, w.set.test c → row w.rest w.marks) (hf : front f) :
    front (advance p.place c ways f) := by
  induction ways generalizing f with
  | nil => exact hf
  | cons w ways ih =>
      obtain ⟨hw, hways⟩ := List.forall_mem_cons.1 hways
      simp only [advance]
      split
      · exact hf
      · split
        · next htest => exact ih hways (hall w.rest w.marks f (hw htest) hf)
        · exact ih hways hf

end

end PlainLink.Regex
