/-
# Patterns that take the rest

A pattern may end with as many characters of a set as there are.  The loop that takes
them stands last in the program, and to go round it again is preferred to ending the
match.  So wherever a search finds a match, a way round the loop is left that is
preferred to it (`Front.Trails`), and the next character, if it is one of the set, makes
that way find a longer match.

This is so of whatever stands before the loop, also where it is found in a way that
backtracking would not go.

Main statement: `findFrom?_after`.
-/
import PlainLink.Proofs.Regex.Leftmost

namespace PlainLink.Regex

/-- The end of a program that takes characters of the set: the loop with the number `i`, and
the mark that closes the match. -/
def trail (i : Nat) (s : CharSet) : List Node :=
  [.loop i true (.set (i + 2) s), .mark 1]

/-- The row ends with the trail, and what stands before has lower numbers. -/
inductive Trailed (i : Nat) (s : CharSet) : List Node → Prop
  | trail : Trailed i s (trail i s)
  | cons {n : Node} {ns : List Node} : n.within 0 i → Trailed i s ns → Trailed i s (n :: ns)

/-- The way goes round the loop of the trail. -/
def Way.Rounds (i : Nat) (s : CharSet) (w : Way) : Prop :=
  w.set = s ∧ w.rest = trail i s

/-- Every way comes to the trail.  A match was found if the trail was gone through, it ends
here, and a way round the loop is preferred to it. -/
structure Front.Trails (i : Nat) (s : CharSet) (index : Nat) (f : Front) : Prop where
  ways : ∀ w ∈ f.ways, Trailed i s w.rest
  seen : f.seen.testBit i ∨ f.seen.testBit (i + 2) → f.found.isSome
  ends : ∀ marks ∈ f.found, ∃ inside, marks = (1, index) :: inside
  rounds : f.found.isSome → ∃ w ∈ f.ways, w.Rounds i s

section

variable {i : Nat} {s : CharSet} {p : Place} {f : Front} {n : Node}

theorem Front.start_trails {index : Nat} : Front.start.Trails i s index := by
  refine ⟨fun _ hw => absurd hw List.not_mem_nil, fun hseen => ?_, nofun, nofun⟩
  simp [Front.start] at hseen

theorem Front.Trails.visit {index id : Nat} (h : f.Trails i s index) (hid : id < i) :
    (f.visit id).Trails i s index := by
  refine ⟨h.ways, fun hseen => h.seen ?_, h.ends, h.rounds⟩
  rcases hseen with hseen | hseen
  · exact .inl ((Front.testBit_visit hseen).resolve_left (by omega))
  · exact .inr ((Front.testBit_visit hseen).resolve_left (by omega))

theorem Node.number?_lt {id : Nat} (hn : n.within 0 i) (hid : n.number? = some id) : id < i := by
  cases n with
  | set id t => exact Option.some.inj hid ▸ hn.2
  | fork id a b => exact Option.some.inj hid ▸ hn.1.2
  | loop id greedy body => exact Option.some.inj hid ▸ hn.1.2
  | _ => cases hid

theorem Node.hereditary_within : Node.Hereditary (Node.within 0 i) :=
  ⟨fun h => h, fun h => h.2, fun h => h.2⟩

theorem trails_preserved {p : Spot} :
    Preserved p (Node.within 0 i) (fun ns _ => Trailed i s ns) (Front.Trails i s p.index) where
  inside := Node.hereditary_within
  steps := by
    rintro n rest marks hn (_ | ⟨-, hrest⟩) next hnext
    · exact absurd hn.1.2 (Nat.lt_irrefl i)
    · exact Node.hereditary_within.of_mem_steps Trailed.cons hn hrest hnext
  visit hn hid _ hf := hf.visit (Node.number?_lt hn hid)
  way := by
    rintro id t rest marks f (_ | ⟨-, hrest⟩) - hf
    refine ⟨fun w hw => ?_, hf.seen, hf.ends, fun hfound => ?_⟩
    · rcases List.mem_cons.1 hw with rfl | hw
      · exact hrest
      · exact hf.ways w hw
    · obtain ⟨w, hw, hrounds⟩ := hf.rounds hfound
      exact ⟨w, List.mem_cons_of_mem _ hw, hrounds⟩
  found := by
    rintro marks f ⟨⟩

/-- To go through the trail finds a match, unless there is one, and leaves a way round the loop
that is preferred to it. -/
theorem enterAll_trail (marks : Marks) (hf : f.Trails i s p.index) :
    (enterAll p (trail i s) marks f).Trails i s p.index ∧
      (enterAll p (trail i s) marks f).found.isSome := by
  by_cases hclosed : f.closed i = true
  · have hsame : enterAll p (trail i s) marks f = f := if_pos hclosed
    have hfound : f.found.isSome :=
      (Bool.or_eq_true_iff.1 hclosed).elim id fun hseen => hf.seen (.inl hseen)
    rw [hsame]
    exact ⟨hf, hfound⟩
  · have hfound := Front.found_of_open hclosed
    have hopen : ¬ (f.visit i).closed (i + 2) := by
      intro h
      rcases Bool.or_eq_true_iff.1 h with h | h
      · rw [show (f.visit i).found = none from hfound] at h
        cases h
      · have hseen := hf.seen (.inr ((Front.testBit_visit h).resolve_left (by omega)))
        rw [hfound] at hseen
        cases hseen
    have heq : enterAll p (trail i s) marks f =
        { (f.visit i).visit (i + 2) with
          ways := ⟨s, trail i s, marks⟩ :: f.ways, found := some ((1, p.index) :: marks) } := by
      simp only [trail, enterAll, Node.enter, if_neg hclosed, if_neg hopen, if_true]
      rw [if_neg (by simp [Front.visit, hfound])]
      rfl
    rw [heq]
    refine ⟨⟨fun w hw => ?_, fun _ => rfl, fun m hm => ?_, fun _ => ?_⟩, rfl⟩
    · rcases List.mem_cons.1 hw with rfl | hw
      · exact .trail
      · exact hf.ways w hw
    · exact ⟨marks, (Option.mem_some_iff.1 hm).symm⟩
    · exact ⟨_, List.mem_cons_self, rfl, rfl⟩

/-- To go through with `k` keeps what is known of the trail. -/
def KeepsTrail (i : Nat) (s : CharSet) (index : Nat) (k : Marks → Front → Front) : Prop :=
  ∀ marks f, f.Trails i s index → (k marks f).Trails i s index

theorem enterAll_keepsTrail {ns : List Node} (h : Trailed i s ns) :
    KeepsTrail i s p.index (enterAll p ns) := by
  obtain ⟨p, rfl⟩ := p.exists_spot
  have hkeeps : Preserves (fun ns _ => Trailed i s ns) (Front.Trails i s p.index) ns
      (enterAll p.place ns) := by
    induction h with
    | trail => exact fun marks f _ hf => (enterAll_trail (p := p.place) marks hf).1
    | cons hn _ ih => exact Node.enter_preserves trails_preserved hn ih
  exact fun marks f hf => hkeeps marks f h hf

theorem advance_trails {c : Char} {ways : List Way} (hways : ∀ w ∈ ways, Trailed i s w.rest)
    (hf : f.Trails i s p.index) :
    (advance p c ways f).Trails i s p.index ∧
      (s.test c → (∃ w ∈ ways, w.Rounds i s) → (advance p c ways f).found.isSome) := by
  induction ways generalizing f with
  | nil =>
      refine ⟨hf, ?_⟩
      rintro - ⟨w, hw, -⟩
      cases hw
  | cons w ws ih =>
      obtain ⟨hw, hws⟩ := List.forall_mem_cons.1 hways
      unfold advance
      split
      · next hfound => exact ⟨hf, fun _ _ => hfound⟩
      · split
        · next htest =>
          obtain ⟨htrails, hround⟩ := ih hws (enterAll_keepsTrail hw w.marks f hf)
          refine ⟨htrails, ?_⟩
          rintro hc ⟨v, hv, hrounds⟩
          rcases List.mem_cons.1 hv with rfl | hv
          · have hfound := (enterAll_trail (p := p) v.marks hf).2
            rw [← hrounds.2] at hfound
            rw [(advance_extends c ws _).found hfound]
            exact hfound
          · exact hround hc ⟨v, hv, hrounds⟩
        · next htest =>
          obtain ⟨htrails, hround⟩ := ih hws hf
          refine ⟨htrails, ?_⟩
          rintro hc ⟨v, hv, hrounds⟩
          rcases List.mem_cons.1 hv with rfl | hv
          · exact absurd (hrounds.1 ▸ hc) htest
          · exact hround hc ⟨v, hv, hrounds⟩

end

/-! ## Searches -/

section

variable {i : Nat} {s : CharSet} {program : List Node}
  (hprogram : ∀ p, KeepsTrail i s p.index (enterAll p program))

include hprogram

theorem nextFront_trails {index : Nat} (best : Option Marks) {ways : List Way}
    {c : Char} (rest : Text) (hways : ∀ w ∈ ways, Trailed i s w.rest) :
    (nextFront program index best ways c rest).Trails i s (index + 1) ∧
      (s.test c → (∃ w ∈ ways, w.Rounds i s) →
        (nextFront program index best ways c rest).found.isSome) := by
  let p : Place := ⟨index + 1, some c, rest.head?⟩
  obtain ⟨htrails, hround⟩ := advance_trails (p := p) (c := c) hways Front.start_trails
  unfold nextFront
  split
  · refine ⟨hprogram p [] _ htrails, fun hc hrounds => ?_⟩
    rw [(enterAll_extends program [] _).found (hround hc hrounds)]
    exact hround hc hrounds
  · exact ⟨htrails, hround⟩

/-- What a scan finds ends before the first character that is none of the set. -/
theorem scan_trailed {Q : Marks → Prop} {t : Text} {index : Nat} {best : Option Marks}
    {ways : List Way}
    (hQ : ∀ front rest inside, t = front ++ rest → (∀ c ∈ rest.head?, ¬ s.test c) →
      Q ((1, index + front.length) :: inside))
    (hways : ∀ w ∈ ways, Trailed i s w.rest)
    (hbest : ∀ marks ∈ best, Q marks ∨
      (∃ inside, marks = (1, index) :: inside) ∧ ∃ w ∈ ways, w.Rounds i s) :
    ∀ marks ∈ scan program index best ways t, Q marks := by
  induction t generalizing index best ways with
  | nil =>
      intro marks hm
      rcases hbest marks hm with hmarks | ⟨⟨inside, rfl⟩, -⟩
      · exact hmarks
      · exact hQ [] [] inside rfl nofun
  | cons c rest ih =>
      rw [scan_cons]
      split
      · next hdone =>
        intro marks hm
        refine (hbest marks hm).resolve_right ?_
        rintro ⟨-, w, hw, -⟩
        simp [List.isEmpty_iff.1 (Bool.and_eq_true_iff.1 hdone).2] at hw
      · obtain ⟨htrails, hround⟩ := nextFront_trails hprogram best rest hways
        refine ih (fun front rest' inside heq hstop => ?_) (fun w hw => ?_) fun marks hm => ?_
        · have hlength : index + 1 + front.length = index + (c :: front).length := by
            rw [List.length_cons]
            omega
          rw [hlength]
          exact hQ (c :: front) rest' inside (by rw [heq, List.cons_append]) hstop
        · exact htrails.ways w (List.mem_reverse.1 hw)
        · rcases Option.or_eq_some_iff.1 hm with hm | ⟨hnone, hm⟩
          · obtain ⟨w, hw, hrounds⟩ := htrails.rounds (Option.isSome_of_mem hm)
            exact .inr ⟨htrails.ends marks hm, w, List.mem_reverse.2 hw, hrounds⟩
          · -- Nothing longer is found here, so that the way round the loop could not take `c`.
            refine .inl ((hbest marks hm).elim id ?_)
            rintro ⟨⟨inside, rfl⟩, hrounds⟩
            refine hQ [] (c :: rest) inside rfl fun d hd htest => ?_
            obtain rfl := Option.some.inj hd
            have hfound := hround htest hrounds
            rw [hnone] at hfound
            cases hfound

end

/-! ## Matches -/

/-- A pattern that ends with as many characters of a set as there are leaves none of
them behind its match. -/
theorem findFrom?_after {r : Regex} {e : Expr} {s : CharSet}
    (hexpr : r.expr = .seq e (.rep 0 none true (.set s))) {base : Nat}
    {before : Option Char} {text : Text} {m : Match}
    (h : r.findFrom? base before text = some m) : ∀ c ∈ m.after.head?, ¬ s.test c := by
  obtain ⟨marks, hsearch, rfl⟩ := Option.map_eq_some_iff.1 h
  have hprogram (p : Place) : KeepsTrail (e.compile 0).2 s p.index (enterAll p r.program) := by
    have hrow : Trailed (e.compile 0).2 s
        (.mark 0 :: (e.compile 0).1 :: trail (e.compile 0).2 s) :=
      .cons trivial (.cons (e.compile_numbers 0).within .trail)
    have hsame : enterAll p r.program =
        enterAll p (.mark 0 :: (e.compile 0).1 :: trail (e.compile 0).2 s) := by
      rw [r.program_eq, hexpr]
      rfl
    rw [hsame]
    exact enterAll_keepsTrail hrow
  let p : Place := ⟨base, before, text.head?⟩
  have hfirst : (enterAll p r.program [] Front.start).Trails (e.compile 0).2 s base :=
    hprogram p [] _ Front.start_trails
  refine scan_trailed
    (Q := fun marks => ∀ c ∈ (Match.mk base text marks).after.head?, ¬ s.test c)
    hprogram (fun front rest inside heq hstop => ?_)
      (fun w hw => hfirst.ways w (List.mem_reverse.1 hw))
    (fun marks hm => ?_) marks hsearch
  · have hafter : (Match.mk base text ((1, base + front.length) :: inside)).after = rest := by
      simp [Match.after, Match.position?, heq]
    rw [hafter]
    exact hstop
  · obtain ⟨w, hw, hrounds⟩ := hfirst.rounds (Option.isSome_of_mem hm)
    exact .inr ⟨hfirst.ends marks hm, w, List.mem_reverse.2 hw, hrounds⟩

end PlainLink.Regex
