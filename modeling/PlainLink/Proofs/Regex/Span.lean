/-
# Where a match lies

A search remembers positions while it moves through the text, and a match is read off
them later.  What makes the reading meaningful is an invariant of the search: the marks
of every way begin with the one of the whole match, all later ones lie between it and
the current place, and only the end of the program adds the mark that closes the match.
So a match cuts its text into what stands before it, what it took and what stands after
it, and each group took a part of the match.

    Open      the marks of a match that began at `start` and has come to `here`
    Begun     the same, with only a bound on where it began
    Closed    the marks of a match that has ended

Nothing is asked of the pattern: a search that prefers another match than backtracking
would still has its marks in order.

Main statements: `Match.Spans.parts`, `Match.Spans.group?_infix`, `replaceAll_sublist`.
-/
import PlainLink.Proofs.Regex.Passage

namespace PlainLink.Regex

/-! ## Programs -/

namespace Node

section

variable {part : Nat → Node × Nat} {R : Node → Nat → Nat → Prop}
  (hskip : ∀ next, R skip next next)
  (hseq : ∀ {a b : Node} {low mid high : Nat}, R a low mid → R b mid high → R (seq a b) low high)
  (hpart : ∀ next, R (part next).1 next (part next).2)

include hskip hseq hpart

/-- What is true of the empty part and of parts one after the other is true of copies. -/
theorem copies_rel (count next : Nat) :
    R (copies part count next).1 next (copies part count next).2 := by
  induction count generalizing next with
  | zero => exact hskip next
  | succ count ih => exact hseq (hpart next) (ih _)

theorem options_rel
    (hfork : ∀ {id mid high : Nat} {a b : Node}, R a (id + 1) mid → R b mid high →
      R (fork id a b) id high) (greedy : Bool) (count next : Nat) :
    R (options part greedy count next).1 next (options part greedy count next).2 := by
  induction count generalizing next with
  | zero => exact hskip next
  | succ count ih =>
      have hround := hseq (hpart (next + 1)) (ih (part (next + 1)).2)
      cases greedy with
      | true => exact hfork hround (hskip _)
      | false => exact hfork (hskip _) hround

end

section

variable {part : Nat → Node × Nat} {R : Node → Prop} (hskip : R .skip)
  (hseq : ∀ {a b : Node}, R a → R b → R (seq a b))
  (hfork : ∀ {id : Nat} {a b : Node}, R a → R b → R (fork id a b))
  (hloop : ∀ {id : Nat} {greedy : Bool} {body : Node}, R body → R (loop id greedy body))
  (hpart : ∀ next, R (part next).1)

include hskip hseq hfork hloop hpart

/-- What passes from parts to what is put together of them is true of a
repetition written out. -/
theorem repetition_all (progresses greedy : Bool) (least : Nat) (most : Option Nat)
    (next : Nat) :
    R (repetition part progresses greedy least most next).1 := by
  have hcopies (count next : Nat) : R (copies part count next).1 :=
    copies_rel (R := fun n _ _ => R n) (fun _ => hskip) hseq hpart count next
  cases most with
  | some most =>
      exact hseq (hcopies _ _)
        (options_rel (R := fun n _ _ => R n) (fun _ => hskip) hseq hpart hfork greedy _ _)
  | none =>
      simp only [repetition]
      split
      · cases progresses with
        | true => exact hloop (hpart _)
        | false =>
            cases greedy with
            | true => exact hfork (hseq (hpart _) (hloop (hpart _))) hskip
            | false => exact hfork hskip (hseq (hpart _) (hloop (hpart _)))
      · exact hseq (hcopies _ _) (hseq (hpart _) (hloop (hpart _)))

end

end Node

/-- No mark of the part is one of the whole match. -/
def Node.inner : Node → Prop
  | skip => True
  | set _ _ => True
  | look _ => True
  | mark slot => 2 ≤ slot
  | seq a b => a.inner ∧ b.inner
  | fork _ a b => a.inner ∧ b.inner
  | loop _ _ body => body.inner

theorem Expr.compile_inner (e : Expr) (next : Nat) : (e.compile next).1.inner := by
  induction e generalizing next with
  | empty => trivial
  | set s => trivial
  | look l => trivial
  | group before e ih =>
      refine ⟨?_, ih next, ?_⟩
      · show 2 ≤ 2 * before + 2
        omega
      · show 2 ≤ 2 * before + 3
        omega
  | seq a b iha ihb => exact ⟨iha _, ihb _⟩
  | alt a b iha ihb => exact ⟨iha _, ihb _⟩
  | rep least most greedy e ih =>
      exact Node.repetition_all trivial .intro .intro
        (fun hbody => hbody) ih _ greedy least most next

/-- What a way has left to go through: inner parts, and the mark that closes the match. -/
inductive Rest : List Node → Prop
  | last : Rest [.mark 1]
  | cons {n : Node} {ns : List Node} : n.inner → Rest ns → Rest (n :: ns)

/-! ## Marks -/

/-- The marks of a match that began at `start` and has come to `here`. -/
def Open (start here : Nat) (marks : Marks) : Prop :=
  ∃ groups, marks = groups ++ [(0, start)] ∧
    ∀ m ∈ groups, 2 ≤ m.1 ∧ start ≤ m.2 ∧ m.2 ≤ here

/-- The marks of a match that began not before `low` and has come to `here`. -/
def Begun (low here : Nat) (marks : Marks) : Prop :=
  ∃ start, low ≤ start ∧ start ≤ here ∧ Open start here marks

/-- The marks of a match that began not before `low` and ended not after `high`. -/
def Closed (low high : Nat) (marks : Marks) : Prop :=
  ∃ stop inside, stop ≤ high ∧ marks = (1, stop) :: inside ∧ Begun low stop inside

theorem Begun.mono {low here there : Nat} {marks : Marks} (h : Begun low here marks)
    (hle : here ≤ there) : Begun low there marks := by
  obtain ⟨start, hlow, hstart, groups, rfl, hgroups⟩ := h
  refine ⟨start, hlow, Nat.le_trans hstart hle, groups, rfl, ?_⟩
  intro m hm
  obtain ⟨hslot, hge, hle'⟩ := hgroups m hm
  exact ⟨hslot, hge, Nat.le_trans hle' hle⟩

theorem Begun.mark {low here slot : Nat} {marks : Marks} (h : Begun low here marks)
    (hslot : 2 ≤ slot) : Begun low here ((slot, here) :: marks) := by
  obtain ⟨start, hlow, hstart, groups, rfl, hgroups⟩ := h
  refine ⟨start, hlow, hstart, (slot, here) :: groups, rfl, ?_⟩
  intro m hm
  rcases List.mem_cons.1 hm with rfl | hm
  · exact ⟨hslot, hstart, here.le_refl⟩
  · exact hgroups m hm

theorem Begun.first {low here : Nat} (h : low ≤ here) : Begun low here [(0, here)] :=
  ⟨here, h, here.le_refl, [], rfl, fun _ hm => absurd hm List.not_mem_nil⟩

theorem Begun.close {low here : Nat} {marks : Marks} (h : Begun low here marks) :
    Closed low here ((1, here) :: marks) :=
  ⟨here, marks, here.le_refl, rfl, h⟩

theorem Closed.mono {low high higher : Nat} {marks : Marks} (h : Closed low high marks)
    (hle : high ≤ higher) : Closed low higher marks := by
  obtain ⟨stop, inside, hstop, hmarks, hbegun⟩ := h
  exact ⟨stop, inside, Nat.le_trans hstop hle, hmarks, hbegun⟩

/-! ## What is known at a place -/

/-- Every way on has begun its match, and the match that is found is closed. -/
structure Front.Sound (low here : Nat) (f : Front) : Prop where
  ways : ∀ w ∈ f.ways, Rest w.rest ∧ Begun low here w.marks
  found : ∀ marks ∈ f.found, Closed low here marks

variable {low : Nat} {p : Spot}

theorem Front.start_sound {here : Nat} : Front.start.Sound low here :=
  ⟨fun _ hw => absurd hw List.not_mem_nil, fun _ hm => nomatch hm⟩

theorem Node.hereditary_inner : Node.Hereditary inner :=
  ⟨fun h => h, fun h => h, fun h => h⟩

/-- The marks that a row may be gone through with: they are open while something is left to go
through, and closed behind it. -/
def InOrder (low here : Nat) : List Node → Marks → Prop
  | [], marks => Closed low here marks
  | n :: rest, marks => Rest (n :: rest) ∧ Begun low here marks

theorem Rest.inOrder {here : Nat} {ns : List Node} {marks : Marks} (h : Rest ns)
    (hmarks : Begun low here marks) : InOrder low here ns marks := by
  cases h with
  | last => exact ⟨.last, hmarks⟩
  | cons hn hns => exact ⟨.cons hn hns, hmarks⟩

theorem InOrder.steps {n : Node} {rest : List Node} {marks : Marks} {s : List Node × Spot}
    (h : InOrder low p.index (n :: rest) marks) (hs : s ∈ n.steps { p with marks } rest) :
    InOrder low p.index s.1 s.2.marks := by
  obtain ⟨hrow, hmarks⟩ := h
  cases hrow with
  | last =>
      obtain rfl := List.mem_singleton.1 hs
      exact hmarks.close
  | cons hn hrest =>
      refine (Node.hereditary_inner.of_mem_steps Rest.cons hn hrest hs).inOrder ?_
      rcases Node.spot_of_mem_steps hs with hsame | ⟨slot, rfl, hmark⟩
      · exact hsame ▸ hmarks
      · exact hmark ▸ hmarks.mark hn

theorem sound_preserved :
    Preserved p (fun _ => True) (InOrder low p.index) (Front.Sound low p.index) where
  inside := Node.hereditary_true
  steps _ hrow _ hs := hrow.steps hs
  visit _ _ _ hf := ⟨hf.ways, hf.found⟩
  way := by
    rintro id s rest marks f ⟨hrow, hmarks⟩ - hf
    refine ⟨fun w hw => ?_, hf.found⟩
    rcases List.mem_cons.1 hw with rfl | hw
    · cases hrow with
      | cons _ hrest => exact ⟨hrest, hmarks⟩
    · exact hf.ways w hw
  found := by
    rintro marks f hmarks - hf
    refine ⟨hf.ways, fun marks' hm => ?_⟩
    obtain rfl := Option.mem_some_iff.1 hm
    exact hmarks

theorem enterAll_sound (ns : List Node) :
    Preserves (InOrder low p.index) (Front.Sound low p.index) ns (enterAll p.place ns) :=
  enterAll_preserves sound_preserved fun _ _ => trivial

theorem enterAll_program_sound {body : Node} (hbody : body.inner)
    (hlow : low ≤ p.index) {f : Front} (hf : f.Sound low p.index) :
    (enterAll p.place [.mark 0, body, .mark 1] [] f).Sound low p.index := by
  have hrow : InOrder low p.index [body, .mark 1] [(0, p.index)] :=
    (Rest.cons hbody .last).inOrder (.first hlow)
  exact enterAll_sound [body, .mark 1] _ f hrow hf

theorem advance_sound {c : Char} {ways : List Way} {f : Front}
    (hways : ∀ w ∈ ways, Rest w.rest ∧ Begun low p.index w.marks) (hf : f.Sound low p.index) :
    (advance p.place c ways f).Sound low p.index :=
  advance_preserves enterAll_sound (fun w hw _ => (hways w hw).1.inOrder (hways w hw).2) hf

/-! ## Searches -/

theorem scan_closed {body : Node} (hbody : body.inner) {text : Text} {index : Nat}
    {best : Option Marks} {ways : List Way} (hlow : low ≤ index)
    (hbest : ∀ marks ∈ best, Closed low index marks)
    (hways : ∀ w ∈ ways, Rest w.rest ∧ Begun low index w.marks) :
    ∀ marks ∈ scan [.mark 0, body, .mark 1] index best ways text,
      Closed low (index + text.length) marks := by
  induction text generalizing index best ways with
  | nil => exact hbest
  | cons c rest ih =>
      unfold scan
      split
      · intro marks hm
        exact (hbest marks hm).mono (Nat.le_add_right _ _)
      · -- The ways and the best match of the last place are in order at the next one as well.
        let p : Spot := ⟨index + 1, some c, rest, []⟩
        have hadvanced : (advance p.place c ways Front.start).Sound low p.index := by
          refine advance_sound (fun w hw => ?_) Front.start_sound
          exact ⟨(hways w hw).1, (hways w hw).2.mono (Nat.le_succ _)⟩
        have hfront : (if best.isNone
            then enterAll p.place [.mark 0, body, .mark 1] []
              (advance p.place c ways Front.start)
            else advance p.place c ways Front.start).Sound low p.index := by
          split
          · exact enterAll_program_sound hbody (Nat.le_trans hlow (Nat.le_succ _)) hadvanced
          · exact hadvanced
        have hlength : index + (c :: rest).length = index + 1 + rest.length := by
          rw [List.length_cons]
          omega
        rw [hlength]
        refine ih (Nat.le_trans hlow (Nat.le_succ _)) ?_ ?_
        · intro marks hm
          rcases Option.or_eq_some_iff.1 hm with hm | ⟨-, hm⟩
          · exact hfront.found marks hm
          · exact (hbest marks hm).mono (Nat.le_succ _)
        · intro w hw
          exact hfront.ways w (List.mem_reverse.1 hw)

theorem search_closed {body : Node} (hbody : body.inner) {index : Nat} {before : Option Char}
    {text : Text} {marks : Marks}
    (h : search [.mark 0, body, .mark 1] index before text = some marks) :
    Closed index (index + text.length) marks := by
  let p : Spot := ⟨index, before, text, []⟩
  have hfront : (enterAll p.place [.mark 0, body, .mark 1] [] Front.start).Sound index p.index :=
    enterAll_program_sound hbody index.le_refl Front.start_sound
  exact scan_closed hbody index.le_refl hfront.found
    (fun w hw => hfront.ways w (List.mem_reverse.1 hw)) marks h

/-! ## Matches -/

/-- The match goes from `start` to `stop`, and every position that it
remembers lies between. -/
structure Match.Spans (m : Match) (start stop : Nat) : Prop where
  base_le : m.base ≤ start
  start_le : start ≤ stop
  stop_le : stop ≤ m.base + m.text.length
  position_zero : m.position? 0 = some start
  position_one : m.position? 1 = some stop
  position_between : ∀ slot v, m.position? slot = some v → start ≤ v ∧ v ≤ stop

theorem Match.spans_of_closed {base : Nat} {text : Text} {marks : Marks}
    (h : Closed base (base + text.length) marks) :
    ∃ start stop, (Match.mk base text marks).Spans start stop := by
  obtain ⟨stop, inside, hstop, rfl, start, hbase, hstart, groups, rfl, hgroups⟩ := h
  refine ⟨start, stop, hbase, hstart, hstop, ?_, rfl, ?_⟩
  · have hnone : groups.find? (·.1 == 0) = none := by
      refine List.find?_eq_none.2 (fun m hm => ?_)
      have hslot := (hgroups m hm).1
      simp only [beq_iff_eq]
      omega
    simp [position?, List.find?_append, hnone]
  · intro slot v hv
    obtain ⟨m, hfind, rfl⟩ := Option.map_eq_some_iff.1 hv
    have hm : m ∈ (1, stop) :: (groups ++ [(0, start)]) := List.mem_of_find?_eq_some hfind
    rcases List.mem_cons.1 hm with rfl | hm
    · exact ⟨hstart, stop.le_refl⟩
    · rcases List.mem_append.1 hm with hm | hm
      · exact (hgroups m hm).2
      · obtain rfl := List.mem_singleton.1 hm
        exact ⟨start.le_refl, hstart⟩

theorem findFrom?_spans {r : Regex} {base : Nat} {before : Option Char} {text : Text} {m : Match}
    (h : r.findFrom? base before text = some m) : m.text = text ∧ ∃ start stop,
      m.Spans start stop := by
  obtain ⟨marks, hsearch, rfl⟩ := Option.map_eq_some_iff.1 h
  rw [r.program_eq] at hsearch
  exact ⟨rfl, Match.spans_of_closed (search_closed (r.expr.compile_inner 0) hsearch)⟩

section

variable {m : Match} {start stop : Nat} (h : m.Spans start stop)

include h

theorem Match.Spans.taken_eq : m.taken = (m.text.drop (start - m.base)).take (stop - start) := by
  have hone : m.position? (2 * 0 + 1) = some stop := h.position_one
  simp [taken, group?, h.position_zero, hone]

/-- A match cuts its text into three. -/
theorem Match.Spans.parts : m.before ++ m.taken ++ m.after = m.text := by
  have hbase := h.base_le
  have hstart := h.start_le
  have hstop : stop - m.base = (start - m.base) + (stop - start) := by omega
  rw [h.taken_eq, before, after, h.position_zero, h.position_one, Option.getD_some,
    Option.getD_some, hstop, ← List.drop_drop, List.append_assoc, List.take_append_drop,
    List.take_append_drop]

/-- A group took a part of what the match took. -/
theorem Match.Spans.group?_infix {i : Nat} {part : Text} (hpart : m.group? i = some part) :
    part <:+: m.taken := by
  cases hfrom : m.position? (2 * i) with
  | none => simp [group?, hfrom] at hpart
  | some low =>
      cases hto : m.position? (2 * i + 1) with
      | none => simp [group?, hfrom, hto] at hpart
      | some high =>
          obtain rfl : (m.text.drop (low - m.base)).take (high - low) = part := by
            simpa [group?, hfrom, hto] using hpart
          have hlow := h.position_between _ _ hfrom
          have hhigh := h.position_between _ _ hto
          have hbase := h.base_le
          have hsplit : low - m.base = (start - m.base) + (low - start) := by omega
          have hlength : min (high - low) (stop - start - (low - start)) = high - low := by omega
          rw [h.taken_eq,
            hsplit, ← List.drop_drop, ← hlength, ← List.take_take, ← List.drop_take]
          exact (List.take_prefix _ _).isInfix.trans (List.drop_suffix _ _).isInfix

theorem Match.Spans.group?_sublist (i : Nat) : ((m.group? i).getD []).Sublist m.taken := by
  cases hpart : m.group? i with
  | none => exact List.nil_sublist _
  | some part => exact (h.group?_infix hpart).sublist

end

/-! ## Replacement -/

section

variable {r : Regex} {f : Match → Text}
  (hf : ∀ {m : Match} {start stop : Nat}, m.Spans start stop → (f m).Sublist m.taken)

include hf

theorem replaceFrom_sublist (steps base : Nat) (before : Option Char) (behindMatch : Bool)
    (text : Text) : (r.replaceFrom f steps base before behindMatch text).Sublist text := by
  induction steps generalizing base before behindMatch text with
  | zero => exact .refl _
  | succ steps ih =>
      unfold replaceFrom
      cases hfind : r.findFrom? base before text with
      | none => exact .refl _
      | some m =>
          obtain ⟨rfl, start, stop, hspans⟩ := findFrom?_spans hfind
          conv => rhs; rw [← hspans.parts]
          dsimp only
          split
          · exact ((List.Sublist.refl _).append (hf hspans)).append (ih _ _ _ _)
          · have hhere :
                (m.before ++ if behindMatch && m.before.isEmpty then [] else f m).Sublist
                (m.before ++ m.taken) := by
              refine (List.Sublist.refl _).append ?_
              split
              · exact List.nil_sublist _
              · exact hf hspans
            split
            · next hafter =>
              rw [hafter, List.append_nil]
              exact hhere
            · next c rest hafter =>
              rw [hafter]
              exact hhere.append ((ih _ _ _ _).cons_cons c)

/-- A replacement that keeps a part of each match deletes from the text
and does nothing else. -/
theorem replaceAll_sublist (text : Text) : (r.replaceAll f text).Sublist text :=
  replaceFrom_sublist hf _ _ _ _ _

end

end PlainLink.Regex
