/-
# The leftmost match

A search finds a match if a path leads through the program from some place in the text.
The match it finds is the end of such a path, and no path begins further to the left.
This holds of every pattern, also of those in which a round of a repetition may take
nothing; which of the matches that begin at one place is found is another matter.

That the front stays alive is shown where places are explored.  Here it is shown that
every way, and every match found, comes from a path that begins where it may
(`Front.Yields`), and that of two ways the one that begins further to the left comes
first and is not lost (`scan_older`).

Main statements: `findFrom?_leftmost`, `not_lives_of_findFrom?_eq_none`.
-/
import PlainLink.Proofs.Regex.Exploration
import PlainLink.Proofs.Regex.Span

namespace PlainLink.Regex

/-! ## Where ways come from -/

section

variable {P : Marks → Prop} {p : Spot} {index : Nat} {c : Char} {t : Text} {f : Front}

/-- Whatever the way leads to has marks of the kind `P`. -/
def Way.Yields (P : Marks → Prop) (index : Nat) (t : Text) (w : Way) : Prop :=
  ∀ r ∈ Spot.take w.set ⟨index, none, t, w.marks⟩, ∀ q, Leads w.rest r q → P q.marks

/-- Whatever the front leads to, or has found, has marks of the kind `P`. -/
structure Front.Yields (P : Marks → Prop) (index : Nat) (t : Text) (f : Front) : Prop where
  ways : ∀ w ∈ f.ways, w.Yields P index t
  found : ∀ marks ∈ f.found, P marks

/-- Whatever the row leads to, gone through with the marks, has marks of the kind `P`. -/
def RowYields (P : Marks → Prop) (p : Spot) (row : List Node) (marks : Marks) : Prop :=
  ∀ q, Leads row { p with marks } q → P q.marks

theorem yields_preserved :
    Preserved p (fun _ => True) (RowYields P p) (Front.Yields P p.index p.rest) where
  inside := Node.hereditary_true
  steps _ hrow s hs q hq := hrow q (.pass (r := s.2) hs (Node.at_of_mem_steps hs ▸ hq))
  visit _ _ _ hf := ⟨hf.ways, hf.found⟩
  way := by
    intro id s rest marks f hrow _ hf
    refine ⟨fun w hw => ?_, hf.found⟩
    rcases List.mem_cons.1 hw with rfl | hw
    · exact fun r hr q hq => hrow q (leads_set.2 ⟨r, hr, hq⟩)
    · exact hf.ways w hw
  found := by
    intro marks f hrow _ hf
    refine ⟨hf.ways, fun marks' hm => ?_⟩
    obtain rfl := Option.mem_some_iff.1 hm
    exact hrow _ (.done _)

theorem enterAll_yields (row : List Node) :
    Preserves (RowYields P p) (Front.Yields P p.index p.rest) row (enterAll p.place row) :=
  enterAll_preserves yields_preserved fun _ _ => trivial

theorem advance_yields {ways : List Way} (hways : ∀ w ∈ ways, w.Yields P index (c :: t))
    (hf : f.Yields P (index + 1) t) :
    (advance ⟨index + 1, some c, t.head?⟩ c ways f).Yields P (index + 1) t :=
  advance_preserves (enterAll_yields (p := ⟨index + 1, some c, t, []⟩))
    (fun w hw htest => hways w hw _ (Spot.mem_take.2 ⟨c, t, rfl, htest, rfl⟩)) hf

end

/-! ## What a front keeps -/

/-- The one front has the ways of the other behind its own, and a match that is found stays. -/
structure Front.Extends (f' f : Front) : Prop where
  ways : ∃ new, f'.ways = new ++ f.ways
  found : f.found.isSome → f' = f

section

variable {f f' f'' : Front} {place : Place}

theorem Front.Extends.refl (f : Front) : f.Extends f :=
  ⟨⟨[], rfl⟩, fun _ => rfl⟩

theorem Front.Extends.trans (h : f''.Extends f') (h' : f'.Extends f) : f''.Extends f := by
  obtain ⟨new', hnew'⟩ := h.ways
  obtain ⟨new, hnew⟩ := h'.ways
  refine ⟨⟨new' ++ new, by rw [hnew', hnew, List.append_assoc]⟩, fun hfound => ?_⟩
  obtain rfl := h'.found hfound
  exact h.found hfound

theorem Front.extends_of_open (h : f.found = none) (hways : ∃ new, f'.ways = new ++ f.ways) :
    f'.Extends f :=
  ⟨hways, fun hfound => absurd h (Option.isSome_iff_ne_none.1 hfound)⟩

/-- Nothing is done to a front in which a match was found, and ways are only added. -/
theorem extends_preserved {p : Spot} :
    Preserved p (fun _ => True) (fun _ _ => True) (Front.Extends · f) where
  inside := Node.hereditary_true
  steps _ _ _ _ := trivial
  visit _ _ hopen hf := .trans (Front.extends_of_open hopen ⟨[], rfl⟩) hf
  way _ hopen hf := .trans (Front.extends_of_open hopen ⟨[_], rfl⟩) hf
  found _ hopen hf := .trans (Front.extends_of_open hopen ⟨[], rfl⟩) hf

theorem enterAll_extends (row : List Node) (marks : Marks) (f : Front) :
    (enterAll place row marks f).Extends f := by
  obtain ⟨p, rfl⟩ := place.exists_spot
  exact enterAll_preserves extends_preserved (fun _ _ => trivial) marks f trivial (.refl f)

theorem advance_extends (c : Char) (ways : List Way) (f : Front) :
    (advance place c ways f).Extends f := by
  obtain ⟨p, rfl⟩ := place.exists_spot
  have hall : ∀ ns, Preserves (fun _ _ => True) (Front.Extends · f) ns (enterAll p.place ns) :=
    fun ns => enterAll_preserves extends_preserved fun _ _ => trivial
  exact advance_preserves hall (fun _ _ _ => trivial) (.refl f)

theorem advance_append (c : Char) (older newer : List Way) (f : Front) :
    advance place c (older ++ newer) f = advance place c newer (advance place c older f) := by
  induction older generalizing f with
  | nil => rfl
  | cons w older ih =>
      simp only [List.cons_append, advance]
      split
      · next hfound => exact ((advance_extends c newer f).found hfound).symm
      · split
        · exact ih _
        · exact ih f

end

/-! ## Searches -/

section

variable {P : Marks → Prop} {program : List Node} {index : Nat} {best : Option Marks}
    {ways : List Way}
  {t : Text}

/-- The front that a scan comes to with the next character. -/
def nextFront (program : List Node) (index : Nat) (best : Option Marks)
    (ways : List Way) (c : Char) (rest : Text) : Front :=
  let f := advance ⟨index + 1, some c, rest.head?⟩ c ways Front.start
  if best.isNone then enterAll ⟨index + 1, some c, rest.head?⟩ program [] f else f

theorem scan_cons (c : Char) (rest : Text) :
    scan program index best ways (c :: rest) =
      if best.isSome && ways.isEmpty then best
      else scan program (index + 1) ((nextFront program index best ways c rest).found.or best)
        (nextFront program index best ways c rest).ways.reverse rest := rfl

theorem scan_isSome (hbest : best.isSome) : (scan program index best ways t).isSome := by
  induction t generalizing index best ways with
  | nil => exact hbest
  | cons c rest ih =>
      rw [scan_cons]
      split
      · exact hbest
      · refine ih ?_
        rw [Option.isSome_or, hbest, Bool.or_true]

/-- What begins at a place behind the first one of the text, up to the length `most`, has
marks of the kind `P`. -/
def BeginYields (P : Marks → Prop) (program : List Node) (most index : Nat) (t : Text) : Prop :=
  ∀ c taken r q, taken.length < most → (Spot.mk index none t []).To (c :: taken) r →
    r.marks = [] →
    Leads program r q → P q.marks

theorem BeginYields.here {most : Nat} {c : Char} {rest : Text}
    (h : BeginYields P program (most + 1) index (c :: rest)) {q : Spot}
    (hq : Leads program ⟨index + 1, some c, rest, []⟩ q) : P q.marks :=
  h c [] _ q (Nat.succ_pos _) ⟨rfl, rfl, rfl⟩ rfl hq

theorem BeginYields.later {most : Nat} {c : Char} {rest : Text}
    (h : BeginYields P program (most + 1) index (c :: rest)) :
    BeginYields P program most (index + 1) rest := by
  intro d taken r q hlength hto hmarks hq
  refine h c (d :: taken) r q (Nat.succ_lt_succ hlength) ?_ hmarks hq
  obtain ⟨rest', rfl, hto'⟩ := hto.of_cons
  have hfirst :
      (Spot.mk index none (c :: d :: rest') []).To [c] ⟨index + 1, some c, d :: rest', []⟩ :=
    ⟨rfl, rfl, rfl⟩
  have hsecond : (Spot.mk (index + 1) (some c) (d :: rest') []).To [d]
      ⟨index + 2, some d, rest', []⟩ := ⟨rfl, rfl, rfl⟩
  exact hfirst.trans (hsecond.trans hto')

theorem Front.start_yields : Front.start.Yields P index t :=
  ⟨fun _ hw => absurd hw List.not_mem_nil, fun _ hm => nomatch hm⟩

theorem nextFront_yields (best : Option Marks) {c : Char} {rest : Text}
    (hways : ∀ w ∈ ways, w.Yields P index (c :: rest))
    (hnew : best = none → ∀ q, Leads program ⟨index + 1, some c, rest, []⟩ q → P q.marks) :
    (nextFront program index best ways c rest).Yields P (index + 1) rest := by
  have hadvanced :
      (advance ⟨index + 1, some c, rest.head?⟩ c ways Front.start).Yields P (index + 1) rest :=
    advance_yields hways Front.start_yields
  unfold nextFront
  split
  · next hnone =>
    exact enterAll_yields program (p := ⟨index + 1, some c, rest, []⟩) [] _
      (hnew (Option.isNone_iff_eq_none.1 hnone)) hadvanced
  · exact hadvanced

/-- A scan finds what its ways lead to, or what begins behind it while nothing is found. -/
theorem scan_yields (hbest : ∀ marks ∈ best, P marks) (hways : ∀ w ∈ ways, w.Yields P index t)
    (hnew : best = none → BeginYields P program t.length index t) :
    ∀ marks ∈ scan program index best ways t, P marks := by
  induction t generalizing index best ways with
  | nil => exact hbest
  | cons c rest ih =>
      rw [scan_cons]
      split
      · exact hbest
      · have hnext := nextFront_yields best hways fun hnone q hq => (hnew hnone).here hq
        refine ih (fun marks hm => ?_) (fun w hw => hnext.ways w (List.mem_reverse.1 hw))
          fun hnone => ?_
        · rcases Option.or_eq_some_iff.1 hm with hm | ⟨-, hm⟩
          · exact hnext.found marks hm
          · exact hbest marks hm
        · exact (hnew (Option.or_eq_none_iff.1 hnone).2).later

end

section

variable {P : Marks → Prop} {stack : Nat → List Node} {program : List Node} {index : Nat}
  {best : Option Marks} {t : Text}

/-- Once a match is found, the best one comes from the ways that are left,
or is the one found. -/
theorem scan_of_found {marks : Marks} {ways : List Way} (hmarks : P marks)
    (hways : ∀ w ∈ ways, w.Yields P index t) :
    ∃ marks', scan program index (some marks) ways t = some marks' ∧ P marks' := by
  have hsome : (scan program index (some marks) ways t).isSome := scan_isSome rfl
  obtain ⟨marks', hscan⟩ := Option.isSome_iff_exists.1 hsome
  refine ⟨marks', hscan, scan_yields (fun m hm => ?_) hways (by simp) marks' hscan⟩
  exact Option.mem_some_iff.1 hm ▸ hmarks

section

variable (hprogram : RowNumbered stack program)

include hprogram

theorem nextFront_covers {ways : List Way} (index : Nat) (best : Option Marks)
    (c : Char) (rest : Text) (hways : ∀ w ∈ ways, RowNumbered stack w.rest) :
    (nextFront program index best ways c rest).Explored stack ⟨index + 1, some c, rest, []⟩ [] ∧
      ((∃ w ∈ ways, w.Lives index (c :: rest)) ∨
          best = none ∧ Lives program ⟨index + 1, some c, rest, []⟩ →
        (nextFront program index best ways c rest).Alive (index + 1) rest) := by
  obtain ⟨hadvanced, halive⟩ := advance_covers hways (Front.start_explored
    (p := ⟨index + 1, some c, rest, []⟩))
  unfold nextFront
  split
  · obtain ⟨hentered, halive'⟩ := enterAll_covers hprogram [] (List.Subset.refl _) [] _ hadvanced
    exact ⟨hentered, fun h => halive' (h.imp (fun h => halive (.inr h)) fun h => h.2.off)⟩
  · next hsome =>
    refine ⟨hadvanced, fun h => halive (.inr ?_)⟩
    exact h.resolve_right fun h => hsome (Option.isNone_iff_eq_none.2 h.1)

/-- While one of the older ways is alive, whatever is found comes from the
older ways in the end. -/
theorem scan_older {older newer : List Way}
    (hnumbered : ∀ w ∈ older ++ newer, RowNumbered stack w.rest)
    (hyields : ∀ w ∈ older, w.Yields P index t) (halive : ∃ w ∈ older, w.Lives index t) :
    ∃ marks, scan program index best (older ++ newer) t = some marks ∧ P marks := by
  -- On the text.  The older ways come first at each place: if one of them ends a match there,
  -- all others are dropped, and if none does, one is still alive.
  induction t generalizing index best older newer with
  | nil =>
      obtain ⟨w, -, r, htake, -⟩ := halive
      cases htake
  | cons c rest ih =>
      have hnumbered' := (nextFront_covers hprogram index best c rest hnumbered).1.ways
      have hsplit : ¬ (best.isSome && (older ++ newer).isEmpty) := by
        obtain ⟨w, hw, -⟩ := halive
        cases older with
        | nil => cases hw
        | cons v older => simp
      let first := advance ⟨index + 1, some c, rest.head?⟩ c older Front.start
      have hfirst : first.Yields P (index + 1) rest := advance_yields hyields Front.start_yields
      have halive' : first.Alive (index + 1) rest :=
        (advance_covers (fun w hw => hnumbered w (List.mem_append_left _ hw))
          (Front.start_explored (p := ⟨index + 1, some c, rest, []⟩))).2 (.inr halive)
      have hextends : (nextFront program index best (older ++ newer) c rest).Extends first := by
        unfold nextFront
        rw [advance_append]
        split
        · exact (enterAll_extends program [] _).trans (advance_extends c newer first)
        · exact advance_extends c newer first
      rw [scan_cons, if_neg hsplit]
      cases hfound : first.found with
      | some found =>
          rw [hextends.found (by rw [hfound]; rfl), hfound, Option.some_or]
          exact scan_of_found (hfirst.found found hfound)
            fun w hw => hfirst.ways w (List.mem_reverse.1 hw)
      | none =>
          obtain ⟨new, hnew⟩ := hextends.ways
          have hways : (nextFront program index best (older ++ newer) c rest).ways.reverse =
              first.ways.reverse ++ new.reverse := by
            rw [hnew, List.reverse_append]
          have hlives : ∃ w ∈ first.ways, w.Lives (index + 1) rest :=
            halive'.resolve_left (by simp [hfound])
          rw [hways]
          refine ih (fun w hw => ?_) (fun w hw => hfirst.ways w (List.mem_reverse.1 hw)) ?_
          · rw [← hways] at hw
            exact hnumbered' w (List.mem_reverse.1 hw)
          · obtain ⟨w, hw, hw'⟩ := hlives
            exact ⟨w, List.mem_reverse.2 hw, hw'⟩

theorem scan_alive {f : Front} (hnumbered : ∀ w ∈ f.ways, RowNumbered stack w.rest)
    (hyields : f.Yields P index t) (halive : f.Alive index t) :
    ∃ marks, scan program index f.found f.ways.reverse t = some marks ∧ P marks := by
  have hways : ∀ w ∈ f.ways.reverse, w.Yields P index t :=
    fun w hw => hyields.ways w (List.mem_reverse.1 hw)
  cases hfound : f.found with
  | some found => exact scan_of_found (hyields.found found hfound) hways
  | none =>
      obtain ⟨w, hw, hlives⟩ := halive.resolve_left (by simp [hfound])
      rw [← List.append_nil f.ways.reverse]
      refine scan_older hprogram (fun v hv => ?_) hways ⟨w, List.mem_reverse.2 hw, hlives⟩
      rw [List.append_nil] at hv
      exact hnumbered v (List.mem_reverse.1 hv)

/-- A scan finds something that begins not behind a place from which a path leads on. -/
theorem scan_leftmost {ways : List Way} {before : Option Char} {c : Char}
    {taken : Text} {r : Spot} (hto : (Spot.mk index before t []).To (c :: taken) r)
    (hlives : Lives program r) (hnumbered : ∀ w ∈ ways, RowNumbered stack w.rest)
    (hways : ∀ w ∈ ways, w.Yields P index t)
    (hnew : BeginYields P program (taken.length + 1) index t) :
    ∃ marks, scan program index none ways t = some marks ∧ P marks := by
  induction taken generalizing index before c t ways with
  | nil =>
      obtain ⟨rest, rfl, hto'⟩ := hto.of_cons
      have hnext := nextFront_yields none hways fun _ q hq => hnew.here hq
      obtain ⟨hexplored, halive⟩ := nextFront_covers hprogram index none c rest hnumbered
      have hhere : Lives program ⟨index + 1, some c, rest, []⟩ :=
        hlives.of_alike ⟨hto'.before, hto'.rest.symm⟩
      rw [scan_cons, if_neg (by simp), Option.or_none]
      exact scan_alive hprogram hexplored.ways hnext (halive (.inr ⟨rfl, hhere⟩))
  | cons d taken ih =>
      obtain ⟨rest, rfl, hto'⟩ := hto.of_cons
      have hnext := nextFront_yields none hways fun _ q hq => hnew.here hq
      obtain ⟨hexplored, -⟩ := nextFront_covers hprogram index none c rest hnumbered
      rw [scan_cons, if_neg (by simp), Option.or_none]
      cases hfound : (nextFront program index none ways c rest).found with
      | some found =>
          rw [← hfound]
          exact scan_alive hprogram hexplored.ways hnext (.inl (by simp [hfound]))
      | none =>
          exact ih hto' (fun w hw => hexplored.ways w (List.mem_reverse.1 hw))
            (fun w hw => hnext.ways w (List.mem_reverse.1 hw)) hnew.later

/-- Where a path leads from a place in the text through the program, a search finds the marks
of a path that begins there or further to the left. -/
theorem search_leftmost {p r : Spot} {taken : Text} (hto : p.To taken r)
    (hlives : Lives program r) :
    ∃ taken' r' q, p.To taken' r' ∧ r'.marks = [] ∧ taken'.length ≤ taken.length ∧
      Leads program r' q ∧ search program p.index p.before p.rest = some q.marks := by
  let From (marks : Marks) : Prop := ∃ taken' r' q, p.To taken' r' ∧ r'.marks = [] ∧
    taken'.length ≤ taken.length ∧ Leads program r' q ∧ q.marks = marks
  have hsearch : ∃ marks, search program p.index p.before p.rest = some marks ∧ From marks := by
    let f := enterAll p.place program [] Front.start
    obtain ⟨hexplored, halive⟩ := enterAll_covers hprogram [] (List.Subset.refl _) [] Front.start
      (Front.start_explored (p := p))
    have hyields : f.Yields From p.index p.rest :=
      enterAll_yields program [] Front.start
        (fun q hq => ⟨[], { p with marks := [] }, q, ⟨rfl, rfl, rfl⟩, rfl,
          Nat.zero_le _, hq, rfl⟩)
        Front.start_yields
    cases taken with
    | nil =>
        have hhere : Lives program p := hlives.of_alike ⟨hto.before, hto.rest.symm⟩
        exact scan_alive hprogram hexplored.ways hyields (halive (.inr hhere.off))
    | cons c taken =>
        cases hfound : f.found with
        | some found =>
            exact scan_alive hprogram hexplored.ways hyields
              (.inl (Option.isSome_iff_exists.2 ⟨found, hfound⟩))
        | none =>
            have hto' : (Spot.mk p.index p.before p.rest []).To (c :: taken) r :=
              ⟨hto.rest, hto.index, hto.before⟩
            have hscan : search program p.index p.before p.rest =
                scan program p.index f.found f.ways.reverse p.rest := rfl
            rw [hscan, hfound]
            refine scan_leftmost hprogram hto' hlives
              (fun w hw => hexplored.ways w (List.mem_reverse.1 hw))
              (fun w hw => hyields.ways w (List.mem_reverse.1 hw))
                fun d taken' r' q hlength hr' hm hq => ?_
            have hbefore : r'.before = lastOr p.before (d :: taken') := by
              rw [lastOr_cons, hr'.before, lastOr_cons]
            exact ⟨d :: taken', r', q, ⟨hr'.rest, hr'.index, hbefore⟩, hm, hlength, hq, rfl⟩
  obtain ⟨marks, hsearch, taken', r', q, hr', hm, hlength, hq, rfl⟩ := hsearch
  exact ⟨taken', r', q, hr', hm, hlength, hq, hsearch⟩

end

/-- What a search finds are the marks of a path that begins somewhere in the text. -/
theorem search_sound {p : Spot} {marks : Marks}
    (h : search program p.index p.before p.rest = some marks) :
    ∃ taken r q, p.To taken r ∧ r.marks = [] ∧ Leads program r q ∧ q.marks = marks := by
  let From (marks : Marks) : Prop :=
    ∃ taken r q, p.To taken r ∧ r.marks = [] ∧ Leads program r q ∧ q.marks = marks
  have hyields : (enterAll p.place program [] Front.start).Yields From p.index p.rest :=
    enterAll_yields program [] Front.start
      (fun q hq => ⟨[], { p with marks := [] }, q, ⟨rfl, rfl, rfl⟩, rfl, hq, rfl⟩)
        Front.start_yields
  have hnew : BeginYields From program p.rest.length p.index p.rest := by
    intro c taken r q _ hto hm hq
    have hbefore : r.before = lastOr p.before (c :: taken) := by
      rw [lastOr_cons, hto.before, lastOr_cons]
    exact ⟨c :: taken, r, q, ⟨hto.rest, hto.index, hbefore⟩, hm, hq, rfl⟩
  exact scan_yields hyields.found (fun w hw => hyields.ways w (List.mem_reverse.1 hw))
    (fun _ => hnew)
    marks h

end

/-! ## Matches -/

theorem Node.inner.slotsFrom {n : Node} (h : n.inner) : n.slotsFrom 2 := by
  induction n with
  | skip => trivial
  | set id s => trivial
  | look l => trivial
  | mark slot => exact h
  | seq a b iha ihb => exact ⟨iha h.1, ihb h.2⟩
  | fork id a b iha ihb => exact ⟨iha h.1, ihb h.2⟩
  | loop id greedy body ih => exact ih h

/-- A path through a whole program remembers where it begins and where it ends. -/
theorem Leads.program_marks {r : Regex} {p q : Spot} (h : Leads r.program p q)
    (hp : p.marks = []) :
    ∃ groups : Marks, q.marks = (1, q.index) :: (groups ++ [(0, p.index)]) ∧
      ∀ m ∈ groups, 2 ≤ m.1 := by
  rw [r.program_eq] at h
  obtain ⟨o, ho, hq⟩ := leads_cons.1 (leads_mark.1 h)
  obtain rfl := leads_nil.1 (leads_mark.1 hq)
  have hslots : ∀ n ∈ [(r.expr.compile 0).1], n.slotsFrom 2 :=
    fun n hn => List.mem_singleton.1 hn ▸ (r.expr.compile_inner 0).slotsFrom
  obtain ⟨groups, hmarks, hgroups⟩ := ho.marks hslots
  refine ⟨groups, ?_, hgroups⟩
  simp only [Spot.mark, hp] at hmarks
  simp [Spot.mark, hmarks]

/-- The match is that of a path from `start` to `stop`, in a text that
stands behind `before`. -/
structure Match.From (m : Match) (r : Regex) (before : Option Char) (start stop : Spot) :
    Prop where
  to_start : (Spot.mk m.base before m.text []).To m.before start
  marks_start : start.marks = []
  leads : Leads r.program start stop
  to_stop : start.To m.taken stop
  marks_stop : stop.marks = m.marks
  after : m.after = stop.rest

theorem Match.From.parts {m : Match} {r : Regex} {before : Option Char} {start stop : Spot}
    (h : m.From r before start stop) : m.text = m.before ++ (m.taken ++ m.after) := by
  rw [h.after, ← h.to_stop.rest]
  exact h.to_start.rest

theorem Match.from_of_leads {r : Regex} {base : Nat} {before : Option Char} {text front : Text}
    {start stop : Spot} (hto : (Spot.mk base before text []).To front start)
    (hmarks : start.marks = []) (hleads : Leads r.program start stop) :
    (Match.mk base text stop.marks).before = front ∧
      (Match.mk base text stop.marks).From r before start stop := by
  obtain ⟨taken, hto'⟩ := hleads.to
  obtain ⟨groups, hstop, hgroups⟩ := hleads.program_marks hmarks
  have hnone : groups.find? (·.1 == 0) = none := by
    refine List.find?_eq_none.2 fun m hm => ?_
    have hslot := hgroups m hm
    simp only [beq_iff_eq]
    omega
  have hzero : (Match.mk base text stop.marks).position? 0 = some start.index := by
    simp [position?, hstop, List.find?_append, hnone]
  have hone : (Match.mk base text stop.marks).position? 1 = some stop.index := by
    simp [position?, hstop]
  have htext : text = front ++ (taken ++ stop.rest) := by
    rw [← hto'.rest]
    exact hto.rest
  have hstart : start.index - base = front.length := by
    rw [hto.index]
    exact Nat.add_sub_cancel_left base _
  have hend : stop.index - base = front.length + taken.length := by
    rw [hto'.index, hto.index]
    show base + front.length + taken.length - base = _
    omega
  have hlength : stop.index - start.index = taken.length := by
    rw [hto'.index]
    exact Nat.add_sub_cancel_left _ _
  have hbefore : (Match.mk base text stop.marks).before = front := by
    rw [Match.before, hzero, Option.getD_some, hstart, htext, List.take_left]
  have htaken : (Match.mk base text stop.marks).taken = taken := by
    simp only [Match.taken, group?, Nat.mul_zero, Nat.zero_add, hzero, hone, Option.bind_eq_bind,
      Option.bind_some, hstart, hlength]
    rw [htext, List.drop_left, List.take_left]
    rfl
  have hafter : (Match.mk base text stop.marks).after = stop.rest := by
    rw [Match.after, hone, Option.getD_some, hend, htext, ← List.drop_drop, List.drop_left,
      List.drop_left]
  exact ⟨hbefore, ⟨hbefore.symm ▸ hto, hmarks, hleads, htaken.symm ▸ hto', rfl, hafter⟩⟩

section

variable {r : Regex} {base : Nat} {before : Option Char} {text : Text}

theorem program_numbered (r : Regex) : ∃ stack, RowNumbered stack r.program := by
  obtain ⟨stack, -, hnumbered⟩ := (r.expr.compile_numbers 0).numbered (fun _ => []) [.mark 1]
  exact ⟨stack, by rw [r.program_eq]; exact ⟨trivial, hnumbered, trivial, trivial⟩⟩

/-- A pattern is found at the first place from which a path leads through its program. -/
theorem findFrom?_leftmost {m : Match} (h : r.findFrom? base before text = some m) :
    m.base = base ∧ m.text = text ∧ ∃ start stop, m.From r before start stop ∧
      ∀ front p, (Spot.mk base before text []).To front p → Lives r.program p →
        m.before.length ≤ front.length := by
  obtain ⟨marks, hsearch, rfl⟩ := Option.map_eq_some_iff.1 h
  obtain ⟨front, start, stop, hto, hm, hleads, rfl⟩ :=
    search_sound (p := ⟨base, before, text, []⟩) hsearch
  obtain ⟨hbefore, hfrom⟩ := Match.from_of_leads hto hm hleads
  refine ⟨rfl, rfl, start, stop, hfrom, fun front' p hto' hlives => ?_⟩
  obtain ⟨stack, hnumbered⟩ := program_numbered r
  obtain ⟨front'', start', stop', hto'', hm', hlength, hleads', hsearch'⟩ :=
    search_leftmost hnumbered hto' hlives
  obtain ⟨hbefore', -⟩ := Match.from_of_leads hto'' hm' hleads'
  have hsame : stop.marks = stop'.marks := Option.some.inj (hsearch.symm.trans hsearch')
  rw [hsame, hbefore']
  exact hlength

/-- Where nothing is found, no path leads through the program from anywhere. -/
theorem not_lives_of_findFrom?_eq_none (h : r.findFrom? base before text = none) {front : Text}
    {p : Spot} (hto : (Spot.mk base before text []).To front p) : ¬ Lives r.program p := by
  intro hlives
  obtain ⟨stack, hnumbered⟩ := program_numbered r
  obtain ⟨-, -, stop, -, -, -, -, hsearch⟩ := search_leftmost hnumbered hto hlives
  have hnone : search r.program base before text = none := Option.map_eq_none_iff.1 h
  exact Option.some_ne_none _ (hsearch.symm.trans hnone)

end

end PlainLink.Regex
