/-
# Patterns in a group

A pattern put into a group that remembers nothing means there what it means alone, with
its groups numbered on.  The reader of the longer text keeps below the parts of the
pattern what it has kept before; a step that the pattern makes alone is made on top of
that as well.  When the pattern is read to its end, the closing parenthesis closes the
group around it, unless a comment has taken the parenthesis: then the group is never
closed.

Main statement: `Reader.run_grouped`.
-/
import PlainLink.Proofs.Regex.Classes
import PlainLink.Proofs.Regex.Shifted

namespace PlainLink.Regex

namespace Reader

variable {base r : Reader}

/-! ## Counts -/

variable {more : List Char} (hmore : '\n' ∉ more)

/-- The number that a row of digits is, if there is one. -/
def countOf (digits : Text) : Except Error (Option Nat) :=
  if digits.isEmpty then .ok none
  else if 4294967295 < Text.decimalValue digits then .error .badCount
  else .ok (some (Text.decimalValue digits))

/-- The upper count behind a comma, if there is one. -/
def countBehind (f : Flags) : List Char → Except Error (Option Nat × List Char)
  | '\x7d' :: rest => .ok (none, '\x7d' :: rest)
  | rest => count f rest >>= fun x => if x.1.isNone then .error .badCount else .ok x

/-- The upper count; without a comma it is the lower count. -/
def upperCount (f : Flags) (least : Nat) : List Char → Except Error (Option Nat × List Char)
  | ',' :: rest => countBehind f (f.skip rest)
  | rest => .ok (some least, rest)

/-- The counts, at their closing brace. -/
def closeCounts (f : Flags) (least : Nat) (most : Option Nat) :
    List Char → Except Error ((Nat × Option Nat) × List Char)
  | '\x7d' :: rest =>
    if most.any (· < least) then .error .badCount else .ok ((least, most), f.skip rest)
  | _ => .error .badCount

def counts (f : Flags) (t : List Char) : Except Error ((Nat × Option Nat) × List Char) :=
  count f (f.skip t) >>= fun x => match x.1 with
    | none => .error .badCount
    | some least => upperCount f least x.2 >>= fun y => closeCounts f least y.1 y.2

theorem exists_current_of_repeatLast {least : Nat} {most : Option Nat} {t : List Char}
    {x : Reader × List Char} (h : r.repeatLast least most t = .ok x) :
    ∃ e depth before, r.pieces.current = .expr e depth :: before := by
  unfold repeatLast at h
  split at h
  · next hcurrent => exact ⟨_, _, _, hcurrent⟩
  · cases h

theorem exists_current_of_repeatCounted {t : List Char} {x : Reader × List Char}
    (h : r.repeatCounted t = .ok x) :
    ∃ e depth before, r.pieces.current = .expr e depth :: before := by
  unfold repeatCounted at h
  split at h
  · next hcurrent => exact ⟨_, _, _, hcurrent⟩
  · cases h

theorem repeatCounted_eq {e : Expr} {depth : Nat} {before : List Part}
    (hcurrent : r.pieces.current = .expr e depth :: before) (t : List Char) :
    r.repeatCounted t = counts r.flags t >>= fun x => r.repeatLast x.1.1 x.1.2 x.2 := by
  have hclose : ∀ (least : Nat) (most : Option Nat) (rest : List Char), (match rest with
      | '\x7d' :: rest =>
        if most.any (· < least) then .error .badCount
        else r.repeatLast least most (r.flags.skip rest)
      | _ => .error .badCount) =
      closeCounts r.flags least most rest >>= fun x => r.repeatLast x.1.1 x.1.2 x.2 := by
    intro least most rest
    unfold closeCounts
    split
    · split <;> rfl
    · rfl
  unfold repeatCounted counts
  rw [hcurrent, bind_assoc]
  refine bind_congr fun x => ?_
  obtain ⟨least, rest⟩ := x
  cases least with
  | none => rfl
  | some least =>
      dsimp only
      rw [bind_assoc]
      split
      · next after =>
        split
        · next rest hskip =>
          simp only [upperCount, countBehind, hskip]
          exact hclose least none ('\x7d' :: rest)
        · next hskip =>
          have hupper :
              upperCount r.flags least (',' :: after) = count r.flags (r.flags.skip after) >>=
              fun x => if x.1.isNone then .error .badCount else .ok x := by
            simp only [upperCount, countBehind]
          rw [hupper, bind_assoc]
          refine bind_congr fun x => ?_
          obtain ⟨most, rest⟩ := x
          cases most with
          | none => rfl
          | some most => exact hclose least (some most) rest
      · next hcomma =>
        simp only [upperCount]
        exact hclose least (some least) _

/-- A digit, or a blank between digits where blanks mean nothing. -/
def isCountChar (f : Flags) (c : Char) : Bool :=
  c.isDigit || (f.spaced && Text.isBlank c)

theorem count_eq (f : Flags) (t : List Char) :
    count f t =
      let row := t.dropWhile Text.isBlank
      countOf ((row.takeWhile (isCountChar f)).filter Char.isDigit) >>= fun n =>
        .ok (n, f.skip ((row.dropWhile (isCountChar f)).dropWhile Text.isBlank)) := by
  have hchars : (fun c => c.isDigit || (f.spaced && Text.isBlank c)) = isCountChar f := rfl
  unfold count countOf
  dsimp only
  rw [Text.drop_length_takeWhile, hchars]
  split
  · rfl
  · split <;> rfl

/-- The characters of a count are the same where the text goes on, since the
parenthesis is none of them. -/
theorem count_goesOn {f : Flags} {t t' : List Char} (hgoes : GoesOn more t t') :
    (t'.dropWhile Text.isBlank).takeWhile (isCountChar f) =
        (t.dropWhile Text.isBlank).takeWhile (isCountChar f) ∧
      GoesOn more (((t.dropWhile Text.isBlank).dropWhile (isCountChar f)).dropWhile Text.isBlank)
        (((t'.dropWhile Text.isBlank).dropWhile (isCountChar f)).dropWhile Text.isBlank) := by
  have hblank : ¬ Text.isBlank ')' := by decide
  obtain ⟨-, hstart⟩ := hgoes.span hblank
  obtain ⟨hrow, hbehind⟩ := hstart.span (p := isCountChar f) (by simp [isCountChar, hblank])
  exact ⟨hrow, (hbehind.span hblank).2⟩

include hmore

theorem local_count (f : Flags) : Local more (count f) := by
  refine ⟨fun {t t' x rest} hgoes h => ?_⟩
  obtain ⟨hrow, hend⟩ := count_goesOn (f := f) hgoes
  rw [count_eq] at h ⊢
  dsimp only at h ⊢
  rw [hrow]
  obtain ⟨n, hn, h⟩ := exists_of_bind_eq_ok h
  cases h
  refine ⟨?_, _, ?_, skip_goesOn hmore f hend⟩
  · exact (skip_suffix f _).trans
      ((List.dropWhile_suffix _).trans ((List.dropWhile_suffix _).trans
      (List.dropWhile_suffix _)))
  · rw [hn]
    rfl

theorem local_countBehind (f : Flags) : Local more (countBehind f) := by
  have hcount : Local more fun t =>
      count f t >>= fun x => if x.1.isNone then .error .badCount else .ok x := by
    refine .bind (local_count hmore f) fun most => ?_
    cases most with
    | none => exact Local.refuse _
    | some most => exact Local.answer _
  refine .peek '\x7d' (by decide) (Local.answer none) hcount (fun t ht => ?_) fun t ht => ?_
  · obtain ⟨rest, rfl⟩ := List.head?_eq_some_iff.1 ht
    rfl
  · unfold countBehind
    split
    · exact absurd rfl ht
    · rfl

theorem local_upperCount (f : Flags) (least : Nat) : Local more (upperCount f least) := by
  refine .lead ',' (by decide) (.skip hmore f (local_countBehind hmore f))
    (Local.answer (some least)) (fun _ => rfl) fun t ht => ?_
  unfold upperCount
  split
  · exact absurd rfl ht
  · rfl

theorem local_closeCounts (f : Flags) (least : Nat) (most : Option Nat) :
    Local more (closeCounts f least most) := by
  have hclose : Local more fun t =>
      if most.any (· < least) then .error .badCount else .ok ((least, most), f.skip t) := by
    split
    · exact Local.refuse _
    · exact .skip hmore f (Local.answer (least, most))
  refine .lead '\x7d' (by decide) hclose (Local.refuse .badCount) (fun _ => rfl) fun t ht => ?_
  unfold closeCounts
  split
  · exact absurd rfl ht
  · rfl

theorem local_counts (f : Flags) : Local more (counts f) := by
  refine .bind (.skip hmore f (local_count hmore f)) fun least => ?_
  cases least with
  | none => exact Local.refuse _
  | some least => exact .bind (local_upperCount hmore f least) fun most =>
      local_closeCounts hmore f least most

/-! ## Steps -/

/-- What is read of a text alone is read of the longer text on top of `base`. -/
structure Lifts (base : Reader) (more t : List Char)
    (read read' : Except Error (Reader × List Char)) :
    Prop where
  reads : ∀ {r : Reader} {rest : List Char}, read = .ok (r, rest) →
    rest <:+ t ∧ ∃ rest', read' = .ok (within base r, rest') ∧ GoesOn more rest rest'

variable {t t' : List Char} (hgoes : GoesOn more t t')

omit hmore

theorem lifts_ok (r : Reader) (hgoes : GoesOn more t t') :
    Lifts base more t (.ok (r, t)) (.ok (within base r, t')) := by
  refine ⟨fun {r' rest} h => ?_⟩
  cases h
  exact ⟨List.suffix_refl _, t', rfl, hgoes⟩

theorem Lifts.of_suffix {s : List Char} {read read' : Except Error (Reader × List Char)}
    (h : Lifts base more s read read') (hs : s <:+ t) : Lifts base more t read read' := by
  refine ⟨fun {r rest} hread => ?_⟩
  obtain ⟨hrest, hreads⟩ := h.reads hread
  exact ⟨hrest.trans hs, hreads⟩

theorem lifts_bind {α : Type} {f : List Char → Except Error (α × List Char)} (hf : Local more f)
    (hgoes : GoesOn more t t') {read read' : α × List Char → Except Error (Reader × List Char)}
    (hread : ∀ x s s', GoesOn more s s' → Lifts base more s (read (x, s)) (read' (x, s'))) :
    Lifts base more t (f t >>= read) (f t' >>= read') := by
  refine ⟨fun {r rest} h => ?_⟩
  obtain ⟨⟨x, s⟩, hx, h⟩ := exists_of_bind_eq_ok h
  obtain ⟨hs, s', hx', hgoes'⟩ := hf.reads hgoes hx
  obtain ⟨hrest, hreads⟩ := (hread x s s' hgoes').reads h
  refine ⟨hrest.trans hs, ?_⟩
  rw [hx']
  exact hreads

theorem leadSign_question (t : List Char) :
    leadSign '?' t = match t with
      | '?' :: rest => (true, rest)
      | _ => (false, t) := by
  split
  · exact leadSign_self '?' _
  · next hsign => exact leadSign_of_ne hsign

theorem repeatLast_eq {e : Expr} {depth : Nat} {before : List Part}
    (hcurrent : r.pieces.current = .expr e depth :: before) (least : Nat) (most : Option Nat)
    (t : List Char) :
    r.repeatLast least most t = .ok ({ r with
      pieces := { r.pieces with
        current := .expr (Expr.repeated least most ((leadSign '?' t).1 == r.flags.swapGreed) e)
          (depth + 1) :: before } }, (leadSign '?' t).2) := by
  unfold repeatLast
  rewrite [hcurrent, leadSign_question]
  rfl

theorem lifts_repeatLast (least : Nat) (most : Option Nat) (hgoes : GoesOn more t t') :
    Lifts base more t (r.repeatLast least most t)
      ((within base r).repeatLast least most t') := by
  refine ⟨fun {r' rest} h => ?_⟩
  obtain ⟨e, depth, before, hcurrent⟩ := exists_current_of_repeatLast h
  obtain ⟨hsuffix, rest', hsign, hrest⟩ := leadSign_goesOn '?' (by decide) hgoes
  rw [repeatLast_eq hcurrent] at h
  cases h
  rw [repeatLast_eq (within_current hcurrent), hsign]
  refine ⟨hsuffix, rest', ?_, hrest⟩
  simp [within, Pieces.shift, Part.shift_expr, Expr.shift_repeated]

theorem lifts_repeatCounted (hmore : '\n' ∉ more) (hgoes : GoesOn more t t') :
    Lifts base more t (r.repeatCounted t) ((within base r).repeatCounted t') := by
  refine ⟨fun {r' rest} h => ?_⟩
  obtain ⟨e, depth, before, hcurrent⟩ := exists_current_of_repeatCounted h
  rw [repeatCounted_eq hcurrent] at h
  rw [repeatCounted_eq (within_current hcurrent), within_flags]
  have hlifts : Lifts base more t (counts r.flags t >>= fun x => r.repeatLast x.1.1 x.1.2 x.2)
      (counts r.flags t' >>= fun x => (within base r).repeatLast x.1.1 x.1.2 x.2) :=
    lifts_bind (local_counts hmore r.flags) hgoes fun x s s' hgoes =>
      lifts_repeatLast x.1 x.2 hgoes
  exact hlifts.reads h

/-- The reader behind the name of a group, if the name is one and is new. -/
def openNew (r : Reader) : (name : List Char) → Except Error Reader
  | [] => .error .badGroupName
  | c :: cs =>
    if !isNameChar true c || !cs.all (isNameChar false) then .error .badGroupName
    else if r.names.contains (c :: cs) then .error .groupNamedTwice
    else .ok { r.openNumbered with names := (c :: cs) :: r.names }

theorem openNamed_eq (r : Reader) (t : List Char) :
    r.openNamed t = match Text.splitFirst? '>' t with
      | none => .error .badGroupName
      | some (name, rest) => r.openNew name >>= fun r' => .ok (r', rest) := by
  unfold openNamed
  rcases Text.splitFirst? '>' t with _ | ⟨_ | ⟨c, cs⟩, rest⟩
  · rfl
  · rfl
  · dsimp only
    rw [openNew]
    split
    · rfl
    · split <;> rfl

theorem within_openNew (hnames : base.names = []) (name : List Char) :
    (within base r).openNew name = r.openNew name >>= fun r' => .ok (within base r') := by
  have hsame : (within base r).names = r.names := by simp [within, hnames]
  cases name with
  | nil => rfl
  | cons c cs =>
      simp only [openNew, hsame, within_openNumbered]
      split
      · rfl
      · split
        · rfl
        · simp [within, hnames, bind, Except.bind]

theorem lifts_openNamed (hnames : base.names = []) (hgoes : GoesOn more t t') :
    Lifts base more t (r.openNamed t) ((within base r).openNamed t') := by
  refine ⟨fun {r' rest} h => ?_⟩
  rw [openNamed_eq] at h
  cases hsplit : Text.splitFirst? '>' t with
  | none =>
      rw [hsplit] at h
      cases h
  | some cut =>
      obtain ⟨hsuffix, after', hsplit', hafter⟩ := hgoes.splitFirst hsplit
      rw [hsplit] at h
      obtain ⟨r', hopen, h⟩ := exists_of_bind_eq_ok h
      cases h
      rw [openNamed_eq, hsplit']
      dsimp only
      rw [within_openNew hnames, hopen]
      exact ⟨hsuffix, after', rfl, hafter⟩

/-- What a character does in a row of flags: it ends the row, or it says how flags
are set from there on. -/
def flagStep (f : Flags) (value : Bool) (seen : List Char) (c : Char) :
    Except Error (Option (Flags × Bool)) :=
  if c = ':' || c = ')' then
    if seen.head? = some '-' then .error .badFlags
    else if c = ')' && seen.isEmpty then .error .badFlags
    else .ok none
  else if seen.contains c then .error .badFlags
  else if c = '-' then .ok (some (f, false))
  else match f.set? value c with
    | none => .error .badFlags
    | some f => .ok (some (f, value))

theorem flagRow_cons (f : Flags) (value : Bool) (seen : List Char) (c : Char) (t : List Char) :
    flagRow f value seen (c :: t) = flagStep f value seen c >>= fun
      | none => .ok (f, c, t)
      | some next => flagRow next.1 next.2 (c :: seen) t := by
  rw [flagRow]
  unfold flagStep
  split
  · split
    · rfl
    · split <;> rfl
  · split
    · rfl
    · split
      · rfl
      · cases f.set? value c <;> rfl

theorem flagRow_goesOn {f f' : Flags} {value : Bool} {seen rest : List Char} {sign : Char}
    (hgoes : GoesOn more t t') (h : flagRow f value seen t = .ok (f', sign, rest)) :
    rest <:+ t ∧ ∃ rest', flagRow f value seen t' = .ok (f', sign, rest') ∧
      GoesOn more rest rest' := by
  induction t generalizing t' f value seen with
  | nil => cases h
  | cons c t ih =>
      obtain ⟨u, rfl, hu⟩ := hgoes.cons
      rw [flagRow_cons] at h ⊢
      obtain ⟨step, hstep, h⟩ := exists_of_bind_eq_ok h
      rw [hstep]
      cases step with
      | none =>
          cases h
          exact ⟨List.suffix_cons _ _, u, rfl, hu⟩
      | some next =>
          obtain ⟨hsuffix, hreads⟩ := ih hu h
          exact ⟨hsuffix.trans (List.suffix_cons c t), hreads⟩

/-- What a row of flags does: it opens a group, or holds for what is behind it. -/
def afterFlags (r : Reader) (row : Flags × Char × List Char) :
    Except Error (Reader × List Char) :=
  if row.2.1 = ':' then .ok (r.openGroup none row.1, row.2.2)
  else .ok ({ r with
    flags := row.1
    pieces := { r.pieces with current := .flags :: r.pieces.current } }, row.2.2)

/-- What stands behind an opening parenthesis. -/
inductive Head
  | look
  | named
  | flags

def heads : List (Head × List Char) :=
  [(.look, ['?', '=']), (.look, ['?', '!']), (.look, ['?', '<', '=']), (.look, ['?', '<', '!']),
    (.named, ['?', 'P', '<']), (.named, ['?', '<']), (.flags, ['?'])]

theorem head_eq (r : Reader) (t : List Char) :
    r.head t = match front? heads (r.flags.skip t) with
      | some (.look, _) => .error .lookAround
      | some (.named, rest) => r.openNamed rest
      | some (.flags, rest) => flagRow r.flags true [] rest >>= afterFlags r
      | none => .ok (r.openNumbered, r.flags.skip t) := by
  unfold head
  generalize r.flags.skip t = u
  dsimp only
  split
  · rfl
  · rfl
  · rfl
  · rfl
  · rfl
  · next v hahead hbehind =>
    have hahead' : Text.after? ['='] v = none := after?_eq_none hahead
    have hbehind' : Text.after? ['!'] v = none := after?_eq_none hbehind
    simp only [front?, heads, List.findSome?_cons, after?_cons_self, hahead', hbehind']
    rfl
  · next v hequals hbang hequals' hbang' hpython hnamed =>
    have hequals : Text.after? ['='] v = none := after?_eq_none hequals
    have hbang : Text.after? ['!'] v = none := after?_eq_none hbang
    have hequals' : Text.after? ['<', '='] v = none := after?_eq_none hequals'
    have hbang' : Text.after? ['<', '!'] v = none := after?_eq_none hbang'
    have hpython : Text.after? ['P', '<'] v = none := after?_eq_none hpython
    have hnamed : Text.after? ['<'] v = none := after?_eq_none hnamed
    simp only [front?, heads, List.findSome?_cons, after?_cons_self, hequals, hbang, hequals',
      hbang', hpython, hnamed]
    rfl
  · next hquestion =>
    have hother : ∀ front, Text.after? ('?' :: front) u = none := fun front =>
      after?_eq_none fun rest h => hquestion _ h
    simp only [front?, heads, List.findSome?_cons, hother]
    rfl

theorem lifts_flagRow (base r : Reader) (hgoes : GoesOn more t t') :
    Lifts base more t (flagRow r.flags true [] t >>= afterFlags r)
      (flagRow r.flags true [] t' >>= afterFlags (within base r)) := by
  refine ⟨fun {r' rest} h => ?_⟩
  obtain ⟨⟨f, sign, rest⟩, hrow, h⟩ := exists_of_bind_eq_ok h
  obtain ⟨hsuffix, rest', hrow', hrest⟩ := flagRow_goesOn hgoes hrow
  rw [hrow']
  dsimp only [bind, Except.bind, afterFlags] at h ⊢
  split at h
  · next hsign =>
    cases h
    rw [if_pos hsign, within_openGroup]
    exact ⟨hsuffix, rest', rfl, hrest⟩
  · next hsign =>
    cases h
    rw [if_neg hsign]
    exact ⟨hsuffix, rest', rfl, hrest⟩

theorem lifts_head (hmore : '\n' ∉ more) (hnames : base.names = []) (hgoes : GoesOn more t t') :
    Lifts base more t (r.head t) ((within base r).head t') := by
  have hskip := skip_goesOn hmore r.flags hgoes
  refine .of_suffix ?_ (skip_suffix r.flags t)
  rw [head_eq, head_eq, within_flags]
  rcases hskip.front? heads (by decide) with
    ⟨hnone, hnone'⟩ | ⟨head, rest, rest', hfront, hfront', hsuffix, hrest⟩
  · rw [hnone, hnone']
    dsimp only
    rw [within_openNumbered]
    exact lifts_ok _ hskip
  · rw [hfront, hfront']
    cases head with
    | look => exact ⟨fun h => by cases h⟩
    | named => exact (lifts_openNamed hnames hrest).of_suffix hsuffix
    | flags => exact (lifts_flagRow base r hrest).of_suffix hsuffix

theorem lifts_step (hmore : '\n' ∉ more) (hnames : base.names = [])
    (hgoes : GoesOn more t t') (c : Char) :
    Lifts base more t (r.step c t) ((within base r).step c t') := by
  unfold step
  split
  · exact lifts_head hmore hnames hgoes
  · refine ⟨fun {r' rest} h => ?_⟩
    obtain ⟨r', hclose, h⟩ := exists_of_bind_eq_ok h
    cases h
    rw [within_closeGroup hclose]
    exact ⟨List.suffix_refl _, t', rfl, hgoes⟩
  · rw [within_nextAlternative]
    exact lifts_ok _ hgoes
  · refine lifts_bind (local_bracket hmore r.flags depthLimit) hgoes fun s rest rest' hgoes => ?_
    dsimp only
    rw [within_add base r rfl]
    exact lifts_ok _ hgoes
  · exact lifts_repeatLast _ _ hgoes
  · exact lifts_repeatLast _ _ hgoes
  · exact lifts_repeatLast _ _ hgoes
  · exact lifts_repeatCounted hmore hgoes
  · refine lifts_bind (local_escape hmore r.flags) hgoes fun a rest rest' hgoes =>
      ⟨fun {r' rest} h => ?_⟩
    obtain ⟨r', hadd, h⟩ := exists_of_bind_eq_ok h
    cases h
    dsimp only
    rw [within_addAtom hadd]
    exact ⟨List.suffix_refl _, rest', rfl, hgoes⟩
  · refine ⟨fun {r' rest} h => ?_⟩
    obtain ⟨s, hdot, h⟩ := exists_of_bind_eq_ok h
    cases h
    rw [within_flags, hdot]
    refine ⟨List.suffix_refl _, t', ?_, hgoes⟩
    rw [← within_add base r rfl]
    rfl
  · rw [within_flags, within_add base r rfl]
    exact lifts_ok _ hgoes
  · rw [within_flags, within_add base r rfl]
    exact lifts_ok _ hgoes
  · rw [within_addChar]
    exact lifts_ok _ hgoes

/-! ## Runs -/

theorem skip_close (f : Flags) (t : List Char) : f.skip (')' :: t) = ')' :: t :=
  skip_cons f (by decide) (by decide) t

/-- A run of the pattern alone is one on top of `base`.  It comes to the closing parenthesis,
unless a comment takes the rest. -/
theorem run_within (hmore : '\n' ∉ more) (hnames : base.names = []) {r r' : Reader}
    {steps steps' : Nat} (hsteps : t.length < steps) (hsteps' : t'.length < steps')
    (hgoes : GoesOn more t t') (h : run steps r t = .ok r') :
    run steps' (within base r) t' = .ok (within base r') ∨
      ∃ left, more.length + 1 < left ∧
        run steps' (within base r) t' = run left (within base r') (')' :: more) := by
  -- On the steps made alone.  When they are over, what is left of the longer text is the
  -- parenthesis with what follows it, or nothing, if a comment has taken that.
  induction steps generalizing steps' r t t' with
  | zero => exact absurd hsteps (Nat.not_lt_zero _)
  | succ steps ih =>
      obtain ⟨steps', rfl⟩ := Nat.exists_eq_add_one_of_ne_zero (Nat.ne_zero_of_lt hsteps')
      have hskip := skip_goesOn hmore r.flags hgoes
      have hsuffix := (skip_suffix r.flags t).length_le
      have hsuffix' := (skip_suffix r.flags t').length_le
      have hrun : ∀ c u, r.flags.skip t' = c :: u → run (steps' + 1) (within base r) t' =
          (within base r).step c u >>= fun x => run steps' x.1 x.2 := by
        intro c u hu
        rw [run, within_flags, hu]
      unfold run at h
      cases hcase : r.flags.skip t with
      | nil =>
          rw [hcase] at h hskip
          cases h
          rcases hskip.nil with hclose | hnil
          · right
            refine ⟨steps' + 1, ?_, ?_⟩
            · rw [hclose, List.length_cons] at hsuffix'
              omega
            · rw [hrun _ _ hclose, run, within_flags, skip_close]
          · left
            rw [run, within_flags, hnil]
      | cons c u =>
          rw [hcase] at h hskip hsuffix
          obtain ⟨u', hu', hgoes'⟩ := hskip.cons
          rw [hu'] at hsuffix' hskip
          have hlonger : u'.length = u.length + (more.length + 1) := by
            rcases hskip with hcons | ⟨hnil, -⟩
            · have hlength := congrArg List.length hcons
              simp only [List.length_cons, List.length_append] at hlength
              omega
            · cases hnil
          rw [List.length_cons] at hsuffix hsuffix'
          obtain ⟨⟨r₁, rest⟩, hstep, h⟩ := exists_of_bind_eq_ok h
          obtain ⟨hrest, rest', hstep', hgoes''⟩ :=
            (lifts_step hmore hnames hgoes' c).reads hstep
          have hlength := hrest.length_le
          have hlength' : rest'.length < steps' := by
            rcases hgoes'' with rfl | ⟨-, rfl⟩
            · rw [List.length_append, List.length_cons]
              omega
            · rw [List.length_nil]
              omega
          rw [hrun c u' hu', hstep']
          exact ih (by omega) hlength' hgoes'' h

/-- A text is a pattern if it is read to its end with all groups closed, to an
expression within the limits. -/
theorem parse_eq_ok_iff {source : Text} {e : Expr} :
    Expr.parse source = .ok e ↔ ∃ r, run (source.length + 1) {} source = .ok r ∧ r.outer = [] ∧
      r.pieces.whole.depth ≤ depthLimit ∧ r.pieces.whole.toExpr.size ≤ Expr.sizeLimit ∧
      r.pieces.whole.toExpr = e := by
  constructor
  · intro h
    obtain ⟨r, hrun, h⟩ := exists_of_bind_eq_ok h
    refine ⟨r, hrun, ?_⟩
    dsimp only at h
    split at h
    · cases h
    · next houter =>
      split at h
      · cases h
      · next hdepth =>
        split at h
        · cases h
        · next hsize =>
          exact ⟨by simpa using houter, Nat.not_lt.1 hdepth, Nat.not_lt.1 hsize, Except.ok.inj h⟩
  · rintro ⟨r, hrun, houter, hdepth, hsize, rfl⟩
    unfold Expr.parse
    simp only [hrun, houter, bind, Except.bind]
    rw [if_neg (by simp), if_neg (Nat.not_lt.2 hdepth), if_neg (Nat.not_lt.2 hsize)]
    rfl

theorem parse_eq_ok {source : Text} {e : Expr} (h : Expr.parse source = .ok e) :
    ∃ r, run (source.length + 1) {} source = .ok r ∧ r.outer = [] ∧
      e = r.pieces.whole.toExpr := by
  obtain ⟨r, hrun, houter, -, -, hexpr⟩ := parse_eq_ok_iff.1 h
  exact ⟨r, hrun, houter, hexpr.symm⟩

/-- To open a group is to begin with nothing on top of what was kept before. -/
theorem within_start {before : Reader} (hflags : before.flags = {})
    (hnames : before.names = []) :
    within before {} = before.openGroup none {} := by
  simp [within, openGroup, hnames, Pieces.shift, hflags]

/-- A pattern that can be read alone is read in a group as it is alone: the group holds its
expression, and the reader goes on with what follows the group. -/
theorem run_grouped (before : Reader) {source more : Text} {r whole : Reader} {steps : Nat}
    (hrun : run (source.length + 1) {} source = .ok r) (houter : r.outer = [])
    (hmore : '\n' ∉ more) (hflags : before.flags = {}) (hnames : before.names = [])
    (hsteps : source.length + more.length + 1 < steps)
    (h : run steps (before.openGroup none {}) (source ++ ')' :: more) = .ok whole)
    (hclosed : whole.outer = []) :
    ∃ left groups names, more.length < left ∧
      run left { before with
        pieces := { before.pieces with
          current := .expr (r.pieces.whole.toExpr.shift before.groups)
            (r.pieces.whole.depth + 1) ::
            before.pieces.current }
        groups, names } more = .ok whole := by
  have hlength : (source ++ ')' :: more).length < steps := by
    rw [List.length_append, List.length_cons]
    omega
  rw [← within_start hflags hnames] at h
  rcases run_within hmore hnames (Nat.lt_succ_self _) hlength (.append more source) hrun with
    hswallowed | ⟨left, hleft, hreads⟩
  · rw [hswallowed] at h
    cases h
    simp [within] at hclosed
  · obtain ⟨left, rfl⟩ := Nat.exists_eq_add_one_of_ne_zero (Nat.ne_zero_of_lt hleft)
    rw [hreads, run, skip_close] at h
    obtain ⟨⟨r₁, rest⟩, hstep, h⟩ := exists_of_bind_eq_ok h
    obtain ⟨r₂, hclose, hpair⟩ := exists_of_bind_eq_ok hstep
    cases hpair
    have hgroup : (within before r).closeGroup = .ok { before with
        pieces := { before.pieces with
          current := .expr (r.pieces.whole.toExpr.shift before.groups)
            (r.pieces.whole.depth + 1) ::
            before.pieces.current }
        groups := r.groups + before.groups
        names := r.names ++ before.names } := by
      simp only [within, closeGroup, houter, List.map_nil, List.nil_append, Pieces.whole_shift,
        Part.toExpr_shift, Part.depth_shift]
    rw [hgroup] at hclose
    cases hclose
    exact ⟨left, _, _, by omega, h⟩

end Reader

end PlainLink.Regex
