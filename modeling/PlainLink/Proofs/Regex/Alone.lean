/-
# Reading without what follows

What a reader reads of a text that goes on behind the closing parenthesis of its group,
it reads of the text alone as well, as long as nothing behind the parenthesis ends what
the text leaves open.  There are two exceptions.  A backslash at the end of the text
takes the parenthesis; and a brace at the end, behind a word boundary, is left alone if
a parenthesis stands there, but is an error if nothing does.  In a class the parenthesis
may be taken for an item, or for the end of a range; but then the class is never closed.

Main statement: `alone_bracket`.
-/
import PlainLink.Proofs.Regex.Sealed

namespace PlainLink.Regex

/-- What may stand behind a group: it ends nothing that is left open in the group. -/
structure Harmless (more : Text) : Prop where
  closesNothing : Sealed more
  no_brace : '\x7d' ∉ more
  no_angle : '>' ∉ more

theorem Harmless.no_newline {more : Text} (h : Harmless more) : '\n' ∉ more :=
  h.closesNothing.straight.not_mem_newline

variable {more : List Char}

/-- What the reader reads of a text that goes on, it reads of the text alone. -/
structure Alone (more : List Char) {α : Type} (f : List Char → Except Error (α × List Char)) :
    Prop where
  reads : ∀ {t t' : List Char} {y : α × List Char}, GoesOn more t t' → f t' = .ok y →
    ∃ x, f t = .ok x

variable {α β : Type}

theorem Alone.total {f : List Char → Except Error (α × List Char)} (hf : ∀ t, ∃ x, f t = .ok x) :
    Alone more f :=
  ⟨fun _ _ => hf _⟩

theorem Alone.refuse (e : Error) : Alone more fun _ =>
    (.error e : Except Error (α × List Char)) :=
  ⟨fun _ h => by cases h⟩

theorem Alone.check (answer : Except Error α) (k : α → β) :
    Alone more fun t => (answer >>= fun x => Except.ok (k x, t)) := by
  refine ⟨fun {t t' y} hgoes h => ?_⟩
  obtain ⟨x, rfl, -⟩ := exists_of_bind_eq_ok h
  exact ⟨_, rfl⟩

theorem Local.agrees {f : List Char → Except Error (α × List Char)} (hlocal : Local more f)
    {t t' rest' : List Char} {x : α} (hgoes : GoesOn more t t') (hown : ∃ y, f t = .ok y)
    (h : f t' = .ok (x, rest')) : ∃ rest, f t = .ok (x, rest) ∧ rest <:+ t ∧
      GoesOn more rest rest' := by
  obtain ⟨⟨y, rest⟩, hown⟩ := hown
  obtain ⟨hsuffix, _, hsame, hrest⟩ := hlocal.reads hgoes hown
  obtain ⟨rfl, rfl⟩ := Prod.mk.inj (Except.ok.inj (h.symm.trans hsame))
  exact ⟨rest, hown, hsuffix, hrest⟩

theorem Alone.bind {f : List Char → Except Error (α × List Char)}
    {g : α × List Char → Except Error (β × List Char)} (hlocal : Local more f)
    (hf : Alone more f) (hg : ∀ x, Alone more fun t => g (x, t)) : Alone more fun t =>
      f t >>= g := by
  refine ⟨fun {t t' y} hgoes h => ?_⟩
  obtain ⟨⟨x, rest'⟩, hread', h⟩ := exists_of_bind_eq_ok h
  obtain ⟨rest, hread, -, hrest⟩ := hlocal.agrees hgoes (hf.reads hgoes hread') hread'
  obtain ⟨z, hz⟩ := (hg x).reads hrest h
  exact ⟨z, by rw [hread]; exact hz⟩

/-- A reader that needs a character to begin with, and not a closing parenthesis. -/
theorem Alone.first {f : List Char → Except Error (α × List Char)} {e e' : Error}
    (hnil : f [] = .error e) (hclose : f (')' :: more) = .error e')
    (hcons : ∀ c, Alone more fun rest => f (c :: rest)) :
    Alone more f := by
  refine ⟨fun {t t' y} hgoes h => ?_⟩
  cases t with
  | nil =>
      rcases hgoes.nil with rfl | rfl
      · rw [hclose] at h
        cases h
      · rw [hnil] at h
        cases h
  | cons c t =>
      obtain ⟨u, rfl, hinner⟩ := hgoes.cons
      exact (hcons c).reads hinner h

/-- A reader that has one way for texts with a certain sign in front, and
another for all others. -/
theorem Alone.peek {f there other : List Char → Except Error (α × List Char)} (sign : Char)
    (hsign : sign ≠ ')') (hthere : Alone more there) (hother : Alone more other)
    (hlead : ∀ t, t.head? = some sign → f t = there t)
    (helse : ∀ t, t.head? ≠ some sign → f t = other t) : Alone more f := by
  refine ⟨fun {t t' y} hgoes h => ?_⟩
  by_cases ht' : t'.head? = some sign
  · have ht : t.head? = some sign := by
      obtain ⟨u, rfl⟩ := List.head?_eq_some_iff.1 ht'
      obtain ⟨s, rfl, -⟩ := hgoes.of_cons hsign
      rfl
    rw [hlead t ht]
    exact hthere.reads hgoes (hlead t' ht' ▸ h)
  · have ht : t.head? ≠ some sign := by
      intro hhead
      obtain ⟨s, rfl⟩ := List.head?_eq_some_iff.1 hhead
      obtain ⟨u, rfl, -⟩ := hgoes.cons
      exact ht' rfl
    rw [helse t ht]
    exact hother.reads hgoes (helse t' ht' ▸ h)

/-- A reader that goes on behind a certain sign, and has another way for all other texts. -/
theorem Alone.lead {f behind other : List Char → Except Error (α × List Char)} (sign : Char)
    (hsign : sign ≠ ')') (hbehind : Alone more behind) (hother : Alone more other)
    (hlead : ∀ rest, f (sign :: rest) = behind rest)
    (helse : ∀ t, t.head? ≠ some sign → f t = other t) : Alone more f := by
  have hthere : Alone more fun t => if t.head? = some sign then behind t.tail
      else .error .badEscape := by
    refine .first rfl (if_neg fun hhead => hsign (Option.some.inj hhead).symm) fun c => ?_
    by_cases hc : c = sign
    · simpa [hc] using hbehind
    · refine ⟨fun _ h => ?_⟩
      simp [hc] at h
  refine .peek sign hsign hthere hother (fun t ht => ?_) helse
  obtain ⟨rest, rfl⟩ := List.head?_eq_some_iff.1 ht
  rw [if_pos ht]
  exact hlead rest

/-- What is found in a text that goes on, but not behind the parenthesis,
is found in the text. -/
theorem GoesOn.mem {c : Char} {t t' : List Char} (h : GoesOn more t t') (hc : c ≠ ')')
    (hmore : c ∉ more) (hmem : c ∈ t') : c ∈ t := by
  rcases h with rfl | ⟨-, rfl⟩
  · simpa [hc, hmore] using hmem
  · cases hmem

/-- What the longer text does not begin with the text does not begin with either. -/
theorem GoesOn.not_begun (front : List Char) {t t' : List Char} (h : GoesOn more t t')
    (ht' : ∀ u, t' = front ++ u → False) (s : List Char) : t ≠ front ++ s := by
  rintro rfl
  obtain ⟨u, hu, -⟩ := h.behind front s
  exact ht' u hu

theorem GoesOn.splitFirst_alone {sign : Char} {t t' : List Char} {cut' : List Char × List Char}
    (h : GoesOn more t t') (hsign : sign ≠ ')') (hmore : sign ∉ more)
    (hsplit : Text.splitFirst? sign t' = some cut') :
    ∃ cut, Text.splitFirst? sign t = some cut := by
  refine Option.ne_none_iff_exists'.1 fun hnone => Text.splitFirst?_eq_none_iff.1 hnone ?_
  obtain ⟨ht', -⟩ := Text.splitFirst?_eq_some hsplit
  exact h.mem hsign hmore (ht' ▸ List.mem_append_right _ List.mem_cons_self)

section

variable (f : Flags)

theorem Alone.skip (hmore : '\n' ∉ more) {g : List Char → Except Error (α × List Char)}
    (hg : Alone more g) :
    Alone more fun t => g (f.skip t) :=
  ⟨fun hgoes h => hg.reads (skip_goesOn hmore f hgoes) h⟩

/-! ## Escapes -/

theorem mem_of_bracedHex {digits t : List Char} {x : Nat × List Char}
    (h : bracedHex f digits t = .ok x) :
    '\x7d' ∈ t := by
  induction t generalizing digits with
  | nil => cases h
  | cons c t ih =>
      unfold bracedHex at h
      split at h
      · next hc => exact hc ▸ List.mem_cons_self
      · split at h
        · exact List.mem_cons_of_mem c (ih h)
        · exact List.mem_cons_of_mem c (ih h)

variable (hmore : Harmless more)

include hmore

theorem alone_bracedHex (digits : List Char) : Alone more (bracedHex f digits) := by
  refine ⟨fun {t t' y} hgoes h => ?_⟩
  induction t generalizing t' digits with
  | nil =>
      have hmem := hgoes.mem (by decide) hmore.no_brace (mem_of_bracedHex f h)
      cases hmem
  | cons c t ih =>
      obtain ⟨u, rfl, hinner⟩ := hgoes.cons
      unfold bracedHex at h ⊢
      split
      · next hc =>
        rw [if_pos hc] at h
        split at h
        · cases h
        · cases h
        · exact ⟨_, rfl⟩
      · next hc =>
        rw [if_neg hc] at h
        split
        · next hblank =>
          rw [if_pos hblank] at h
          exact ih digits hinner h
        · next hblank =>
          rw [if_neg hblank] at h
          exact ih (c :: digits) hinner h

theorem alone_fixedHex (count value : Nat) : Alone more (fixedHex f count value) := by
  induction count generalizing value with
  | zero => exact .total fun t => ⟨_, rfl⟩
  | succ count ih =>
      refine .skip f hmore.no_newline (g := digitsBehind f count value)
        (.first rfl rfl fun c => ?_)
      cases hdigit : Text.hexValue? c with
      | none =>
          simp only [digitsBehind, hdigit]
          exact .refuse .badEscape
      | some d =>
          simp only [digitsBehind, hdigit]
          exact ih _

theorem alone_numbered (digits : Nat) : Alone more (numbered f digits) := by
  have hbraced : Alone more fun t =>
      bracedHex f [] t >>= fun x => charOf? x.1 >>= fun c => .ok (Atom.char c, x.2) := by
    refine .bind (local_bracedHex f []) (alone_bracedHex f hmore []) fun n => ?_
    exact Alone.check (charOf? n) Atom.char
  have hfixed : Alone more fun t =>
      fixedHex f digits 0 t >>= fun x => charOf? x.1 >>= fun c =>
        .ok (if !f.unicode && digits = 2 && 127 < x.1 then Atom.byte c
          else Atom.char c, x.2) := by
    refine .bind (local_fixedHex hmore.no_newline f digits 0)
      (alone_fixedHex f hmore digits 0) fun n => ?_
    exact Alone.check (charOf? n) fun c =>
      if !f.unicode && digits = 2 && 127 < n then Atom.byte c else Atom.char c
  refine .skip f hmore.no_newline (g := numberBehind f digits) ?_
  refine .lead '\x7b' (by decide) hbraced hfixed (fun _ => rfl) fun t ht => ?_
  unfold numberBehind
  split
  · exact absurd rfl ht
  · rfl

omit hmore in
theorem propertyAtom_paren (negated : Bool) (a : Atom) :
    propertyAtom f negated [')'] ≠ .ok a := by
  have hnone : (propertySet [')']).toOption.isNone := by decide +kernel
  unfold propertyAtom
  cases f.unicode with
  | false => exact nofun
  | true =>
      intro h
      obtain ⟨s, hs, -⟩ := exists_of_bind_eq_ok h
      rw [hs] at hnone
      cases hnone

theorem alone_propertyEscape (negated : Bool) : Alone more (propertyEscape f negated) := by
  refine ⟨fun {t t' y} hgoes h => ?_⟩
  rw [propertyEscape_eq] at h ⊢
  have hskip := skip_goesOn hmore.no_newline f hgoes
  generalize f.skip t = s at hskip ⊢
  generalize f.skip t' = s' at h hskip
  obtain ⟨⟨name, rest'⟩, hname', h⟩ := exists_of_bind_eq_ok h
  obtain ⟨a, ha, -⟩ := exists_of_bind_eq_ok h
  have hname : ∃ x, propertyName f s = .ok x := by
    cases s with
    | nil =>
        rcases hskip.nil with rfl | rfl
        · cases hname'
          exact absurd ha (propertyAtom_paren f negated a)
        · cases hname'
    | cons c s =>
        obtain ⟨u, rfl, hu⟩ := hskip.cons
        by_cases hbrace : c = '\x7b'
        · subst hbrace
          simp only [propertyName] at hname' ⊢
          split at hname'
          · cases hname'
          · next hsplit =>
            obtain ⟨cut, hcut⟩ := hu.splitFirst_alone (by decide) hmore.no_brace hsplit
            rw [hcut]
            exact ⟨_, rfl⟩
        · by_cases hslash : c = '\\'
          · subst hslash
            cases hname'
          · simp only [propertyName]
            exact ⟨_, rfl⟩
  obtain ⟨rest, hown, -⟩ := (local_propertyName f).agrees hskip hname hname'
  rw [hown]
  exact ⟨(a, rest), by simp only [bind, Except.bind] at ha ⊢; rw [ha]⟩

theorem alone_edgeName : Alone more (edgeName f) := by
  have hend : ∀ name, Alone more (edgeEnd f name) := fun name =>
    .lead '\x7d' (by decide) (Alone.check (edgeNamed f name) Atom.look) (Alone.refuse .badEscape)
      (fun _ => rfl) fun _ => edgeEnd_of_ne
  refine ⟨fun {t t' y} hgoes h => ?_⟩
  obtain ⟨hname, hbehind⟩ := hgoes.cutBefore (p := fun d => !(d.isAlpha || d == '-')) (by decide)
  unfold edgeName at h
  dsimp only at h
  rw [hname] at h
  exact (Alone.skip f hmore.no_newline (hend _)).reads hbehind h

/-- A word boundary is read alone, unless a brace stands behind it at the end of the text: the
brace is left, with nothing but blanks and comments between it and the parenthesis. -/
theorem boundary_alone {t t' rest' : List Char} {a : Atom} (hgoes : GoesOn more t t')
    (h : boundary f t' = .ok (a, rest')) :
    (∃ x, boundary f t = .ok x) ∨
      ∃ l s', a = .look l ∧ rest' = '\x7b' :: s' ∧ f.skip s' = ')' :: more := by
  by_cases hbrace : t.head? = some '\x7b'
  · obtain ⟨s, rfl⟩ := List.head?_eq_some_iff.1 hbrace
    obtain ⟨u, rfl, hu⟩ := hgoes.cons
    have hskip := skip_goesOn hmore.no_newline f hu
    rw [boundary_brace] at h ⊢
    cases hs : f.skip s with
    | nil =>
        rw [hs] at hskip
        rcases hskip.nil with hclose | hnil
        · right
          rw [hclose] at h
          cases h
          exact ⟨_, u, rfl, rfl, hclose⟩
        · rw [hnil] at h
          cases h
    | cons c v =>
        left
        rw [hs] at hskip
        obtain ⟨v', hv', -⟩ := hskip.cons
        rw [hv'] at h hskip
        dsimp only at h ⊢
        split
        · exact ⟨_, rfl⟩
        · next hc =>
          rw [if_neg hc] at h
          exact (alone_edgeName f hmore).reads hskip h
  · exact .inl ⟨_, boundary_plain hbrace⟩

/-- An escape is read alone, unless the backslash at the end takes the parenthesis, or a brace
is left at the end behind a word boundary. -/
theorem escape_alone {t t' rest' : List Char} {a : Atom} (hgoes : GoesOn more t t')
    (h : escape f t' = .ok (a, rest')) :
    (∃ x, escape f t = .ok x) ∨ rest' = more ∨
      ∃ l s', a = .look l ∧ rest' = '\x7b' :: s' ∧ f.skip s' = ')' :: more := by
  cases t with
  | nil =>
      rcases hgoes.nil with rfl | rfl
      · cases h
        exact .inr (.inl rfl)
      · cases h
  | cons c t =>
      obtain ⟨u, rfl, hu⟩ := hgoes.cons
      by_cases hedge : c = 'b'
      · subst hedge
        exact (boundary_alone f hmore hu h).imp_right .inr
      left
      by_cases hdigit : c.isDigit
      · simp [escape, hdigit] at h
      by_cases hself : isEscapable c
      · simp [escape, hdigit, hself]
      simp only [escape, hdigit, hself, Bool.false_eq_true, if_false] at h ⊢
      split at h
      all_goals first
        | exact absurd rfl hedge
        | exact (alone_numbered f hmore _).reads hu h
        | exact (alone_propertyEscape f hmore _).reads hu h
        | exact ⟨_, rfl⟩
        | cases h

/-! ## Classes -/

theorem bracketAtom_alone {t t' rest' : List Char} {a : Atom} (hgoes : GoesOn more t t')
    (h : bracketAtom f t' = .ok (a, rest')) :
    (∃ x, bracketAtom f t = .ok x) ∨ Sealed rest' ∨ ∃ l, a = .look l := by
  cases t with
  | nil =>
      rcases hgoes.nil with rfl | rfl
      · cases h
        exact .inr (.inl hmore.closesNothing)
      · cases h
  | cons c t =>
      obtain ⟨u, rfl, hu⟩ := hgoes.cons
      by_cases hslash : c = '\\'
      · subst hslash
        rcases escape_alone f hmore hu h with hown | rfl | ⟨l, -, rfl, -⟩
        · exact .inl hown
        · exact .inr (.inl hmore.closesNothing)
        · exact .inr (.inr ⟨l, rfl⟩)
      · left
        simp only [bracketAtom]
        exact ⟨_, rfl⟩

omit hmore in
/-- A condition is no item of a class. -/
theorem itemBehind_look (l : Look) (t : List Char) (x : CharSet × List Char) :
    itemBehind f (.look l) t ≠ .ok x := by
  intro h
  unfold itemBehind at h
  split at h
  · cases h
  · split at h
    · cases h
    · split at h
      · cases h
      · obtain ⟨found, -, h⟩ := exists_of_bind_eq_ok h
        cases h
  · cases h

omit hmore in
theorem rangeSet_look (first : Atom) (l : Look) (s : CharSet) :
    rangeSet f first (.look l) ≠ .ok s := by
  unfold rangeSet
  cases first.single f with
  | error e => exact nofun
  | ok low => exact nofun

theorem hyphen_alone {t t' rest' : List Char} {first : Atom} {s : CharSet}
    (hgoes : GoesOn more t t') (h : itemBehind f first ('-' :: t') = .ok (s, rest')) :
    (∃ x, itemBehind f first ('-' :: t) = .ok x) ∨ Sealed rest' := by
  have hskip := skip_goesOn hmore.no_newline f hgoes
  simp only [itemBehind] at h ⊢
  generalize f.skip t = v at hskip ⊢
  generalize f.skip t' = v' at h hskip
  cases v with
  | nil =>
      -- The hyphen is the last of the text, so that the parenthesis is the end of the range.
      right
      rcases hskip.nil with rfl | rfl
      · obtain ⟨last, hlast, h⟩ := exists_of_bind_eq_ok h
        obtain ⟨s, -, h⟩ := exists_of_bind_eq_ok h
        cases hlast
        cases h
        exact hmore.closesNothing
      · cases h
  | cons c v =>
      have hboth := hskip
      obtain ⟨v', rfl, -⟩ := hskip.cons
      simp only at h ⊢
      split
      · next hc =>
        rw [if_pos hc] at h
        obtain ⟨s, hs, -⟩ := exists_of_bind_eq_ok h
        exact .inl ⟨(s, '-' :: t), by rw [hs]; rfl⟩
      · next hc =>
        rw [if_neg hc] at h
        obtain ⟨⟨last, behind⟩, hlast', h⟩ := exists_of_bind_eq_ok h
        obtain ⟨s, hs, h⟩ := exists_of_bind_eq_ok h
        cases h
        rcases bracketAtom_alone f hmore hboth hlast' with hown | hclosed | ⟨l, rfl⟩
        · obtain ⟨rest, hlast, -⟩ :=
            (local_bracketAtom hmore.no_newline f).agrees hboth hown hlast'
          refine .inl ⟨(s, rest), ?_⟩
          rw [hlast]
          exact congrArg (· >>= fun s => Except.ok (s, rest)) hs
        · exact .inr hclosed
        · exact absurd hs (rangeSet_look f first l s)

theorem itemBehind_alone {t t' rest' : List Char} {first : Atom} {s : CharSet}
    (hgoes : GoesOn more t t') (h : itemBehind f first t' = .ok (s, rest')) :
    (∃ x, itemBehind f first t = .ok x) ∨ Sealed rest' := by
  cases t with
  | nil =>
      right
      rcases hgoes.nil with rfl | rfl
      · have hclosed := hmore.closesNothing.cons_paren
        rw [rest_of_itemBehind hclosed.straight h]
        exact hclosed
      · cases h
  | cons c t =>
      obtain ⟨u, rfl, hu⟩ := hgoes.cons
      by_cases hhyphen : c = '-'
      · subst hhyphen
        exact hyphen_alone f hmore hu h
      · left
        unfold itemBehind at h ⊢
        split at h
        · next heq => cases heq
        · next heq => exact absurd (List.cons.inj heq).1 hhyphen
        · obtain ⟨s, hs, -⟩ := exists_of_bind_eq_ok h
          split
          · next heq => cases heq
          · next heq => exact absurd (List.cons.inj heq).1 hhyphen
          · rw [hs]
            exact ⟨_, rfl⟩

/-- An item is read alone, unless the parenthesis is taken with it or stands right behind it;
and then what is left closes no class. -/
theorem bracketItem_alone {t t' rest' : List Char} {s : CharSet} (hgoes : GoesOn more t t')
    (h : bracketItem f t' = .ok (s, rest')) : (∃ x, bracketItem f t = .ok x) ∨ Sealed rest' := by
  rw [bracketItem_eq] at h ⊢
  obtain ⟨⟨first, middle'⟩, hfirst', h⟩ := exists_of_bind_eq_ok h
  rcases bracketAtom_alone f hmore hgoes hfirst' with hown | hclosed | ⟨l, rfl⟩
  · obtain ⟨middle, hfirst, -, hmiddle⟩ :=
      (local_bracketAtom hmore.no_newline f).agrees hgoes hown hfirst'
    rw [hfirst]
    exact itemBehind_alone f hmore (skip_goesOn hmore.no_newline f hmiddle) h
  · right
    have hskip := hclosed.skip f
    rw [rest_of_itemBehind hskip.straight h]
    exact hskip
  · exact absurd h (itemBehind_look f l _ _)

omit hmore in
theorem classSign?_of_goesOn {t t' : List Char} (h : GoesOn more t t')
    (ht' : classSign? t' = none) :
    classSign? t = none :=
  classSign?_eq_none_iff.2 fun sign =>
    h.not_begun sign.text fun _ => classSign?_eq_none_iff.1 ht' sign _

variable {f} in
theorem InClass.alone {depth : Nat} {negated : Bool} {listing : Listing} {t t' rest' : List Char}
    {s : CharSet} (h : InClass f depth negated listing t' s rest') (hgoes : GoesOn more t t') :
    ∃ rest, InClass f depth negated listing t s rest ∧ GoesOn more rest rest' := by
  have hlocal := hmore.no_newline
  induction h generalizing t with
  | close hclose hset =>
      obtain ⟨v, hclose, hv⟩ :=
        (hclose ▸ skip_goesOn hlocal f hgoes).of_behind _ ClassSign.close.no_paren
      exact ⟨v, .close hclose hset, hv⟩
  | named hinner hnamed _ ih =>
      obtain ⟨v, hinner, hv⟩ :=
        (hinner ▸ skip_goesOn hlocal f hgoes).of_behind _ ClassSign.inner.no_paren
      obtain ⟨behind, hnamed, hbehind⟩ := namedClass?_of_goesOn hv hnamed
      obtain ⟨rest, hclass, hrest⟩ := ih hbehind
      exact ⟨rest, .named hinner hnamed hclass, hrest⟩
  | inside hinner hnamed hopening' _ _ ihinside ih =>
      obtain ⟨v, hinner, hv⟩ :=
        (hinner ▸ skip_goesOn hlocal f hgoes).of_behind _ ClassSign.inner.no_paren
      obtain ⟨-, w', hopening, hw⟩ := opening_goesOn hlocal f hv
      obtain ⟨rfl, rfl, rfl⟩ : _ ∧ _ ∧ _ := by simpa using hopening'.symm.trans hopening
      obtain ⟨middle, hinside, hmiddle⟩ := ihinside hw
      obtain ⟨rest, hclass, hrest⟩ := ih hmiddle
      exact ⟨rest, .inside hinner ((namedClass?_eq_none_iff_goesOn hv).1 hnamed) rfl hinside
        hclass, hrest⟩
  | combine hcombine _ ih =>
      obtain ⟨v, hcombine, hv⟩ :=
        (hcombine ▸ skip_goesOn hlocal f hgoes).of_behind _ (ClassSign.no_paren _)
      obtain ⟨rest, hclass, hrest⟩ := ih hv
      exact ⟨rest, .combine hcombine hclass, hrest⟩
  | item hsign hitem' hbehind ih =>
      have hskip := skip_goesOn hlocal f hgoes
      rcases bracketItem_alone f hmore hskip hitem' with hown | hclosed
      · obtain ⟨middle, hitem, -, hmiddle⟩ :=
          (local_bracketItem hlocal f).agrees hskip hown hitem'
        obtain ⟨rest, hclass, hrest⟩ := ih hmiddle
        exact ⟨rest, .item (classSign?_of_goesOn hskip hsign) hitem hclass, hrest⟩
      · -- The item has run into the parenthesis, and nothing behind it closes the class.
        exact absurd hbehind hclosed.not_inClass

theorem alone_bracket (depth : Nat) : Alone more (bracket f depth) := by
  refine ⟨fun {t t' y} hgoes h => ?_⟩
  obtain ⟨-, _, hopening, hgoes'⟩ := opening_goesOn hmore.no_newline f hgoes
  have hclass' := bracket_eq_ok_iff.1 h
  rw [hopening] at hclass'
  obtain ⟨rest, hclass, -⟩ := hclass'.alone hmore hgoes'
  exact ⟨(y.1, rest), bracket_eq_ok_iff.2 hclass⟩

end

end PlainLink.Regex
