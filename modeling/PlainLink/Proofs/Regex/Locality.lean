/-
# How far the readers of a pattern look

A pattern that is put into a group is read there as it is read alone, because no reader
of one of its parts looks beyond the part, except to see that the next character does
not belong to it any more.  The closing parenthesis behind the pattern never does.
There is one exception: a comment goes on to the end of its line, and if it is not ended
in the pattern, it takes what stands behind it as well.

`GoesOn` relates a text to one that goes on behind the closing parenthesis, with that
exception as its second case.  `Local` says of a reader that it does the same to both
and leaves texts that are again related so.  Readers are put together in a few ways, by
a sign in front, by a cut, one after the other, and each way keeps this; so most of the
module goes through the readers of escapes one by one.
-/
import Mathlib.Data.List.Basic
import PlainLink.Regex.Escape

namespace PlainLink

theorem exists_of_bind_eq_ok {α β ε : Type} {x : Except ε α} {f : α → Except ε β} {b : β}
    (h : (x >>= f) = .ok b) : ∃ a, x = .ok a ∧ f a = .ok b := by
  cases x with
  | error e => cases h
  | ok a => exact ⟨a, rfl, h⟩

namespace Regex

/-! ## Properties -/

/-- The name of a property, behind `p` or `P`. -/
def propertyName (f : Flags) : List Char → Except Error (List Char × List Char)
  | [] => .error .badEscape
  | '\x7b' :: rest =>
    match Text.splitFirst? '\x7d' rest with
    | none => .error .badEscape
    | some (name, rest) => .ok (f.skip name, rest)
  | '\\' :: _ => .error .unknownProperty
  | c :: rest => .ok ([c], rest)

/-- What the name of a property means. -/
def propertyAtom (f : Flags) (negated : Bool) (name : List Char) : Except Error Atom := do
  if !f.unicode then .error .notText
  let s ← propertySet name
  let s := if f.caseless then .caseless s else s
  return .set (if negated then .compl s else s)

/-! ## Word boundaries -/

/-- The kind of word boundary that has the name. -/
def edgeNamed (f : Flags) (name : List Char) : Except Error Look :=
  match [("start", Look.wordStart (!f.unicode)), ("end", .wordEnd (!f.unicode)),
      ("start-half", .noWordBefore (!f.unicode)), ("end-half", .noWordAfter (!f.unicode))].find?
        fun (known, _) => known.toList = name with
  | some (_, l) => .ok l
  | none => .error .badEscape

/-- A named word boundary, at the brace behind its name. -/
def edgeEnd (f : Flags) (name : List Char) : List Char → Except Error (Atom × List Char)
  | '\x7d' :: rest => edgeNamed f name >>= fun l => .ok (.look l, rest)
  | _ => .error .badEscape

theorem edgeEnd_of_ne {f : Flags} {name t : List Char} (ht : t.head? ≠ some '\x7d') :
    edgeEnd f name t = .error .badEscape := by
  unfold edgeEnd
  split
  · exact absurd rfl ht
  · rfl

/-- A named word boundary, at its name. -/
def edgeName (f : Flags) (t : List Char) : Except Error (Atom × List Char) :=
  let cut := Text.cutBefore (fun d => !(d.isAlpha || d == '-')) t
  edgeEnd f cut.1 (f.skip cut.2)

theorem boundary_brace (f : Flags) (s : List Char) :
    boundary f ('\x7b' :: s) = match f.skip s with
    | [] => .error .badEscape
    | c :: v =>
      if !(c.isAlpha || c == '-') then .ok (.look (.wordEdge !f.unicode), '\x7b' :: s)
      else edgeName f (c :: v) := by
  simp only [boundary]
  cases f.skip s with
  | nil => rfl
  | cons c v =>
      dsimp only
      split
      · rfl
      · unfold edgeName
        dsimp only
        generalize f.skip (Text.cutBefore _ (c :: v)).2 = u
        by_cases hclose : u.head? = some '\x7d'
        · obtain ⟨rest, rfl⟩ := List.head?_eq_some_iff.1 hclose
          simp only [edgeEnd, edgeNamed]
          generalize List.find? _ _ = known
          cases known <;> rfl
        · rw [edgeEnd_of_ne hclose]
          split
          · exact absurd rfl hclose
          · rfl

theorem boundary_plain {f : Flags} {t : List Char} (ht : t.head? ≠ some '\x7b') :
    boundary f t = .ok (.look (.wordEdge !f.unicode), t) := by
  unfold boundary
  split
  · exact absurd rfl ht
  · rfl

/-! ## Signs in front -/

/-- Whether the text has the sign in front, and what is behind it. -/
def leadSign (sign : Char) (t : List Char) : Bool × List Char :=
  if t.head? = some sign then (true, t.tail) else (false, t)

theorem leadSign_self (sign : Char) (rest : List Char) :
    leadSign sign (sign :: rest) = (true, rest) :=
  if_pos rfl

theorem leadSign_of_ne {sign : Char} {t : List Char} (h : ∀ rest, t = sign :: rest → False) :
    leadSign sign t = (false, t) :=
  if_neg fun hhead => (List.head?_eq_some_iff.1 hhead).elim h

/-- Which of the fronts, in their order, the text has, and what is behind it. -/
def front? {α : Type} (fronts : List (α × List Char)) (t : List Char) : Option (α × List Char) :=
  fronts.findSome? fun x => (Text.after? x.2 t).map (x.1, ·)

theorem after?_eq_some_iff {front t rest : List Char} :
    Text.after? front t = some rest ↔ t = front ++ rest := by
  rw [Text.after?, List.isPrefixOf?_eq_some_iff_append_eq]
  exact eq_comm

theorem after?_cons_self (c : Char) (front t : List Char) :
    Text.after? (c :: front) (c :: t) = Text.after? front t :=
  if_pos (beq_self_eq_true c)

theorem after?_eq_none {front t : List Char} (h : ∀ rest, t = front ++ rest → False) :
    Text.after? front t = none :=
  Option.eq_none_iff_forall_ne_some.2 fun rest hrest => h rest (after?_eq_some_iff.1 hrest)

/-! ## Texts that go on -/

variable {more : List Char}

/-- The text `t'` goes on as `t` does and then leaves the group; or neither goes on, because a
comment has taken what follows. -/
def GoesOn (more t t' : List Char) : Prop :=
  t' = t ++ ')' :: more ∨ t = [] ∧ t' = []

theorem GoesOn.append (more t : List Char) : GoesOn more t (t ++ ')' :: more) :=
  .inl rfl

theorem GoesOn.cons {c : Char} {t t' : List Char} (h : GoesOn more (c :: t) t') :
    ∃ u, t' = c :: u ∧ GoesOn more t u := by
  rcases h with rfl | ⟨h, -⟩
  · exact ⟨_, rfl, .append more t⟩
  · cases h

theorem GoesOn.nil {t' : List Char} (h : GoesOn more [] t') : t' = ')' :: more ∨ t' = [] := by
  rcases h with rfl | ⟨-, rfl⟩
  · exact .inl rfl
  · exact .inr rfl

/-- A character of the longer text, unless it is the closing parenthesis, is
one of the shorter. -/
theorem GoesOn.of_cons {c : Char} {t u : List Char} (h : GoesOn more t (c :: u)) (hc : c ≠ ')') :
    ∃ s, t = c :: s ∧ GoesOn more s u := by
  cases t with
  | nil =>
      rcases h.nil with hcons | hnil
      · exact absurd (List.cons.inj hcons).1 hc
      · cases hnil
  | cons d t =>
      obtain ⟨_, hcons, hrest⟩ := h.cons
      obtain ⟨rfl, rfl⟩ := List.cons.inj hcons
      exact ⟨t, rfl, hrest⟩

theorem GoesOn.behind (front s : List Char) {t' : List Char} (h : GoesOn more (front ++ s) t') :
    ∃ u, t' = front ++ u ∧ GoesOn more s u := by
  rcases h with rfl | ⟨hnil, rfl⟩
  · exact ⟨s ++ ')' :: more, List.append_assoc _ _ _, .append more s⟩
  · obtain ⟨rfl, rfl⟩ := List.append_eq_nil_iff.1 hnil
    exact ⟨[], rfl, .inr ⟨rfl, rfl⟩⟩

theorem GoesOn.of_behind (front : List Char) {t u : List Char} (h : GoesOn more t (front ++ u))
    (hfront : ')' ∉ front) :
    ∃ s, t = front ++ s ∧ GoesOn more s u := by
  induction front generalizing t with
  | nil => exact ⟨t, rfl, h⟩
  | cons c front ih =>
      obtain ⟨hc, hfront⟩ : ')' ≠ c ∧ ')' ∉ front := by simpa using hfront
      obtain ⟨s, rfl, hs⟩ := h.of_cons (Ne.symm hc)
      obtain ⟨s', rfl, hs'⟩ := ih hs hfront
      exact ⟨s', rfl, hs'⟩

/-- What the text does not begin with the longer text does not begin with either. -/
theorem GoesOn.not_begins (front : List Char) {t t' : List Char} (h : GoesOn more t t')
    (hfront : ')' ∉ front) (ht : ∀ s, t = front ++ s → False) (u : List Char) :
    t' ≠ front ++ u := by
  rintro rfl
  obtain ⟨s, hs, -⟩ := h.of_behind front hfront
  exact ht s hs

theorem GoesOn.front? {α : Type} (fronts : List (α × List Char))
    (hfronts : ∀ x ∈ fronts, ')' ∉ x.2) {t t' : List Char} (h : GoesOn more t t') :
    (front? fronts t = none ∧ front? fronts t' = none) ∨
      ∃ a rest rest', front? fronts t = some (a, rest) ∧ front? fronts t' = some (a, rest') ∧
        rest <:+ t ∧ GoesOn more rest rest' := by
  induction fronts with
  | nil => exact .inl ⟨rfl, rfl⟩
  | cons x fronts ih =>
      obtain ⟨hx, hfronts⟩ := List.forall_mem_cons.1 hfronts
      simp only [Regex.front?, List.findSome?_cons]
      cases hafter : Text.after? x.2 t with
      | some rest =>
          obtain rfl := after?_eq_some_iff.1 hafter
          obtain ⟨rest', rfl, hrest⟩ := h.behind x.2 rest
          rw [after?_eq_some_iff.2 rfl]
          exact .inr ⟨x.1, rest, rest', rfl, rfl, List.suffix_append x.2 rest, hrest⟩
      | none =>
          have hafter' : Text.after? x.2 t' = none := by
            refine after?_eq_none fun rest' ht' =>
              h.not_begins x.2 hx (fun rest ht => ?_) rest' ht'
            rw [after?_eq_some_iff.2 ht] at hafter
            cases hafter
          rw [hafter']
          exact ih hfronts

theorem GoesOn.splitFirst {sign : Char} {t t' name rest : List Char} (h : GoesOn more t t')
    (hsplit : Text.splitFirst? sign t = some (name, rest)) :
    rest <:+ t ∧ ∃ rest', Text.splitFirst? sign t' = some (name, rest') ∧
      GoesOn more rest rest' := by
  obtain ⟨rfl, hname⟩ := Text.splitFirst?_eq_some hsplit
  obtain ⟨u, rfl, hu⟩ := h.behind _ _
  obtain ⟨rest', rfl, hrest⟩ := hu.cons
  exact ⟨⟨name ++ [sign], by simp⟩, rest', Text.splitFirst?_append hname rest', hrest⟩

theorem GoesOn.span {p : Char → Bool} (hp : ¬ p ')') {t t' : List Char} (h : GoesOn more t t') :
    t'.takeWhile p = t.takeWhile p ∧ GoesOn more (t.dropWhile p) (t'.dropWhile p) := by
  induction t generalizing t' with
  | nil =>
      rcases h.nil with rfl | rfl
      · simp [hp, h]
      · exact ⟨rfl, h⟩
  | cons c t ih =>
      obtain ⟨u, rfl, hu⟩ := h.cons
      by_cases hc : p c
      · simpa [hc] using ih hu
      · simp [hc, h]

theorem GoesOn.cutBefore {p : Char → Bool} (hp : p ')') {t t' : List Char}
    (h : GoesOn more t t') :
    (Text.cutBefore p t').1 = (Text.cutBefore p t).1 ∧
      GoesOn more (Text.cutBefore p t).2 (Text.cutBefore p t').2 :=
  h.span (by simp [hp])

/-- What the reader reads of a text it reads of a text that goes on, and it leaves
a part of the text. -/
structure Local (more : List Char) {α : Type} (f : List Char → Except Error (α × List Char)) :
    Prop where
  reads : ∀ {t t' : List Char} {x : α} {rest : List Char}, GoesOn more t t' →
    f t = .ok (x, rest) →
    rest <:+ t ∧ ∃ rest', f t' = .ok (x, rest') ∧ GoesOn more rest rest'

variable {α β : Type}

theorem Local.answer (x : α) : Local more fun t => .ok (x, t) := by
  refine ⟨fun {t t' y rest} hgoes h => ?_⟩
  cases h
  exact ⟨List.suffix_refl _, t', rfl, hgoes⟩

theorem Local.refuse (e : Error) : Local more fun _ =>
    (.error e : Except Error (α × List Char)) := by
  refine ⟨fun _ h => ?_⟩
  cases h

theorem Local.check (answer : Except Error α) (k : α → β) :
    Local more fun t => (answer >>= fun x => Except.ok (k x, t)) := by
  cases answer with
  | error e => exact Local.refuse e
  | ok x => exact Local.answer (k x)

theorem Local.bind {f : List Char → Except Error (α × List Char)}
    {g : α × List Char → Except Error (β × List Char)} (hf : Local more f)
    (hg : ∀ x, Local more fun t => g (x, t)) : Local more fun t => f t >>= g := by
  refine ⟨fun {t t' y rest} hgoes h => ?_⟩
  obtain ⟨⟨x, middle⟩, hcase, h⟩ := exists_of_bind_eq_ok h
  obtain ⟨hmiddle, middle', hf', hgoes'⟩ := hf.reads hgoes hcase
  obtain ⟨hrest, rest', hg', hgoes''⟩ := (hg x).reads hgoes' h
  refine ⟨hrest.trans hmiddle, rest', ?_, hgoes''⟩
  rw [hf']
  exact hg'

theorem Local.first {f : List Char → Except Error (α × List Char)} {e : Error}
    (hnil : f [] = .error e) (hcons : ∀ c, Local more fun rest => f (c :: rest)) :
    Local more f := by
  refine ⟨fun {t t' x rest} hgoes h => ?_⟩
  cases t with
  | nil =>
      rw [hnil] at h
      cases h
  | cons c t =>
      obtain ⟨u, rfl, hinner⟩ := hgoes.cons
      obtain ⟨hsuffix, hrest⟩ := (hcons c).reads hinner h
      exact ⟨hsuffix.trans (List.suffix_cons c t), hrest⟩

/-- A reader that has one way for texts with a certain sign in front, and
another for all others. -/
theorem Local.peek {f there other : List Char → Except Error (α × List Char)} (sign : Char)
    (hsign : sign ≠ ')') (hthere : Local more there) (hother : Local more other)
    (hlead : ∀ t, t.head? = some sign → f t = there t)
    (helse : ∀ t, t.head? ≠ some sign → f t = other t) : Local more f := by
  refine ⟨fun {t t' x rest} hgoes h => ?_⟩
  by_cases ht : t.head? = some sign
  · have ht' : t'.head? = some sign := by
      obtain ⟨s, rfl⟩ := List.head?_eq_some_iff.1 ht
      obtain ⟨u, rfl, -⟩ := hgoes.cons
      rfl
    rw [hlead t' ht']
    exact hthere.reads hgoes (hlead t ht ▸ h)
  · have ht' : t'.head? ≠ some sign := by
      intro hhead
      obtain ⟨u, rfl⟩ := List.head?_eq_some_iff.1 hhead
      obtain ⟨s, rfl, -⟩ := hgoes.of_cons hsign
      exact ht rfl
    rw [helse t' ht']
    exact hother.reads hgoes (helse t ht ▸ h)

/-- A reader that goes on behind a certain sign, and has another way for all other texts. -/
theorem Local.lead {f behind other : List Char → Except Error (α × List Char)} (sign : Char)
    (hsign : sign ≠ ')') (hbehind : Local more behind) (hother : Local more other)
    (hlead : ∀ rest, f (sign :: rest) = behind rest)
    (helse : ∀ t, t.head? ≠ some sign → f t = other t) : Local more f := by
  have hthere : Local more fun t => if t = [] then .error .badEscape else behind t.tail :=
    .first rfl fun _ => hbehind
  refine .peek sign hsign hthere hother (fun t ht => ?_) helse
  obtain ⟨rest, rfl⟩ := List.head?_eq_some_iff.1 ht
  exact hlead rest

theorem leadSign_goesOn (sign : Char) (hsign : sign ≠ ')') {t t' : List Char}
    (h : GoesOn more t t') :
    (leadSign sign t).2 <:+ t ∧ ∃ rest', leadSign sign t' = ((leadSign sign t).1, rest') ∧
      GoesOn more (leadSign sign t).2 rest' := by
  have hlead : Local more fun t => .ok (leadSign sign t) := by
    refine .lead sign hsign (Local.answer true) (Local.answer false) (fun rest => ?_)
      fun t ht => ?_
    · simp [leadSign]
    · rw [leadSign, if_neg ht]
  obtain ⟨hsuffix, rest', hreads, hrest⟩ := hlead.reads h rfl
  exact ⟨hsuffix, rest', Except.ok.inj hreads, hrest⟩

/-! ## Blanks and comments -/

section

variable (hmore : '\n' ∉ more)

theorem dropSpaceAnd_suffix (inComment : Bool) (t : List Char) :
    dropSpaceAnd inComment t <:+ t := by
  induction t generalizing inComment with
  | nil => cases inComment <;> exact List.suffix_refl _
  | cons c t ih =>
      cases inComment with
      | true => exact (ih _).trans (List.suffix_cons c t)
      | false =>
          unfold dropSpaceAnd
          split
          · exact (ih _).trans (List.suffix_cons c t)
          · split
            · exact (ih _).trans (List.suffix_cons c t)
            · exact List.suffix_refl _

include hmore

theorem dropSpaceAnd_comment : dropSpaceAnd true more = [] := by
  induction more with
  | nil => rfl
  | cons c more ih =>
      obtain ⟨hc, hmore⟩ : '\n' ≠ c ∧ '\n' ∉ more := by simpa using hmore
      have hcomment : (c != '\n') = true := by simpa using Ne.symm hc
      rw [dropSpaceAnd, hcomment]
      exact ih hmore

theorem dropSpaceAnd_goesOn (inComment : Bool) (t : List Char) :
    GoesOn more (dropSpaceAnd inComment t) (dropSpaceAnd inComment (t ++ ')' :: more)) := by
  induction t generalizing inComment with
  | nil =>
      cases inComment with
      | true => exact .inr ⟨rfl, by simpa [dropSpaceAnd] using dropSpaceAnd_comment hmore⟩
      | false => exact .inl rfl
  | cons c t ih =>
      cases inComment with
      | true => exact ih _
      | false =>
          rw [List.cons_append]
          unfold dropSpaceAnd
          split
          · exact ih _
          · split
            · exact ih _
            · exact .append more (c :: t)

variable (f : Flags)

theorem skip_goesOn {t t' : List Char} (h : GoesOn more t t') :
    GoesOn more (f.skip t) (f.skip t') := by
  rcases h with rfl | ⟨rfl, rfl⟩
  · unfold Flags.skip
    split
    · exact dropSpaceAnd_goesOn hmore false t
    · exact .append more t
  · refine .inr ⟨?_, ?_⟩ <;> (unfold Flags.skip; split <;> rfl)

omit hmore in
theorem skip_suffix (t : List Char) : f.skip t <:+ t := by
  unfold Flags.skip
  split
  · exact dropSpaceAnd_suffix false t
  · exact List.suffix_refl t

omit hmore in
theorem skip_cons {c : Char} (hblank : ¬ Text.isBlank c) (hcomment : c ≠ '#') (t : List Char) :
    f.skip (c :: t) = c :: t := by
  unfold Flags.skip
  split
  · rw [dropSpaceAnd, if_neg hblank, if_neg hcomment]
  · rfl

theorem Local.skip {g : List Char → Except Error (α × List Char)} (hg : Local more g) :
    Local more fun t => g (f.skip t) := by
  refine ⟨fun {t t' x rest} hgoes h => ?_⟩
  obtain ⟨hsuffix, hrest⟩ := hg.reads (skip_goesOn hmore f hgoes) h
  exact ⟨hsuffix.trans (skip_suffix f t), hrest⟩

/-! ## Escapes -/

omit hmore in
theorem local_bracedHex (digits : List Char) : Local more (bracedHex f digits) := by
  refine ⟨fun {t t' x rest} hgoes h => ?_⟩
  induction t generalizing t' digits with
  | nil => cases h
  | cons c t ih =>
      obtain ⟨u, rfl, hinner⟩ := hgoes.cons
      unfold bracedHex at h ⊢
      split
      · next hc =>
        rw [if_pos hc] at h
        split at h
        · cases h
        · cases h
        · next n hn hnumber =>
          cases h
          exact ⟨List.suffix_cons c _, u, rfl, hinner⟩
      · next hc =>
        rw [if_neg hc] at h
        split
        · next hblank =>
          rw [if_pos hblank] at h
          obtain ⟨hsuffix, hrest⟩ := ih digits hinner h
          exact ⟨hsuffix.trans (List.suffix_cons c t), hrest⟩
        · next hblank =>
          rw [if_neg hblank] at h
          obtain ⟨hsuffix, hrest⟩ := ih (c :: digits) hinner h
          exact ⟨hsuffix.trans (List.suffix_cons c t), hrest⟩

/-- What reads the digits of a number whose length is fixed, behind what is skipped. -/
def digitsBehind (count value : Nat) : List Char → Except Error (Nat × List Char)
  | [] => .error .badEscape
  | c :: rest =>
    match Text.hexValue? c with
    | none => .error .badEscape
    | some d => fixedHex f count (16 * value + d) rest

theorem local_fixedHex (count value : Nat) : Local more (fixedHex f count value) := by
  induction count generalizing value with
  | zero => exact Local.answer value
  | succ count ih =>
      refine .skip hmore f (g := digitsBehind f count value) (.first rfl fun c => ?_)
      cases hdigit : Text.hexValue? c with
      | none =>
          simp only [digitsBehind, hdigit]
          exact Local.refuse _
      | some d =>
          simp only [digitsBehind, hdigit]
          exact ih _

/-- What reads the number of a character, behind what is skipped. -/
def numberBehind (digits : Nat) : List Char → Except Error (Atom × List Char)
  | '\x7b' :: rest => do
    let (n, rest) ← bracedHex f [] rest
    return (.char (← charOf? n), rest)
  | t => do
    let (n, rest) ← fixedHex f digits 0 t
    let c ← charOf? n
    return (if !f.unicode && digits = 2 && 127 < n then .byte c else .char c, rest)

theorem local_numbered (digits : Nat) : Local more (numbered f digits) := by
  have hbraced : Local more fun t => do
      let (n, rest) ← bracedHex f [] t
      return (Atom.char (← charOf? n), rest) := by
    refine .bind (local_bracedHex f []) fun n => ?_
    exact Local.check (charOf? n) Atom.char
  have hfixed : Local more fun t => do
      let (n, rest) ← fixedHex f digits 0 t
      let c ← charOf? n
      return (if !f.unicode && digits = 2 && 127 < n then Atom.byte c
        else Atom.char c, rest) := by
    refine .bind (local_fixedHex hmore f digits 0) fun n => ?_
    exact Local.check (charOf? n) fun c =>
      if !f.unicode && digits = 2 && 127 < n then Atom.byte c else Atom.char c
  refine .skip hmore f (g := numberBehind f digits) ?_
  refine .lead '\x7b' (by decide) hbraced hfixed (fun _ => rfl) fun t ht => ?_
  unfold numberBehind
  split
  · exact absurd rfl ht
  · rfl

omit hmore in
theorem propertyEscape_eq (negated : Bool) (t : List Char) :
    propertyEscape f negated t =
      propertyName f (f.skip t) >>= fun x =>
        propertyAtom f negated x.1 >>= fun a => .ok (a, x.2) := by
  have hatom : ∀ name rest : List Char, (do
      if !f.unicode then .error .notText
      let s ← propertySet name
      let s := if f.caseless then .caseless s else s
      return (Atom.set (if negated then .compl s else s), rest)) =
      propertyAtom f negated name >>= fun a => Except.ok (a, rest) := by
    intro name rest
    unfold propertyAtom
    cases f.unicode with
    | false => rfl
    | true => cases propertySet name <;> rfl
  unfold propertyEscape
  cases f.skip t with
  | nil => rfl
  | cons c rest =>
      by_cases hbrace : c = '\x7b'
      · subst hbrace
        simp only [propertyName]
        cases Text.splitFirst? '\x7d' rest with
        | none => rfl
        | some found => exact hatom _ _
      · by_cases hslash : c = '\\'
        · subst hslash
          rfl
        · simp only [propertyName]
          exact hatom _ _

omit hmore in
theorem local_propertyName : Local more (propertyName f) := by
  have hbraced : Local more fun rest => propertyName f ('\x7b' :: rest) := by
    refine ⟨fun {t t' x rest} hgoes h => ?_⟩
    simp only [propertyName] at h ⊢
    split at h
    · cases h
    · next hsplit =>
      cases h
      obtain ⟨hsuffix, rest', hsplit', hrest⟩ := hgoes.splitFirst hsplit
      exact ⟨hsuffix, rest', by rw [hsplit'], hrest⟩
  refine .first rfl fun c => ?_
  by_cases hbrace : c = '\x7b'
  · exact hbrace ▸ hbraced
  · by_cases hslash : c = '\\'
    · exact hslash ▸ Local.refuse _
    · have hchar : (fun rest => propertyName f (c :: rest)) = fun rest => .ok ([c], rest) := by
        funext rest
        simp only [propertyName]
      rw [hchar]
      exact Local.answer [c]

theorem local_propertyEscape (negated : Bool) : Local more (propertyEscape f negated) := by
  have hboth : Local more fun t =>
      propertyName f (f.skip t) >>= fun x =>
        propertyAtom f negated x.1 >>= fun a => .ok (a, x.2) :=
    .bind (.skip hmore f (local_propertyName f)) fun name =>
      Local.check (propertyAtom f negated name) id
  exact (funext (propertyEscape_eq f negated)) ▸ hboth

theorem local_edgeName : Local more (edgeName f) := by
  have hend : ∀ name, Local more (edgeEnd f name) := fun name =>
    .lead '\x7d' (by decide) (Local.check (edgeNamed f name) Atom.look) (Local.refuse .badEscape)
      (fun _ => rfl) fun _ => edgeEnd_of_ne
  refine ⟨fun {t t' x rest} hgoes h => ?_⟩
  obtain ⟨hname, hbehind⟩ := hgoes.cutBefore (p := fun d => !(d.isAlpha || d == '-')) (by decide)
  obtain ⟨hrest, hreads⟩ := (Local.skip hmore f (hend _)).reads hbehind h
  unfold edgeName
  dsimp only
  rw [hname]
  exact ⟨hrest.trans (List.dropWhile_suffix _), hreads⟩

theorem local_boundary : Local more (boundary f) := by
  have hplain : Local more fun t => .ok (Atom.look (.wordEdge !f.unicode), t) := Local.answer _
  refine ⟨fun {t t' x rest} hgoes h => ?_⟩
  by_cases hbrace : t.head? = some '\x7b'
  · obtain ⟨s, rfl⟩ := List.head?_eq_some_iff.1 hbrace
    obtain ⟨u, rfl, hu⟩ := hgoes.cons
    have hskip := skip_goesOn hmore f hu
    have hsuffix := (skip_suffix f s).trans (List.suffix_cons '\x7b' s)
    rw [boundary_brace] at h ⊢
    cases hs : f.skip s with
    | nil =>
        rw [hs] at h
        cases h
    | cons c v =>
        rw [hs] at h hskip hsuffix
        obtain ⟨v', hv', -⟩ := hskip.cons
        rw [hv'] at hskip ⊢
        dsimp only at h ⊢
        split
        · next hc =>
          rw [if_pos hc] at h
          exact hplain.reads hgoes h
        · next hc =>
          rw [if_neg hc] at h
          obtain ⟨hrest, hreads⟩ := (local_edgeName hmore f).reads hskip h
          exact ⟨hrest.trans hsuffix, hreads⟩
  · have hbrace' : t'.head? ≠ some '\x7b' := by
      intro hhead
      obtain ⟨u, rfl⟩ := List.head?_eq_some_iff.1 hhead
      obtain ⟨s, rfl, -⟩ := hgoes.of_cons (by decide)
      exact hbrace rfl
    rw [boundary_plain hbrace] at h
    rw [boundary_plain hbrace']
    exact hplain.reads hgoes h

theorem local_escape : Local more (escape f) := by
  refine .first rfl fun c => ⟨fun {t t' x rest} hgoes h => ?_⟩
  by_cases hdigit : c.isDigit
  · simp [escape, hdigit] at h
  by_cases hself : isEscapable c
  · simp only [escape, hdigit, hself, Bool.false_eq_true, if_false, if_true] at h ⊢
    exact (Local.answer _).reads hgoes h
  simp only [escape, hdigit, hself, Bool.false_eq_true, if_false] at h ⊢
  split at h
  all_goals first
    | exact (local_numbered hmore f _).reads hgoes h
    | exact (local_propertyEscape hmore f _).reads hgoes h
    | exact (local_boundary hmore f).reads hgoes h
    | exact (Local.answer _).reads hgoes h
    | cases h

end

end Regex

end PlainLink
