/-
# How far the reader of a class looks

A class is read by its signs in front, then item by item up to its closing bracket, with
classes inside it read the same way.  Each of these readers is first put in terms of
smaller ones, and then shown to look no further than what it takes, so that the whole
class is read in a group as it is alone.

The reader of a whole class counts steps, which a class inside shares with the class
around it.  It is given enough of them, and so it reads what `InClass` says without
them; what is shown of classes is shown there.

Main statements: `bracket_eq_ok_iff`, `local_bracket`.
-/
import PlainLink.Proofs.Regex.Locality
import PlainLink.Regex.Bracket

namespace PlainLink.Regex

/-! ## Items of a class -/

/-- The set of a range between two items. -/
def rangeSet (f : Flags) (first last : Atom) : Except Error CharSet := do
  let low ← first.single f
  let high ← last.single f
  if high < low then .error .badRange
  return .range low high

/-- What an item lists by what follows it. -/
def itemBehind (f : Flags) (first : Atom) : List Char → Except Error (CharSet × List Char)
  | [] => .error .classNotClosed
  | '-' :: after =>
    match f.skip after with
    | [] => .error .classNotClosed
    | c :: more =>
      if c = ']' || c = '-' then first.listed f >>= fun s => .ok (s, '-' :: after)
      else bracketAtom f (c :: more) >>= fun x => rangeSet f first x.1 >>= fun s => .ok (s, x.2)
  | rest => first.listed f >>= fun s => .ok (s, rest)

/-- The complement sign of a class, if it has one. -/
def complementSign (f : Flags) (t : List Char) : Bool × List Char :=
  let sign := leadSign '^' (f.skip t)
  (sign.1, if sign.1 then f.skip sign.2 else sign.2)

/-- The closing bracket that stands for itself, if no hyphen stands in front of it. -/
def closingItem (hyphens : List Char) (t : List Char) : Listing × List Char :=
  let listing : Listing := ⟨hyphens.map .char, none⟩
  let sign := leadSign ']' t
  if sign.1 && hyphens.isEmpty then (listing.add (.char ']'), sign.2) else (listing, t)

/-- What a name of a class, up to `:]`, stands for. -/
def classNamed? (t : List Char) : Option (CharSet × List Char) := do
  let (name, rest) ← Text.splitFirst? ':' t
  let rest ← Text.after? [']'] rest
  let s ← CharSet.asciiClass? name
  return (s, rest)

/-! ## Signs of a class -/

/-- A sign that is no item of a class. -/
inductive ClassSign
  | close
  | inner
  | combine (how : Combination)

def ClassSign.text : ClassSign → List Char
  | close => [']']
  | inner => ['[']
  | combine .inter => ['&', '&']
  | combine .minus => ['-', '-']
  | combine .differ => ['~', '~']

/-- The sign that the text has in front, if any, and what is behind it. -/
def classSign? : List Char → Option (ClassSign × List Char)
  | ']' :: rest => some (.close, rest)
  | '[' :: rest => some (.inner, rest)
  | '&' :: '&' :: rest => some (.combine .inter, rest)
  | '-' :: '-' :: rest => some (.combine .minus, rest)
  | '~' :: '~' :: rest => some (.combine .differ, rest)
  | _ => none

/-- The set of a class with this listing. -/
def classSet (f : Flags) (negated : Bool) (listing : Listing) : Except Error CharSet :=
  f.fit (if negated then .compl (f.fold (listing.result f)) else f.fold (listing.result f))

/-- A class is read from `t` on, sign by sign and item by item.  It has the set `s`, and
`rest` is left behind it. -/
inductive InClass (f : Flags) : (depth : Nat) → Bool → Listing → (t : List Char) →
    (s : CharSet) →
    (rest : List Char) → Prop
  | close {depth : Nat} {negated : Bool} {listing : Listing} {t rest : List Char} {s : CharSet} :
      f.skip t = ClassSign.close.text ++ rest → classSet f negated listing = .ok s →
      InClass f depth negated listing t s rest
  | named {depth : Nat} {negated : Bool} {listing : Listing} {t v behind rest : List Char}
      {named s : CharSet} : f.skip t = ClassSign.inner.text ++ v →
      namedClass? v = some (named, behind) →
        InClass f depth negated (listing.add named) behind s rest →
      InClass f depth negated listing t s rest
  | inside {inner : Nat} {negated negatedInside : Bool} {listing listingInside : Listing}
      {t v w middle rest : List Char} {inside s : CharSet} :
        f.skip t = ClassSign.inner.text ++ v →
      namedClass? v = none → opening f v = (negatedInside, listingInside, w) →
      InClass f inner negatedInside listingInside w inside middle →
      InClass f (inner + 1) negated (listing.add inside) middle s rest →
      InClass f (inner + 1) negated listing t s rest
  | combine {depth : Nat} {negated : Bool} {listing : Listing} {t v rest : List Char}
      {how : Combination}
      {s : CharSet} : f.skip t = (ClassSign.combine how).text ++ v →
      InClass f depth negated (listing.combine f how) v s rest →
        InClass f depth negated listing t s rest
  | item {depth : Nat} {negated : Bool} {listing : Listing} {t middle rest : List Char}
      {item s : CharSet} : classSign? (f.skip t) = none →
        bracketItem f (f.skip t) = .ok (item, middle) →
      InClass f depth negated (listing.add item) middle s rest →
        InClass f depth negated listing t s rest

/-! ## Readers of a class -/

section

variable {more : List Char} (hmore : '\n' ∉ more) (f : Flags)

include hmore

theorem local_bracketAtom : Local more (bracketAtom f) := by
  refine .first rfl fun c => ?_
  by_cases hslash : c = '\\'
  · exact hslash ▸ local_escape hmore f
  · have hchar : (fun rest => bracketAtom f (c :: rest)) = fun rest => .ok (.char c, rest) := by
      funext rest
      simp only [bracketAtom]
    rw [hchar]
    exact Local.answer _

omit hmore in
theorem rangeSet_eq (first last : Atom) (rest : List Char) : (do
    let low ← first.single f
    let high ← last.single f
    if high < low then .error .badRange
    return (CharSet.range low high, rest)) = rangeSet f first last >>=
      fun s => .ok (s, rest) := by
  unfold rangeSet
  cases first.single f with
  | error e => rfl
  | ok low =>
      cases last.single f with
      | error e => rfl
      | ok high =>
          dsimp only [bind, Except.bind]
          split <;> rfl

omit hmore in
theorem bracketItem_eq (t : List Char) :
    bracketItem f t = bracketAtom f t >>= fun x => itemBehind f x.1 (f.skip x.2) := by
  unfold bracketItem
  refine bind_congr fun found => ?_
  obtain ⟨first, rest⟩ := found
  dsimp only
  split
  · next heq => rw [heq]; rfl
  · next after heq =>
    rw [heq]
    simp only [itemBehind]
    cases f.skip after with
    | nil => rfl
    | cons c more =>
        simp only
        split
        · rfl
        · exact bind_congr fun found => rangeSet_eq f first found.1 found.2
  · next hnil hhyphen =>
    rw [itemBehind]
    · rfl
    · exact hnil
    · exact hhyphen

theorem local_itemBehind (first : Atom) : Local more (itemBehind f first) := by
  have hlisted : Local more fun t => (first.listed f >>= fun s => .ok (s, t)) :=
    .check (first.listed f) id
  have hrange : Local more fun t =>
      bracketAtom f t >>= fun x => rangeSet f first x.1 >>= fun s => .ok (s, x.2) :=
    .bind (local_bracketAtom hmore f) fun last => Local.check (rangeSet f first last) id
  refine ⟨fun {t t' x rest} hgoes h => ?_⟩
  by_cases hhyphen : ∃ s, t = '-' :: s
  · obtain ⟨s, rfl⟩ := hhyphen
    obtain ⟨u, rfl, hu⟩ := hgoes.cons
    have hskip := skip_goesOn hmore f hu
    have hsuffix := (skip_suffix f s).trans (List.suffix_cons '-' s)
    simp only [itemBehind] at h ⊢
    generalize f.skip s = s' at h hskip hsuffix
    generalize f.skip u = u' at hskip ⊢
    cases s' with
    | nil => cases h
    | cons c s' =>
        have hboth := hskip
        obtain ⟨u', rfl, -⟩ := hskip.cons
        simp only at h ⊢
        split
        · next hc =>
          rw [if_pos hc] at h
          exact hlisted.reads hgoes h
        · next hc =>
          rw [if_neg hc] at h
          obtain ⟨hrest, hreads⟩ := hrange.reads hboth h
          exact ⟨hrest.trans hsuffix, hreads⟩
  · cases t with
    | nil => cases h
    | cons c t =>
        obtain ⟨u, rfl, hu⟩ := hgoes.cons
        have hother :
            ∀ s, itemBehind f first (c :: s) = first.listed f >>= fun x => .ok (x, c :: s) := by
          intro s
          unfold itemBehind
          split
          · next heq => cases heq
          · next heq => exact absurd ⟨t, congrArg (· :: t) (List.cons.inj heq).1⟩ hhyphen
          · rfl
        rw [hother] at h ⊢
        exact hlisted.reads hgoes h

theorem local_bracketItem : Local more (bracketItem f) := by
  have hboth : Local more fun t => bracketAtom f t >>= fun x => itemBehind f x.1 (f.skip x.2) :=
    .bind (local_bracketAtom hmore f) fun first => .skip hmore f (local_itemBehind hmore f first)
  exact (funext (bracketItem_eq f)) ▸ hboth

omit hmore in
theorem all_isAlpha_of_asciiClass? {name : Text} {s : CharSet}
    (h : CharSet.asciiClass? name = some s) :
    name.all Char.isAlpha := by
  obtain ⟨⟨known, set⟩, hmem, hset⟩ := List.exists_of_findSome?_eq_some h
  have hname : known.toList = name := by
    simp only at hset
    split at hset
    · next hname => exact hname
    · cases hset
  rw [← hname]
  clear hset hname h
  simp only [List.mem_cons, Prod.mk.injEq, List.not_mem_nil, or_false] at hmem
  rcases hmem with h | h | h | h | h | h | h | h | h | h | h | h | h | h <;> (rw [h.1]; decide)

omit hmore in
theorem not_mem_of_asciiClass? {name : Text} {s : CharSet}
    (h : CharSet.asciiClass? name = some s) {c : Char}
    (hc : ¬ c.isAlpha) : c ∉ name :=
  fun hmem => hc (List.all_eq_true.1 (all_isAlpha_of_asciiClass? h) c hmem)

omit hmore in
theorem classNamed?_eq_some_iff {t rest : List Char} {s : CharSet} :
    classNamed? t = some (s, rest) ↔
      ∃ name, t = name ++ ':' :: ']' :: rest ∧ ':' ∉ name ∧
        CharSet.asciiClass? name = some s := by
  simp only [classNamed?, Option.bind_eq_bind, Option.bind_eq_some_iff, Prod.exists,
    after?_eq_some_iff, Option.pure_def, Option.some.injEq, Prod.mk.injEq]
  constructor
  · rintro ⟨name, _, hsplit, rest, rfl, s, hs, rfl, rfl⟩
    obtain ⟨rfl, hname⟩ := Text.splitFirst?_eq_some hsplit
    exact ⟨name, rfl, hname, hs⟩
  · rintro ⟨name, rfl, hname, hs⟩
    exact ⟨name, _, Text.splitFirst?_append hname _, rest, rfl, s, hs, rfl, rfl⟩

omit hmore in
theorem namedClass?_negated (t : List Char) :
    namedClass? (':' :: '^' :: t) = (classNamed? t).map fun x => (.compl x.1, x.2) := by
  show (Text.splitFirst? ':' t).bind _ = _
  unfold classNamed?
  cases Text.splitFirst? ':' t with
  | none => rfl
  | some cut =>
      dsimp only [bind, Option.bind]
      cases Text.after? [']'] cut.2 with
      | none => rfl
      | some rest => cases CharSet.asciiClass? cut.1 <;> rfl

omit hmore in
theorem namedClass?_plain {t : List Char} (ht : t.head? ≠ some '^') :
    namedClass? (':' :: t) = classNamed? t := by
  cases t with
  | nil => rfl
  | cons c t =>
      have hc : c ≠ '^' := by simpa using ht
      have hafter : Text.after? [':'] (':' :: c :: t) = some (c :: t) :=
        after?_eq_some_iff.2 rfl
      simp [namedClass?, classNamed?, hafter, hc]

omit hmore in
/-- A named class has no parenthesis and no opening bracket in it, and what follows
it has no say in it. -/
theorem namedClass?_cut {t : List Char} {s : CharSet} {rest : List Char}
    (h : namedClass? t = some (s, rest)) :
    ∃ front, t = front ++ rest ∧ ')' ∉ front ∧ '[' ∉ front ∧ ']' ∈ front ∧
      ∀ rest, namedClass? (front ++ rest) = some (s, rest) := by
  have hnext : ∀ {name : Text} (rest : List Char),
      name ++ [':', ']'] ++ rest = name ++ ':' :: ']' :: rest := fun _ => List.append_assoc _ _ _
  obtain ⟨u, hu, -⟩ := Option.bind_eq_some_iff.1 h
  obtain rfl : t = ':' :: u := after?_eq_some_iff.1 hu
  by_cases hcaret : u.head? = some '^'
  · obtain ⟨v, rfl⟩ := List.head?_eq_some_iff.1 hcaret
    rw [namedClass?_negated] at h
    obtain ⟨⟨s, rest⟩, hnamed, hpair⟩ := Option.map_eq_some_iff.1 h
    obtain ⟨rfl, rfl⟩ := Prod.mk.inj hpair
    obtain ⟨name, rfl, hname, hs⟩ := classNamed?_eq_some_iff.1 hnamed
    refine ⟨':' :: '^' :: (name ++ [':', ']']), by simp, ?_, ?_, by simp, fun rest => ?_⟩
    · simpa using not_mem_of_asciiClass? hs (by decide)
    · simpa using not_mem_of_asciiClass? hs (by decide)
    · show namedClass? (':' :: '^' :: (name ++ [':', ']'] ++ rest)) = _
      rw [namedClass?_negated, classNamed?_eq_some_iff.2 ⟨name, hnext rest, hname, hs⟩]
      rfl
  · rw [namedClass?_plain hcaret] at h
    obtain ⟨name, rfl, hname, hs⟩ := classNamed?_eq_some_iff.1 h
    refine ⟨':' :: (name ++ [':', ']']), by simp, ?_, ?_, by simp, fun rest => ?_⟩
    · simpa using not_mem_of_asciiClass? hs (by decide)
    · simpa using not_mem_of_asciiClass? hs (by decide)
    · show namedClass? (':' :: (name ++ [':', ']'] ++ rest)) = _
      rw [namedClass?_plain, classNamed?_eq_some_iff.2 ⟨name, hnext rest, hname, hs⟩]
      cases name with
      | nil => simp
      | cons c name => simpa using hcaret

omit hmore in
theorem namedClass?_goesOn {t t' rest : List Char} {s : CharSet} (h : GoesOn more t t')
    (hnamed : namedClass? t = some (s, rest)) :
    ∃ rest', namedClass? t' = some (s, rest') ∧ GoesOn more rest rest' := by
  obtain ⟨front, rfl, -, -, -, hnext⟩ := namedClass?_cut hnamed
  obtain ⟨rest', rfl, hrest⟩ := h.behind _ _
  exact ⟨rest', hnext rest', hrest⟩

omit hmore in
/-- A named class that is found in a text that goes on is found in the text. -/
theorem namedClass?_of_goesOn {t t' rest' : List Char} {s : CharSet} (h : GoesOn more t t')
    (hnamed : namedClass? t' = some (s, rest')) :
    ∃ rest, namedClass? t = some (s, rest) ∧ GoesOn more rest rest' := by
  obtain ⟨front, rfl, hfront, -, -, hnext⟩ := namedClass?_cut hnamed
  obtain ⟨rest, rfl, hrest⟩ := h.of_behind front hfront
  exact ⟨rest, hnext rest, hrest⟩

omit hmore in
theorem namedClass?_eq_none_iff_goesOn {t t' : List Char} (h : GoesOn more t t') :
    namedClass? t' = none ↔ namedClass? t = none := by
  simp only [Option.eq_none_iff_forall_ne_some, Prod.forall, ne_eq]
  constructor
  · intro hnone s rest hnamed
    obtain ⟨rest', hnamed', -⟩ := namedClass?_goesOn h hnamed
    exact hnone s rest' hnamed'
  · intro hnone s rest' hnamed'
    obtain ⟨rest, hnamed, -⟩ := namedClass?_of_goesOn h hnamed'
    exact hnone s rest hnamed

omit hmore in
theorem complementSign_eq (t : List Char) :
    complementSign f t = match f.skip t with
      | '^' :: rest => (true, f.skip rest)
      | t => (false, t) := by
  unfold complementSign
  split
  · next heq => rw [heq, leadSign_self]; rfl
  · next hcaret => rw [leadSign_of_ne hcaret]; rfl

omit hmore in
theorem closingItem_eq (negated : Bool) (hyphens t : List Char) :
    (match t with
      | ']' :: rest =>
        if hyphens.isEmpty then (negated, Listing.add ⟨hyphens.map .char, none⟩ (.char ']'),
          rest)
        else (negated, ⟨hyphens.map .char, none⟩, t)
      | _ => (negated, ⟨hyphens.map .char, none⟩, t)) = (negated, closingItem hyphens t) := by
  unfold closingItem
  dsimp only
  split
  · rw [leadSign_self]
    cases hyphens.isEmpty <;> rfl
  · next hclose => rw [leadSign_of_ne hclose]; rfl

omit hmore in
theorem opening_eq (t : List Char) :
    opening f t =
      let sign := complementSign f t
      let item := closingItem (sign.2.takeWhile (· == '-'))
          (f.skip (sign.2.dropWhile (· == '-')))
      (sign.1, item.1, item.2) := by
  dsimp only
  rw [Prod.eta, ← closingItem_eq, complementSign_eq]
  rfl

theorem complementSign_goesOn {t t' : List Char} (h : GoesOn more t t') :
    (complementSign f t).2 <:+ t ∧ ∃ rest',
      complementSign f t' = ((complementSign f t).1, rest') ∧
        GoesOn more (complementSign f t).2 rest' := by
  obtain ⟨hsuffix, rest', hsign, hrest⟩ :=
    leadSign_goesOn '^' (by decide) (skip_goesOn hmore f h)
  have hsuffix := hsuffix.trans (skip_suffix f t)
  unfold complementSign
  rw [hsign]
  dsimp only
  split
  · exact ⟨(skip_suffix f _).trans hsuffix, _, rfl, skip_goesOn hmore f hrest⟩
  · exact ⟨hsuffix, _, rfl, hrest⟩

omit hmore in
theorem closingItem_goesOn (hyphens : List Char) {t t' : List Char} (h : GoesOn more t t') :
    (closingItem hyphens t).2 <:+ t ∧ ∃ rest',
      closingItem hyphens t' = ((closingItem hyphens t).1, rest') ∧
        GoesOn more (closingItem hyphens t).2 rest' := by
  obtain ⟨hsuffix, rest', hsign, hrest⟩ := leadSign_goesOn ']' (by decide) h
  unfold closingItem
  rw [hsign]
  dsimp only
  split
  · exact ⟨hsuffix, _, rfl, hrest⟩
  · exact ⟨List.suffix_refl t, _, rfl, h⟩

theorem opening_goesOn {t t' : List Char} (h : GoesOn more t t') :
    (opening f t).2.2 <:+ t ∧ ∃ rest',
      opening f t' = ((opening f t).1, (opening f t).2.1, rest') ∧
        GoesOn more (opening f t).2.2 rest' := by
  obtain ⟨hsuffix, u', hsign, hu⟩ := complementSign_goesOn hmore f h
  rw [opening_eq, opening_eq, hsign]
  generalize complementSign f t = sign at hsuffix hu ⊢
  obtain ⟨negated, u⟩ := sign
  dsimp only at hsuffix hu ⊢
  obtain ⟨hsame, hdrop⟩ := hu.span (p := (· == '-')) (by decide)
  obtain ⟨hsuffix', rest', hclose, hrest⟩ :=
    closingItem_goesOn (u.takeWhile (· == '-')) (skip_goesOn hmore f hdrop)
  rw [hsame, hclose]
  exact ⟨hsuffix'.trans ((skip_suffix f _).trans ((List.dropWhile_suffix _).trans hsuffix)),
    rest', rfl, hrest⟩

omit hmore in
theorem length_lt_of_bracketItem {t rest : List Char} {s : CharSet}
    (h : bracketItem f t = .ok (s, rest)) :
    rest.length < t.length := by
  have hnone : '\n' ∉ ([] : List Char) := List.not_mem_nil
  rw [bracketItem_eq] at h
  obtain ⟨⟨first, middle⟩, hfirst, h⟩ := exists_of_bind_eq_ok h
  have hbehind := ((local_itemBehind hnone f first).reads (.append [] _) h).1
  have hmiddle : middle.length < t.length := by
    unfold bracketAtom at hfirst
    split at hfirst
    · cases hfirst
    · exact Nat.lt_succ_of_le ((local_escape hnone f).reads (.append [] _) hfirst).1.length_le
    · cases hfirst
      exact Nat.lt_succ_self _
  exact Nat.lt_of_le_of_lt (hbehind.trans (skip_suffix f middle)).length_le hmiddle

end

section

variable {more : List Char} {f : Flags} {depth : Nat} {negated : Bool} {listing : Listing}
  {t t' rest : List Char} {s : CharSet} {sign : ClassSign}

/-! ## A class without its steps -/

theorem ClassSign.no_paren (sign : ClassSign) : ')' ∉ sign.text := by
  rcases sign with _ | _ | _ | _ | _ <;> decide

theorem classSign?_eq_some_iff : classSign? t = some (sign, rest) ↔ t = sign.text ++ rest := by
  constructor
  · intro h
    unfold classSign? at h
    split at h <;> cases h <;> rfl
  · rintro rfl
    rcases sign with _ | _ | _ | _ | _ <;> rfl

theorem classSign?_eq_none_iff : classSign? t = none ↔ ∀ (sign : ClassSign) rest,
    t ≠ sign.text ++ rest := by
  simp only [Option.eq_none_iff_forall_ne_some, Prod.forall, ne_eq, classSign?_eq_some_iff]

/-- A class with a step left goes on by the sign in front of it, or by an item. -/
theorem bracketBody_succ (steps : Nat) : bracketBody f (steps + 1) depth negated listing t =
    match classSign? (f.skip t) with
    | some (.close, rest) => classSet f negated listing >>= fun s => .ok (s, rest)
    | some (.inner, v) =>
      match namedClass? v with
      | some (s, rest) => bracketBody f steps depth negated (listing.add s) rest
      | none =>
        match depth with
        | 0 => .error .nestedTooDeep
        | inner + 1 =>
          bracketBody f steps inner (opening f v).1 (opening f v).2.1 (opening f v).2.2 >>=
            fun x =>
            bracketBody f steps (inner + 1) negated (listing.add x.1) x.2
    | some (.combine how, v) => bracketBody f steps depth negated (listing.combine f how) v
    | none => bracketItem f (f.skip t) >>= fun x =>
        bracketBody f steps depth negated (listing.add x.1) x.2 := by
  conv_lhs => unfold bracketBody
  generalize f.skip t = u
  split
  · rfl
  · rfl
  · next v =>
    simp only [classSign?]
    cases namedClass? v with
    | some found => rfl
    | none => cases depth <;> rfl
  · rfl
  · rfl
  · rfl
  · rw [classSign?] <;> assumption

theorem InClass.of_bracketBody {steps : Nat}
    (h : bracketBody f steps depth negated listing t = .ok (s, rest)) :
    InClass f depth negated listing t s rest := by
  -- On the steps, which a class inside shares with the class around it.
  induction steps generalizing depth negated listing t rest s with
  | zero => cases h
  | succ steps ih =>
      rw [bracketBody_succ] at h
      cases hsign : classSign? (f.skip t) with
      | none =>
          rw [hsign] at h
          obtain ⟨⟨item, middle⟩, hitem, h⟩ := exists_of_bind_eq_ok h
          exact .item hsign hitem (ih h)
      | some found =>
          obtain ⟨sign, v⟩ := found
          rw [hsign] at h
          have hsign := classSign?_eq_some_iff.1 hsign
          cases sign with
          | close =>
              obtain ⟨s, hs, h⟩ := exists_of_bind_eq_ok h
              cases h
              exact .close hsign hs
          | inner =>
              cases hnamed : namedClass? v with
              | some found =>
                  simp only [hnamed] at h
                  exact .named hsign hnamed (ih h)
              | none =>
                  simp only [hnamed] at h
                  cases depth with
                  | zero => cases h
                  | succ inner =>
                      obtain ⟨⟨inside, middle⟩, hinside, h⟩ := exists_of_bind_eq_ok h
                      exact .inside hsign hnamed rfl (ih hinside) (ih h)
          | combine how => exact .combine hsign (ih h)

theorem opening_suffix (f : Flags) (t : List Char) : (opening f t).2.2 <:+ t :=
  (opening_goesOn List.not_mem_nil f (.append [] t)).1

theorem bracketItem_suffix (h : bracketItem f t = .ok (s, rest)) : rest <:+ t :=
  ((local_bracketItem List.not_mem_nil f).reads (.append [] t) h).1

theorem namedClass?_suffix (h : namedClass? t = some (s, rest)) : rest <:+ t := by
  obtain ⟨front, rfl, -⟩ := namedClass?_cut h
  exact List.suffix_append front rest

theorem suffix_of_skip_eq (h : f.skip t = sign.text ++ rest) : sign.text ++ rest <:+ t :=
  h ▸ skip_suffix f t

theorem InClass.suffix (h : InClass f depth negated listing t s rest) : rest <:+ t := by
  induction h with
  | close hclose _ => exact (List.suffix_append _ _).trans (suffix_of_skip_eq hclose)
  | named hinner hnamed _ ih =>
      have hv := (List.suffix_append _ _).trans (suffix_of_skip_eq hinner)
      exact ih.trans ((namedClass?_suffix hnamed).trans hv)
  | inside hinner _ hopening _ _ ihinside ih =>
      have hv := (List.suffix_append _ _).trans (suffix_of_skip_eq hinner)
      exact ih.trans (ihinside.trans ((hopening ▸ opening_suffix f _).trans hv))
  | combine hcombine _ ih =>
      exact ih.trans ((List.suffix_append _ _).trans (suffix_of_skip_eq hcombine))
  | item _ hitem _ ih => exact ih.trans ((bracketItem_suffix hitem).trans (skip_suffix f _))

theorem length_lt_of_skip_eq (h : f.skip t = sign.text ++ rest) : rest.length < t.length := by
  have hlength := (suffix_of_skip_eq h).length_le
  have hpos : 0 < sign.text.length := by rcases sign with _ | _ | _ | _ | _ <;> decide
  rw [List.length_append] at hlength
  omega

/-- As many steps as there are characters left, and one for the end, are enough. -/
theorem InClass.bracketBody_eq (h : InClass f depth negated listing t s rest) {steps : Nat}
    (hsteps : t.length < steps) :
    bracketBody f steps depth negated listing t = .ok (s, rest) := by
  induction h generalizing steps with
  | close hclose hset =>
      obtain ⟨steps, rfl⟩ := Nat.exists_eq_add_one_of_ne_zero (Nat.ne_zero_of_lt hsteps)
      rw [bracketBody_succ, classSign?_eq_some_iff.2 hclose]
      simp only [hset, bind, Except.bind]
  | named hinner hnamed _ ih =>
      obtain ⟨steps, rfl⟩ := Nat.exists_eq_add_one_of_ne_zero (Nat.ne_zero_of_lt hsteps)
      have hv := length_lt_of_skip_eq hinner
      have hbehind := (namedClass?_suffix hnamed).length_le
      rw [bracketBody_succ, classSign?_eq_some_iff.2 hinner]
      simp only [hnamed]
      exact ih (by omega)
  | @inside _ _ _ _ _ _ v w _ _ _ _ hinner hnamed hopening hinside _ ihinside ih =>
      obtain ⟨steps, rfl⟩ := Nat.exists_eq_add_one_of_ne_zero (Nat.ne_zero_of_lt hsteps)
      have hv := length_lt_of_skip_eq hinner
      have hw : w.length ≤ v.length := (hopening ▸ opening_suffix f v).length_le
      have hmiddle := hinside.suffix.length_le
      have hsteps : w.length < steps := by omega
      rw [bracketBody_succ, classSign?_eq_some_iff.2 hinner]
      simp only [hnamed, hopening, ihinside hsteps, bind, Except.bind]
      exact ih (by omega)
  | combine hcombine _ ih =>
      obtain ⟨steps, rfl⟩ := Nat.exists_eq_add_one_of_ne_zero (Nat.ne_zero_of_lt hsteps)
      have hv := length_lt_of_skip_eq hcombine
      rw [bracketBody_succ, classSign?_eq_some_iff.2 hcombine]
      exact ih (by omega)
  | @item _ _ _ t _ _ _ _ hsign hitem _ ih =>
      obtain ⟨steps, rfl⟩ := Nat.exists_eq_add_one_of_ne_zero (Nat.ne_zero_of_lt hsteps)
      have hmiddle := length_lt_of_bracketItem f hitem
      have hskip := (skip_suffix f t).length_le
      rw [bracketBody_succ, hsign]
      simp only [hitem, bind, Except.bind]
      exact ih (by omega)

/-- The steps that a class is given are enough, so that they have no say in how it is read. -/
theorem bracket_eq_ok_iff : bracket f depth t = .ok (s, rest) ↔
    InClass f depth (opening f t).1 (opening f t).2.1 (opening f t).2.2 s rest := by
  constructor
  · exact InClass.of_bracketBody
  · exact fun h => h.bracketBody_eq (Nat.lt_succ_of_le (opening_suffix f t).length_le)

/-! ## Classes that go on -/

theorem classSign?_goesOn (h : GoesOn more t t') (ht : classSign? t = none) :
    classSign? t' = none :=
  classSign?_eq_none_iff.2 fun sign =>
    h.not_begins sign.text sign.no_paren (classSign?_eq_none_iff.1 ht sign)

theorem InClass.goesOn (hmore : '\n' ∉ more) (h : InClass f depth negated listing t s rest)
    (hgoes : GoesOn more t t') :
    ∃ rest', InClass f depth negated listing t' s rest' ∧ GoesOn more rest rest' := by
  induction h generalizing t' with
  | close hclose hset =>
      obtain ⟨v', hclose', hv⟩ := (hclose ▸ skip_goesOn hmore f hgoes).behind _ _
      exact ⟨v', .close hclose' hset, hv⟩
  | named hinner hnamed _ ih =>
      obtain ⟨v', hinner', hv⟩ := (hinner ▸ skip_goesOn hmore f hgoes).behind _ _
      obtain ⟨behind', hnamed', hbehind⟩ := namedClass?_goesOn hv hnamed
      obtain ⟨rest', hclass, hrest⟩ := ih hbehind
      exact ⟨rest', .named hinner' hnamed' hclass, hrest⟩
  | inside hinner hnamed hopening _ _ ihinside ih =>
      obtain ⟨v', hinner', hv⟩ := (hinner ▸ skip_goesOn hmore f hgoes).behind _ _
      obtain ⟨-, w', hopening', hw⟩ := opening_goesOn hmore f hv
      rw [hopening] at hopening' hw
      obtain ⟨middle', hinside', hmiddle⟩ := ihinside hw
      obtain ⟨rest', hclass, hrest⟩ := ih hmiddle
      have hnamed' := (namedClass?_eq_none_iff_goesOn hv).2 hnamed
      exact ⟨rest', .inside hinner' hnamed' hopening' hinside' hclass, hrest⟩
  | combine hcombine _ ih =>
      obtain ⟨v', hcombine', hv⟩ := (hcombine ▸ skip_goesOn hmore f hgoes).behind _ _
      obtain ⟨rest', hclass, hrest⟩ := ih hv
      exact ⟨rest', .combine hcombine' hclass, hrest⟩
  | item hsign hitem _ ih =>
      have hskip := skip_goesOn hmore f hgoes
      obtain ⟨-, middle', hitem', hmiddle⟩ := (local_bracketItem hmore f).reads hskip hitem
      obtain ⟨rest', hclass, hrest⟩ := ih hmiddle
      exact ⟨rest', .item (classSign?_goesOn hskip hsign) hitem' hclass, hrest⟩

theorem local_bracket (hmore : '\n' ∉ more) (f : Flags) (depth : Nat) :
    Local more (bracket f depth) := by
  refine ⟨fun {t t' x rest} hgoes h => ?_⟩
  have hclass := bracket_eq_ok_iff.1 h
  obtain ⟨-, _, hopening, hgoes'⟩ := opening_goesOn hmore f hgoes
  obtain ⟨rest', hclass', hrest⟩ := hclass.goesOn hmore hgoes'
  refine ⟨hclass.suffix.trans (opening_suffix f t), rest', bracket_eq_ok_iff.2 ?_, hrest⟩
  rw [hopening]
  exact hclass'

end

end PlainLink.Regex
