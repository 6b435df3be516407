/-
# Which references a text resolves

Resolving reads a text once, from the front: a known reference gives its character,
everything else gives itself.  What is known is told by `Refers`.  It is what HTML
writes, but also a number with a plus sign in front of its digits, which HTML does not.

`Spells` lists the spellings of one character: itself, unless it is the ampersand; its
name, if it has one; its number in decimal or hexadecimal digits, with any zeros in
front.  A text that is spelled character by character resolves to itself, and because
what came of a reference is not read again, this holds in front of any other text.

Main statements: `unescape_spelled`, `unescape_eq_self_iff`.
-/
import Mathlib.Data.List.Forall2
import PlainLink.Proofs.Text.Digits
import PlainLink.Text.Reference

namespace PlainLink.Text

/-! ## What is known -/

/-- What stands between `&` and `;` for a character. -/
inductive Refers : Text → Char → Prop
  | named {name : String} {c : Char} (h : (name, c) ∈ namedChars) : Refers name.toList c
  | decimal {sign digits : Text} {c : Char} (hsign : IsSign sign) (hdigits : digits ≠ [])
      (hall : isDigits digits) (hvalue : decimalValue digits = c.toNat) :
      Refers ('#' :: (sign ++ digits)) c
  | hex {x : Char} {sign digits : Text} {c : Char} (hx : x = 'x' ∨ x = 'X') (hsign : IsSign sign)
      (hdigits : digits ≠ []) (hvalue : hexNumber? digits = some c.toNat) :
      Refers ('#' :: x :: (sign ++ digits)) c

theorem charOfNumber?_eq_some_iff {n : Nat} {c : Char} : charOfNumber? n = some c ↔
    n = c.toNat := by
  unfold charOfNumber?
  constructor
  · intro h
    split at h
    · next hvalid =>
      obtain rfl := Option.some.inj h
      rw [Char.ofNat, dif_pos hvalid]
      rfl
    · cases h
  · rintro rfl
    have hvalid : c.toNat.isValidChar := c.valid
    rw [if_pos hvalid, Char.ofNat_toNat]

theorem bind_charOfNumber?_eq_some_iff {number : Option Nat} {c : Char} :
    number.bind charOfNumber? = some c ↔ number = some c.toNat := by
  simp only [Option.bind_eq_some_iff, charOfNumber?_eq_some_iff, exists_eq_right]

theorem toNat_le (c : Char) : c.toNat ≤ UInt32.size - 1 := by
  have hfits := c.val.toNat_lt
  exact Nat.le_sub_one_of_lt hfits

theorem referenced?_eq_some_iff {name : Text} {c : Char} :
    referenced? name = some c ↔ Refers name c := by
  constructor
  · intro h
    unfold referenced? at h
    split at h
    · obtain ⟨sign, digits, hsign, rfl, hne, hvalue, -⟩ :=
        hexUpTo?_eq_some_iff.1 (bind_charOfNumber?_eq_some_iff.1 h)
      exact .hex (.inl rfl) hsign hne hvalue
    · obtain ⟨sign, digits, hsign, rfl, hne, hvalue, -⟩ :=
        hexUpTo?_eq_some_iff.1 (bind_charOfNumber?_eq_some_iff.1 h)
      exact .hex (.inr rfl) hsign hne hvalue
    · obtain ⟨sign, digits, hsign, rfl, hne, hall, hvalue, -⟩ :=
        natUpTo?_eq_some_iff.1 (bind_charOfNumber?_eq_some_iff.1 h)
      exact .decimal hsign hne hall hvalue
    · obtain ⟨⟨known, d⟩, hmem, hfound⟩ := List.exists_of_findSome?_eq_some h
      dsimp only at hfound
      split at hfound
      · next hname =>
        obtain rfl := Option.some.inj hfound
        exact hname ▸ .named hmem
      · cases hfound
  · intro h
    cases h with
    | named h =>
        have hnames : ∀ entry ∈ namedChars, referenced? entry.1.toList = some entry.2 := by
          decide
        exact hnames _ h
    | @decimal sign digits c hsign hdigits hall hvalue =>
        have hread : natUpTo? (UInt32.size - 1) (sign ++ digits) = some c.toNat :=
          natUpTo?_eq_some_iff.2 ⟨sign, digits, hsign, rfl, hdigits, hall, hvalue, toNat_le c⟩
        -- The digits do not begin with the letter that announces hexadecimal ones.
        have hletter (x : Char) (hx : x = 'x' ∨ x = 'X') (rest : Text) :
            sign ++ digits ≠ x :: rest := by
          intro heq
          rw [heq] at hread
          rcases hx with rfl | rfl <;> cases hread
        unfold referenced?
        split
        · next heq => exact absurd (List.cons.inj heq).2 (hletter 'x' (.inl rfl) _)
        · next heq => exact absurd (List.cons.inj heq).2 (hletter 'X' (.inr rfl) _)
        · next heq =>
          exact bind_charOfNumber?_eq_some_iff.2 ((List.cons.inj heq).2 ▸ hread)
        · next hother => exact absurd rfl (hother _)
    | @hex x sign digits c hx hsign hdigits hvalue =>
        have hread : hexUpTo? (UInt32.size - 1) (sign ++ digits) = some c.toNat :=
          hexUpTo?_eq_some_iff.2 ⟨sign, digits, hsign, rfl, hdigits, hvalue, toNat_le c⟩
        rcases hx with rfl | rfl <;> exact bind_charOfNumber?_eq_some_iff.2 hread

theorem Refers.not_mem {name : Text} {c : Char} (h : Refers name c) : ';' ∉ name := by
  have hsign {sign : Text} (h : IsSign sign) : ';' ∉ sign := by
    rcases h with rfl | rfl <;> decide
  cases h with
  | named h =>
      have hnames : ∀ entry ∈ namedChars, ';' ∉ entry.1.toList := by decide
      exact hnames _ h
  | @decimal sign digits c hsigned hdigits hall hvalue =>
      have hfree : ';' ∉ digits :=
        fun hmem => absurd (List.all_eq_true.1 hall ';' hmem) (by decide)
      simp [hsign hsigned, hfree]
  | @hex x sign digits c hx hsigned hdigits hvalue =>
      have hfree : ';' ∉ digits := fun hmem =>
        absurd (isSome_hexValue?_of_mem hvalue ';' hmem) (by decide)
      rcases hx with rfl | rfl <;> simp [hsign hsigned, hfree]

theorem reference?_eq_some_iff {t : Text} {c : Char} {length : Nat} :
    reference? t = some (c, length) ↔ ∃ name behind, t = name ++ ';' :: behind ∧ Refers name c ∧
      byteLength name ≤ longestReference ∧ length = name.length + 1 := by
  unfold reference?
  constructor
  · intro h
    obtain ⟨⟨name, behind⟩, hcut, hname⟩ := Option.bind_eq_some_iff.1 h
    obtain ⟨rfl, -⟩ := splitFirst?_eq_some hcut
    dsimp only at hname
    split at hname
    · cases hname
    · next hshort =>
      obtain ⟨d, hread, hpair⟩ := Option.map_eq_some_iff.1 hname
      obtain ⟨rfl, rfl⟩ := Prod.mk.inj hpair
      exact ⟨name, behind, rfl, referenced?_eq_some_iff.1 hread, Nat.not_lt.1 hshort, rfl⟩
  · rintro ⟨name, behind, rfl, hrefers, hshort, rfl⟩
    rw [splitFirst?_append hrefers.not_mem]
    show (if longestReference < byteLength name then none else _) = _
    rw [if_neg (Nat.not_lt.2 hshort), referenced?_eq_some_iff.2 hrefers]
    rfl

/-! ## Reading on -/

theorem unescapeAfter_eq (skip : Nat) (t : Text) :
    unescapeAfter skip t = unescape (t.drop skip) := by
  induction t generalizing skip with
  | nil => cases skip <;> rfl
  | cons c t ih =>
      cases skip with
      | zero => rfl
      | succ skip => exact ih skip

theorem unescape_cons {c : Char} (hc : c ≠ '&') (t : Text) :
    unescape (c :: t) = c :: unescape t := by
  rw [unescape, unescapeAfter, if_neg hc]
  rfl

theorem unescape_ampersand {t : Text} (h : reference? t = none) :
    unescape ('&' :: t) = '&' :: unescape t := by
  rw [unescape, unescapeAfter, if_pos rfl, h]
  rfl

/-- A reference gives its character, and what follows is read as if it stood alone. -/
theorem Refers.unescape {name : Text} {c : Char} (h : Refers name c)
    (hshort : byteLength name ≤ longestReference) (t : Text) :
    unescape ('&' :: (name ++ ';' :: t)) = c :: Text.unescape t := by
  have hread : reference? (name ++ ';' :: t) = some (c, name.length + 1) :=
    reference?_eq_some_iff.2 ⟨name, t, rfl, h, hshort, rfl⟩
  have hdrop : (name ++ ';' :: t).drop (name.length + 1) = t := by
    rw [← List.drop_drop, List.drop_left]
    rfl
  rw [Text.unescape, unescapeAfter, if_pos rfl, hread]
  dsimp only
  rw [unescapeAfter_eq, hdrop]

/-! ## Spellings of a character -/

/-- A spelling of a character: itself, unless it is the ampersand, its name, or its number in
digits, with zeros in front and hexadecimal digits in either case. -/
inductive Spells (c : Char) : Text → Prop
  | itself (h : c ≠ '&') : Spells c [c]
  | named {name : String} (h : (name, c) ∈ namedChars) : Spells c ('&' :: (name.toList ++ [';']))
  | decimal {digits : Text} (zeros : Nat)
      (hdigits : digits = List.replicate zeros '0' ++ ofNat c.toNat)
      (hshort : byteLength ('#' :: digits) ≤ longestReference) :
      Spells c ('&' :: '#' :: (digits ++ [';']))
  | hex {x : Char} {digits : Text} (zeros : Nat) (hx : x = 'x' ∨ x = 'X')
      (hdigits : lower digits = List.replicate zeros '0' ++ Nat.toDigits 16 c.toNat)
      (hshort : byteLength ('#' :: x :: digits) ≤ longestReference) :
      Spells c ('&' :: '#' :: x :: (digits ++ [';']))

theorem Spells.unescape {c : Char} {spelling : Text} (h : Spells c spelling) (rest : Text) :
    unescape (spelling ++ rest) = c :: Text.unescape rest := by
  have hreference {name : Text} (hrefers : Refers name c)
      (hshort : byteLength name ≤ longestReference) :
      Text.unescape ('&' :: (name ++ [';']) ++ rest) = c :: Text.unescape rest := by
    rw [List.cons_append, List.append_assoc]
    exact hrefers.unescape hshort rest
  cases h with
  | itself h => exact unescape_cons h rest
  | named h =>
      have hshort : ∀ entry ∈ namedChars, byteLength entry.1.toList ≤ longestReference := by
        decide
      exact hreference (.named h) (hshort _ h)
  | @decimal digits zeros hdigits hshort =>
      have hne : digits ≠ [] := by
        rw [hdigits]
        exact fun h => ofNat_ne_nil _ (List.append_eq_nil_iff.1 h).2
      have hall : isDigits digits := by
        rw [hdigits, isDigits, List.all_append, Bool.and_eq_true]
        exact ⟨by simp, isDigits_ofNat _⟩
      have hvalue : decimalValue digits = c.toNat := by
        rw [hdigits, decimalValue_zeros, decimalValue_ofNat]
      exact hreference (.decimal (.inl rfl) hne hall hvalue) hshort
  | @hex x digits zeros hx hdigits hshort =>
      have hne : digits ≠ [] := by
        rintro rfl
        exact Nat.toDigits_ne_nil (List.append_eq_nil_iff.1 hdigits.symm).2
      have hvalue : hexNumber? digits = some c.toNat := by
        rw [← hexNumber?_lower, hdigits, hexNumber?_zeros, hexNumber?_toDigits]
      exact hreference (.hex hx (.inl rfl) hne hvalue) hshort

/-- A text spelled character by character resolves to itself, and what follows the spelling is
resolved as if it stood alone: what came of a reference is not read again, neither by itself
nor with what follows. -/
theorem unescape_spelled {s : Text} {spellings : List Text}
    (h : List.Forall₂ Spells s spellings) :
    unescape spellings.flatten = s ∧
      ∀ rest, unescape (spellings.flatten ++ rest) = s ++ unescape rest := by
  have hrest : ∀ rest, unescape (spellings.flatten ++ rest) = s ++ unescape rest := by
    induction h with
    | nil => exact fun _ => rfl
    | cons hspells _ ih =>
        intro rest
        rw [List.flatten_cons, List.append_assoc, hspells.unescape, ih, List.cons_append]
  refine ⟨?_, hrest⟩
  have hall := hrest []
  rwa [List.append_nil, show unescape [] = [] from rfl, List.append_nil] at hall

/-- An escaped reference stays one: it is resolved to the reference and no further. -/
theorem unescape_spelled_reference :
    List.Forall₂ Spells "&lt;é".toList
      ["&#38;".toList, "l".toList, "t".toList, ";".toList, "&#X00E9;".toList] ∧
    unescape "&#38;lt;&#X00E9;".toList = "&lt;é".toList := by
  have hampersand : Spells '&' "&#38;".toList :=
    @Spells.decimal '&' "38".toList 0 (by decide) (by decide)
  have hletter : Spells 'é' "&#X00E9;".toList :=
    @Spells.hex 'é' 'X' "00E9".toList 2 (.inr rfl) (by decide) (by decide)
  have hspells : List.Forall₂ Spells "&lt;é".toList
      ["&#38;".toList, "l".toList, "t".toList, ";".toList, "&#X00E9;".toList] :=
    .cons hampersand <| .cons (.itself (by decide)) <| .cons (.itself (by decide)) <|
      .cons (.itself (by decide)) <| .cons hletter .nil
  exact ⟨hspells, (unescape_spelled hspells).1⟩

/-! ## Texts that hold no reference -/

/-- Somewhere in the text stands a reference that is known and not too long. -/
def HoldsReference (t : Text) : Prop :=
  ∃ name c, Refers name c ∧ byteLength name ≤ longestReference ∧ '&' :: (name ++ [';']) <:+: t

theorem holdsReference_cons {a : Char} {t : Text} :
    HoldsReference (a :: t) ↔ a = '&' ∧ reference? t ≠ none ∨ HoldsReference t := by
  constructor
  · rintro ⟨name, c, hrefers, hshort, hinside⟩
    rcases List.infix_cons_iff.1 hinside with hfirst | hlater
    · obtain ⟨ha, behind, hbehind⟩ := List.cons_prefix_cons.1 hfirst
      have ht : t = name ++ ';' :: behind := by rw [← hbehind, List.append_assoc]; rfl
      have hread := reference?_eq_some_iff.2 ⟨name, behind, ht, hrefers, hshort, rfl⟩
      exact .inl ⟨ha.symm, by rw [hread]; exact Option.some_ne_none _⟩
    · exact .inr ⟨name, c, hrefers, hshort, hlater⟩
  · rintro (⟨rfl, hread⟩ | ⟨name, c, hrefers, hshort, hinside⟩)
    · obtain ⟨⟨c, length⟩, hread⟩ := Option.ne_none_iff_exists'.1 hread
      obtain ⟨name, behind, rfl, hrefers, hshort, -⟩ := reference?_eq_some_iff.1 hread
      exact ⟨name, c, hrefers, hshort, [], behind, by simp⟩
    · exact ⟨name, c, hrefers, hshort, hinside.trans (List.suffix_cons a t).isInfix⟩

theorem length_unescapeAfter_le (skip : Nat) (t : Text) :
    (unescapeAfter skip t).length ≤ t.length := by
  fun_induction unescapeAfter skip t with
  | case1 => exact Nat.le_refl _
  | case2 skip c rest ih => exact Nat.le_succ_of_le ih
  | case3 rest d length hread ih => exact Nat.succ_le_succ ih
  | case4 rest hread ih => exact Nat.succ_le_succ ih
  | case5 c rest hc ih => exact Nat.succ_le_succ ih

theorem length_unescape_reference {t : Text} (h : reference? t ≠ none) :
    (unescape ('&' :: t)).length < ('&' :: t).length := by
  obtain ⟨⟨c, length⟩, hread⟩ := Option.ne_none_iff_exists'.1 h
  obtain ⟨name, behind, rfl, hrefers, hshort, -⟩ := reference?_eq_some_iff.1 hread
  have hbehind : (unescape behind).length ≤ behind.length := length_unescapeAfter_le 0 behind
  rw [hrefers.unescape hshort]
  simp only [List.length_cons, List.length_append]
  omega

/-- A text stays as it is exactly if it holds no reference. -/
theorem unescape_eq_self_iff {t : Text} : unescape t = t ↔ ¬ HoldsReference t := by
  induction t with
  | nil =>
      refine iff_of_true rfl ?_
      rintro ⟨name, c, -, -, hinside⟩
      cases List.infix_nil.1 hinside
  | cons a t ih =>
      rw [holdsReference_cons, not_or, ← ih]
      by_cases hread : a = '&' ∧ reference? t ≠ none
      · refine iff_of_false (fun hsame => ?_) (fun h => h.1 hread)
        obtain ⟨rfl, hread⟩ := hread
        have hlength := length_unescape_reference hread
        rw [hsame] at hlength
        exact Nat.lt_irrefl _ hlength
      · have hfirst : unescape (a :: t) = a :: unescape t := by
          by_cases ha : a = '&'
          · subst ha
            exact unescape_ampersand (by simpa using hread)
          · exact unescape_cons ha t
        rw [hfirst, List.cons_inj_right, and_iff_right hread]

example : unescape "&#38".toList = "&#38".toList ∧ unescape "&#+38;".toList = "&".toList := by
  decide

/-- A reference as HTML writes it, of any length and with any number. -/
inductive IsReference : Text → Prop
  | named {name : String} {c : Char} (h : (name, c) ∈ namedChars) :
      IsReference ('&' :: (name.toList ++ [';']))
  | decimal {digits : Text} (hdigits : digits ≠ []) (hall : isDigits digits) :
      IsReference ('&' :: '#' :: (digits ++ [';']))
  | hex {x : Char} {digits : Text} (hx : x = 'x' ∨ x = 'X') (hdigits : digits ≠ [])
      (hall : ∀ d ∈ digits, (hexValue? d).isSome) :
      IsReference ('&' :: '#' :: x :: (digits ++ [';']))

/-- Not only what HTML writes as a reference is resolved, but also a
number with a plus sign. -/
theorem unescape_not_only_references :
    ¬ ∀ t, (∀ r, IsReference r → ¬ r <:+: t) → unescape t = t := by
  intro h
  have hfirst {r : Text} (hinside : '&' :: r <:+: "&#+38;".toList) : r <+: "#+38;".toList := by
    rcases List.infix_cons_iff.1 hinside with hfirst | hlater
    · exact (List.cons_prefix_cons.1 hfirst).2
    · exact absurd (hlater.subset List.mem_cons_self) (by decide)
  have hnone : ∀ r, IsReference r → ¬ r <:+: "&#+38;".toList := by
    intro r hr hinside
    cases hr with
    | named hname =>
        have hnames : ∀ entry ∈ namedChars, ¬ entry.1.toList ++ [';'] <+: "#+38;".toList := by
          decide
        exact hnames _ hname (hfirst hinside)
    | decimal hdigits hall =>
        obtain ⟨d, digits, rfl⟩ := List.exists_cons_of_ne_nil hdigits
        obtain rfl := (List.cons_prefix_cons.1 (List.cons_prefix_cons.1 (hfirst hinside)).2).1
        exact absurd (List.all_eq_true.1 hall '+' List.mem_cons_self) (by decide)
    | hex hx hdigits hall =>
        obtain rfl := (List.cons_prefix_cons.1 (List.cons_prefix_cons.1 (hfirst hinside)).2).1
        exact absurd hx (by decide)
  exact absurd (h _ hnone) (by decide)

end PlainLink.Text
