/-
# Requoted spellings

A text is its own requoted spelling if all of its characters are safe and each `%`
before two letters or digits begins an escape that is left.  What requoting makes of a
text is such a spelling, unless a `%` of the text comes to stand before letters or
digits that are no such escape: then requoting it again changes it again.

The two directions look at the same place from both sides.  Two letters or digits behind
a `%` of the requoted spelling begin an escape that is left, or were joined to the `%`
(`staysEscaped_or_joins`).  And what is joined stands together in the spelling
(`Joins.suffix_requote`).

Main statements: `requote_eq_self_iff`, `requote_requote_eq_iff`.
-/
import PlainLink.Proofs.Text.Requoted

namespace PlainLink.Text

/-- The two digits write the byte of a character that keeps its escape. -/
def StaysEscaped (a b : Char) : Prop :=
  ∃ byte, hexByte? a b = some byte ∧ ¬ isUnreserved (Char.ofNat byte.toNat)

section

variable {a b c : Char} {t u v w plain rest : Text} {safe : Char → Bool}

/-! ## Texts that are left as they are -/

/-- Where nothing is undone, each `%` before two letters or digits begins an
escape that is left. -/
theorem Unquotes.staysEscaped (h : Unquotes t plain) (hsame : plain = t)
    (hsuffix : '%' :: a :: b :: rest <:+ t) (ha : Unicode.isAlphanumeric a)
    (hb : Unicode.isAlphanumeric b) : StaysEscaped a b := by
  induction h with
  | nil => cases List.eq_nil_of_suffix_nil hsuffix
  | plain hc _ ih => exact ih (List.cons.inj hsame).2 ((suffix_of_ne hc).1 hsuffix)
  | stray hpair _ ih =>
      rcases List.suffix_cons_iff.1 hsuffix with heq | hsuffix
      · obtain rfl := (List.cons.inj heq).2
        exact absurd (by simp [beginsPair, ha, hb]) hpair
      · exact ih (List.cons.inj hsame).2 hsuffix
  | undone _ hc _ _ => exact absurd (List.cons.inj hsame).1 (ne_percent_of_isUnreserved hc)
  | @kept x y byte t out hbyte hc _ ih =>
      obtain ⟨hx, hy⟩ := isAlphanumeric_of_hexByte? hbyte
      rcases (suffix_of_pair hx hy).1 hsuffix with heq | hsuffix
      · obtain ⟨rfl, rfl, -⟩ : a = x ∧ b = y ∧ rest = t := by simpa using heq
        exact ⟨byte, hbyte, hc⟩
      · exact ih (by simpa using hsame) hsuffix

theorem unquotes_self_iff : Unquotes t t ↔
    ∀ a b rest, '%' :: a :: b :: rest <:+ t → Unicode.isAlphanumeric a →
      Unicode.isAlphanumeric b →
      StaysEscaped a b := by
  refine ⟨fun h _ _ _ => h.staysEscaped rfl, fun h => ?_⟩
  induction t using beginning_induction with
  | nil => exact .nil
  | plain c t hc ih =>
      exact .plain hc (ih fun a b rest hs => h a b rest ((suffix_of_ne hc).2 hs))
  | stray t hpair ih =>
      exact .stray hpair (ih fun a b rest hs => h a b rest (hs.trans (List.suffix_cons _ _)))
  | pair a b t ha hb ih =>
      obtain ⟨byte, hbyte, hc⟩ := h a b t (List.suffix_refl _) ha hb
      exact .kept hbyte hc
        (ih fun x y rest hs => h x y rest ((suffix_of_pair ha hb).2 (.inr hs)))

theorem length_le_length_escape (t : Text) : t.length ≤ (escape safe t).length := by
  induction t with
  | nil => exact Nat.le_refl _
  | cons c t ih =>
      rw [escape_cons, List.length_append, List.length_cons]
      split
      · rw [List.length_singleton]
        omega
      · obtain ⟨x, y, rest, hescape⟩ := exists_flatMap_escapeByte c
        rw [hescape, List.length_cons]
        omega

theorem safe_of_escape_eq_self (h : escape safe t = t) : ∀ c ∈ t, safe c := by
  induction t with
  | nil => exact fun _ hc => absurd hc List.not_mem_nil
  | cons d t ih =>
      rw [escape_cons] at h
      split at h
      · next hd => exact List.forall_mem_cons.2 ⟨hd, ih (List.cons.inj h).2⟩
      · -- The escape alone is longer than the character.
        obtain ⟨x, y, rest, hescape⟩ := exists_flatMap_escapeByte d
        have hlength := congrArg List.length h
        have hle : t.length ≤ (escape safe t).length := length_le_length_escape t
        rw [hescape] at hlength
        simp only [List.length_append, List.length_cons] at hlength
        omega

theorem Unquotes.mem (h : Unquotes t plain) (hc : c ∈ plain) : c ∈ t ∨ isUnreserved c := by
  induction h with
  | nil => exact .inl hc
  | plain _ _ ih =>
      rcases List.mem_cons.1 hc with rfl | hc
      · exact .inl List.mem_cons_self
      · exact (ih hc).imp_left (List.mem_cons_of_mem _)
  | stray _ _ ih =>
      rcases List.mem_cons.1 hc with rfl | hc
      · exact .inl List.mem_cons_self
      · exact (ih hc).imp_left (List.mem_cons_of_mem _)
  | undone _ hundone _ ih =>
      rcases List.mem_cons.1 hc with rfl | hc
      · exact .inr hundone
      · exact (ih hc).imp_left (List.mem_append_right ['%', _, _])
  | @kept a b _ t out _ _ _ ih =>
      rcases List.mem_append.1 (show c ∈ ['%', a, b] ++ out from hc) with hc | hc
      · exact .inl (List.mem_append_left t hc)
      · exact (ih hc).imp_left (List.mem_append_right ['%', a, b])

/-- The texts that are their own requoted spelling. -/
theorem requote_eq_self_iff : requote t = t ↔
    (∀ c ∈ t, isUnreserved c ∨ isReserved c ∨ c = '%') ∧
      ∀ a b rest, '%' :: a :: b :: rest <:+ t → Unicode.isAlphanumeric a →
        Unicode.isAlphanumeric b →
        StaysEscaped a b := by
  rw [← unquotes_self_iff, ← unquoteUnreserved?_eq_some_iff]
  constructor
  · intro h
    have hsafe : ∀ c ∈ t, isUnreserved c ∨ isReserved c ∨ c = '%' :=
      fun c hc => safe_of_mem_requote (h.symm ▸ hc)
    refine ⟨hsafe, ?_⟩
    rw [requote] at h
    split at h
    · next plain hplain =>
      have hsame : escape (fun c => isUnreserved c || isReserved c || c == '%') plain =
          plain := by
        refine escape_eq_self fun c hc => ?_
        have hc := ((unquoteUnreserved?_eq_some_iff.1 hplain).mem hc).imp_left (hsafe c)
        grind
      rw [hplain, ← hsame, h]
    · refine unquoteUnreserved?_eq_self fun hmem => ?_
      exact absurd (safe_of_escape_eq_self h '%' hmem) (by decide)
  · rintro ⟨hsafe, hkept⟩
    rw [requote, hkept]
    refine escape_eq_self fun c hc => ?_
    have hc := hsafe c hc
    grind

/-! ## Where a `%` comes from -/

theorem hexDigit_ne_percent {n : Nat} (hn : n < 16) : hexDigit n ≠ '%' :=
  ne_percent_of_isUnreserved (isUnreserved_hexDigit n hn)

theorem hexDigits_ne_percent (byte : UInt8) :
    hexDigit (byte.toNat / 16) ≠ '%' ∧ hexDigit (byte.toNat % 16) ≠ '%' := by
  have hbyte := byte.toNat_lt
  exact ⟨hexDigit_ne_percent (by omega), hexDigit_ne_percent (by omega)⟩

theorem suffix_escapeBytes {bs : Bytes} (h : '%' :: w <:+ bs.flatMap escapeByte ++ t) :
    (∃ byte ∈ bs, ∃ rest, w = hexDigit (byte.toNat / 16) :: hexDigit (byte.toNat % 16) :: rest) ∨
      '%' :: w <:+ t := by
  induction bs with
  | nil => exact .inr h
  | cons byte bs ih =>
      obtain ⟨hhigh, hlow⟩ := hexDigits_ne_percent byte
      rw [List.flatMap_cons, List.append_assoc] at h
      rcases List.suffix_cons_iff.1 h with heq | h
      · exact .inl ⟨byte, List.mem_cons_self, _, (List.cons.inj heq).2⟩
      · refine (ih ((suffix_of_ne hlow).1 ((suffix_of_ne hhigh).1 h))).imp_left ?_
        rintro ⟨byte, hmem, hw⟩
        exact ⟨byte, List.mem_cons_of_mem _ hmem, hw⟩

theorem le_of_mem_encodeChar {byte : UInt8} (hc : 0x80 ≤ c.toNat)
    (h : byte ∈ Utf8.encodeChar c) :
    0x80 ≤ byte.toNat := by
  have hmost : c.toNat < 0x110000 := by
    rcases c.valid with hlow | ⟨-, hhigh⟩
    · exact Nat.lt_trans hlow (by decide)
    · exact hhigh
  have hbyte : ∀ n, 0x80 ≤ n → n < 0x100 → 0x80 ≤ n.toUInt8.toNat := by
    intro n hlow hhigh
    rw [Nat.toUInt8, UInt8.toNat_ofNat', Nat.mod_eq_of_lt hhigh]
    exact hlow
  simp only [Utf8.encodeChar, if_neg (Nat.not_lt.2 hc)] at h
  split at h
  · simp only [List.mem_cons, List.not_mem_nil, or_false] at h
    rcases h with rfl | rfl <;> exact hbyte _ (by omega) (by omega)
  · split at h
    · simp only [List.mem_cons, List.not_mem_nil, or_false] at h
      rcases h with rfl | rfl | rfl <;> exact hbyte _ (by omega) (by omega)
    · simp only [List.mem_cons, List.not_mem_nil, or_false] at h
      rcases h with rfl | rfl | rfl | rfl <;> exact hbyte _ (by omega) (by omega)

/-- The bytes of a character that is not unreserved are those of no unreserved character. -/
theorem not_isUnreserved_of_mem_encodeChar {byte : UInt8} (hc : ¬ isUnreserved c)
    (h : byte ∈ Utf8.encodeChar c) : ¬ isUnreserved (Char.ofNat byte.toNat) := by
  by_cases hlow : c.toNat < 0x80
  · rw [Utf8.encodeChar_of_lt hlow] at h
    obtain rfl := List.mem_singleton.1 h
    rwa [Nat.toUInt8, UInt8.toNat_ofNat', Nat.mod_eq_of_lt (by omega), Char.ofNat_toNat]
  · have hhigh : ∀ n < 256, 0x80 ≤ n → ¬ isUnreserved (Char.ofNat n) := by decide +kernel
    exact hhigh _ byte.toNat_lt (le_of_mem_encodeChar (Nat.not_lt.1 hlow) h)

theorem suffix_escape (hsafe : ∀ c, isUnreserved c → safe c) (h : '%' :: w <:+ escape safe t) :
    (∃ a b rest, w = a :: b :: rest ∧ StaysEscaped a b) ∨
      safe '%' ∧ ∃ v, '%' :: v <:+ t ∧ w = escape safe v := by
  induction t with
  | nil => cases List.eq_nil_of_suffix_nil h
  | cons c t ih =>
      have hlater (h : '%' :: w <:+ escape safe t) :
          (∃ a b rest, w = a :: b :: rest ∧ StaysEscaped a b) ∨
          safe '%' ∧ ∃ v, '%' :: v <:+ c :: t ∧ w = escape safe v := by
        refine (ih h).imp_right ?_
        rintro ⟨hpercent, v, hv, hw⟩
        exact ⟨hpercent, v, hv.trans (List.suffix_cons c t), hw⟩
      rw [escape_cons] at h
      split at h
      · next hc =>
        rcases List.suffix_cons_iff.1 h with heq | h
        · obtain ⟨rfl, rfl⟩ := List.cons.inj heq
          exact .inr ⟨hc, t, List.suffix_refl _, rfl⟩
        · exact hlater h
      · next hc =>
        rcases suffix_escapeBytes h with ⟨byte, hmem, rest, rfl⟩ | h
        · refine .inl ⟨_, _, rest, rfl, byte, hexByte?_hexDigit byte, ?_⟩
          exact not_isUnreserved_of_mem_encodeChar
            (fun hunreserved => hc (hsafe c hunreserved)) hmem
        · exact hlater h

/-- Behind a `%` of an undone text stands an escape that is left, or what is joined to it. -/
theorem Unquotes.staysEscaped_or_joins (h : Unquotes t plain)
    (hsuffix : '%' :: a :: b :: rest <:+ plain) (ha : a.isAlphanum) (hb : b.isAlphanum) :
    StaysEscaped a b ∨ Joins t a b := by
  induction h with
  | nil => cases List.eq_nil_of_suffix_nil hsuffix
  | plain hc _ ih =>
      refine (ih ((suffix_of_ne hc).1 hsuffix)).imp_right fun hjoins => ?_
      exact hjoins.of_suffix (List.suffix_cons _ _)
  | stray hpair hout ih =>
      rcases List.suffix_cons_iff.1 hsuffix with heq | hsuffix
      · obtain rfl := (List.cons.inj heq).2
        exact .inr (joins_of_stray hpair hout ha hb)
      · exact (ih hsuffix).imp_right fun hjoins => hjoins.of_suffix (List.suffix_cons _ _)
  | undone _ hc _ ih =>
      refine (ih ((suffix_of_ne (ne_percent_of_isUnreserved hc)).1 hsuffix)).imp_right
        fun hjoins => ?_
      exact hjoins.of_suffix (List.suffix_append ['%', _, _] _)
  | @kept x y byte t out hbyte hc _ ih =>
      obtain ⟨hx, hy⟩ := isAlphanumeric_of_hexByte? hbyte
      rcases (suffix_of_pair hx hy).1 hsuffix with heq | hsuffix
      · obtain ⟨rfl, rfl, -⟩ : a = x ∧ b = y ∧ rest = out := by simpa using heq
        exact .inl ⟨byte, hbyte, hc⟩
      · exact (ih hsuffix).imp_right fun hjoins =>
          hjoins.of_suffix (List.suffix_append ['%', x, y] t)

/-- A `%` of the text is still there when escapes are undone, before what
is made of the rest. -/
theorem Unquotes.exists_suffix (h : Unquotes t plain) (hsuffix : '%' :: w <:+ t) :
    ∃ out, Unquotes ('%' :: w) out ∧ out <:+ plain := by
  induction h with
  | nil => cases List.eq_nil_of_suffix_nil hsuffix
  | plain hc _ ih =>
      obtain ⟨out, hout, hs⟩ := ih ((suffix_of_ne hc).1 hsuffix)
      exact ⟨out, hout, hs.trans (List.suffix_cons _ _)⟩
  | stray hpair hrest ih =>
      rcases List.suffix_cons_iff.1 hsuffix with heq | hsuffix
      · rw [heq]
        exact ⟨_, .stray hpair hrest, List.suffix_refl _⟩
      · obtain ⟨out, hout, hs⟩ := ih hsuffix
        exact ⟨out, hout, hs.trans (List.suffix_cons _ _)⟩
  | undone hbyte hc hrest ih =>
      obtain ⟨ha, hb⟩ := isAlphanumeric_of_hexByte? hbyte
      rcases (suffix_of_pair ha hb).1 hsuffix with rfl | hsuffix
      · exact ⟨_, .undone hbyte hc hrest, List.suffix_refl _⟩
      · obtain ⟨out, hout, hs⟩ := ih hsuffix
        exact ⟨out, hout, hs.trans (List.suffix_cons _ _)⟩
  | kept hbyte hc hrest ih =>
      obtain ⟨ha, hb⟩ := isAlphanumeric_of_hexByte? hbyte
      rcases (suffix_of_pair ha hb).1 hsuffix with rfl | hsuffix
      · exact ⟨_, .kept hbyte hc hrest, List.suffix_refl _⟩
      · obtain ⟨out, hout, hs⟩ := ih hsuffix
        exact ⟨out, hout, hs.trans (List.suffix_append ['%', _, _] _)⟩

theorem Unquotes.exists_of_stray (h : Unquotes ('%' :: t) plain) (hstray : ¬ beginsPair t) :
    ∃ out, Unquotes t out ∧ plain = '%' :: out := by
  cases h with
  | plain hc _ => exact absurd rfl hc
  | stray _ hout => exact ⟨_, hout, rfl⟩
  | undone hbyte _ _ =>
      exact absurd (by simp [beginsPair, isAlphanumeric_of_hexByte? hbyte]) hstray
  | kept hbyte _ _ =>
      exact absurd (by simp [beginsPair, isAlphanumeric_of_hexByte? hbyte]) hstray

theorem Writes.exists_of_unquotes (h : Writes u c) (hc : isUnreserved c)
    (hout : Unquotes (u ++ t) plain) :
    ∃ out, Unquotes t out ∧ plain = c :: out := by
  rcases h with rfl | ⟨x, y, byte, rfl, hbyte, rfl⟩
  · cases hout with
    | plain _ hout => exact ⟨_, hout, rfl⟩
    | stray _ _ => exact absurd hc (by decide)
    | undone _ _ _ => exact absurd hc (by decide)
    | kept _ _ _ => exact absurd hc (by decide)
  · have hpair := isAlphanumeric_of_hexByte? hbyte
    cases hout with
    | plain hne _ => exact absurd rfl hne
    | stray hstray _ => exact absurd (by simp [beginsPair, hpair]) hstray
    | undone hsame _ hout =>
        obtain rfl := Option.some.inj (hbyte.symm.trans hsame)
        exact ⟨_, hout, rfl⟩
    | kept hsame hkept _ =>
        obtain rfl := Option.some.inj (hbyte.symm.trans hsame)
        exact absurd hc hkept

/-- Two letters or digits behind a `%` of the requoted spelling begin an escape that is left,
or were joined to it. -/
theorem staysEscaped_or_joins (h : '%' :: a :: b :: rest <:+ requote t)
    (ha : Unicode.isAlphanumeric a) (hb : Unicode.isAlphanumeric b) :
    StaysEscaped a b ∨ ¬ Broken t ∧ Joins t a b := by
  -- The requoted spelling is of safe characters, so that its letters and digits are those of
  -- ASCII.
  have hascii {c : Char} (hmem : c ∈ ['%', a, b]) (hc : Unicode.isAlphanumeric c) :
      c.isAlphanum := by
    rcases safe_of_mem_requote (h.subset (List.mem_append_left rest hmem)) with
      hunreserved | hreserved | rfl
    · exact isAlphanum_of_isUnreserved hunreserved hc
    · exact absurd hc (not_of_isReserved hreserved).1
    · exact absurd hc (by decide)
  rw [requote] at h
  split at h
  · next plain hplain =>
    have hbroken : ¬ Broken t := by
      rw [← unquoteUnreserved?_eq_none_iff, hplain]
      exact Option.some_ne_none plain
    have hplain := unquoteUnreserved?_eq_some_iff.1 hplain
    rcases suffix_escape (by simp +contextual) h with ⟨x, y, out, heq, hkept⟩ | ⟨-,
        v, hsuffix, heq⟩
    · obtain ⟨rfl, rfl, -⟩ : a = x ∧ b = y ∧ rest = out := by simpa using heq
      exact .inl hkept
    · obtain ⟨out, rfl⟩ := exists_of_escape_pair heq.symm ha hb
      refine (hplain.staysEscaped_or_joins hsuffix (hascii (by simp) ha)
        (hascii (by simp) hb)).imp_right ?_
      exact fun hjoins => ⟨hbroken, hjoins⟩
  · refine .inl ?_
    rcases suffix_escape (by simp +contextual) h with ⟨x, y, out, heq, hkept⟩ | ⟨hpercent, -⟩
    · obtain ⟨rfl, rfl, -⟩ : a = x ∧ b = y ∧ rest = out := by simpa using heq
      exact hkept
    · exact absurd hpercent (by decide)

/-- What is joined stands together in the requoted spelling. -/
theorem Joins.suffix_requote (h : Joins t a b) (hbroken : ¬ Broken t) :
    ∃ rest, '%' :: a :: b :: rest <:+ requote t := by
  obtain ⟨ha, hb, u, v, rest, hsuffix, hu, hv, hplain⟩ := h
  cases hunquoted : unquoteUnreserved? t with
  | none => exact absurd (unquoteUnreserved?_eq_none_iff.1 hunquoted) hbroken
  | some plain =>
      obtain ⟨whole, hwhole, front, rfl⟩ :=
        (unquoteUnreserved?_eq_some_iff.1 hunquoted).exists_suffix hsuffix
      obtain ⟨behind, hbehind, rfl⟩ :=
        hwhole.exists_of_stray (not_beginsPair_of_writes hu hv hplain rest)
      obtain ⟨later, hlater, rfl⟩ :=
        hu.exists_of_unquotes (isUnreserved_of_isAlphanum ha) hbehind
      obtain ⟨out, -, rfl⟩ := hv.exists_of_unquotes (isUnreserved_of_isAlphanum hb) hlater
      refine ⟨escape (fun c => isUnreserved c || isReserved c || c == '%') out, ?_⟩
      simp only [requote, hunquoted, escape_append, escape_cons, isUnreserved_of_isAlphanum ha,
        isUnreserved_of_isAlphanum hb, Bool.true_or, Bool.or_true, beq_self_eq_true, if_true]
      exact List.suffix_append _ _

/-- Requoting again changes nothing exactly if escapes are broken, so that every `%` was
escaped, or if every `%` that letters or digits are joined to begins an escape that is left. -/
theorem requote_requote_eq_iff (t : Text) :
    requote (requote t) = requote t ↔ Broken t ∨ ∀ a b, Joins t a b → StaysEscaped a b := by
  rw [requote_eq_self_iff, and_iff_right fun c => safe_of_mem_requote]
  constructor
  · intro h
    refine or_iff_not_imp_left.2 fun hbroken a b hjoins => ?_
    obtain ⟨rest, hsuffix⟩ := hjoins.suffix_requote hbroken
    exact h a b rest hsuffix (isAlphanumeric_of_isAlphanum hjoins.first)
      (isAlphanumeric_of_isAlphanum hjoins.second)
  · intro h a b rest hsuffix ha hb
    refine (staysEscaped_or_joins hsuffix ha hb).elim id ?_
    rintro ⟨hbroken, hjoins⟩
    exact (h.resolve_left hbroken) a b hjoins

/-- An escaped digit behind a stray `%` is undone to an escape that was not there. -/
theorem requote_not_idempotent : ¬ ∀ t, requote (requote t) = requote t := by
  intro h
  exact absurd (h "%%341".toList) (by decide)

end

end PlainLink.Text
