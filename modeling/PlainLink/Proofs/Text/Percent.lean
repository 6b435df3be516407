/-
# Escaping and back

Whatever characters are escaped, as long as `%` is one of them, undoing the escapes
gives the bytes of the text again.  A text that needs no escape is left as it is,
whether it is escaped or requoted.
-/
import Mathlib.Data.List.Basic
import PlainLink.Text.Percent

namespace PlainLink

/-! ## Bytes of ASCII characters -/

namespace Utf8

theorem encodeChar_of_lt {c : Char} (h : c.toNat < 0x80) : encodeChar c = [c.toNat.toUInt8] :=
  if_pos h

theorem decode_cons {b : UInt8} (h : b < 0x80) (bs : Bytes) :
    decode (b :: bs) = Char.ofNat b.toNat :: decode bs := by
  simp [decode, scan, h]

theorem decode_encode {t : Text} (h : ∀ c ∈ t, c.toNat < 0x80) : decode (encode t) = t := by
  induction t with
  | nil => rfl
  | cons c t ih =>
      obtain ⟨hc, ht⟩ := List.forall_mem_cons.1 h
      have hbyte : c.toNat.toUInt8.toNat = c.toNat := by
        rw [Nat.toUInt8, UInt8.toNat_ofNat']
        exact Nat.mod_eq_of_lt (by omega)
      have hlow : c.toNat.toUInt8 < 0x80 := by
        rw [UInt8.lt_iff_toNat_lt, hbyte]
        exact hc
      have hcons : encode (c :: t) = c.toNat.toUInt8 :: encode t := by
        rw [encode, List.flatMap_cons, encodeChar_of_lt hc]
        rfl
      rw [hcons, decode_cons hlow, hbyte, Char.ofNat_toNat, ih ht]

end Utf8

namespace Text

/-! ## Escapes -/

theorem hexValue?_hexDigit : ∀ n < 16, hexValue? (hexDigit n) = some n := by
  decide

theorem hexByte?_hexDigit (b : UInt8) :
    hexByte? (hexDigit (b.toNat / 16)) (hexDigit (b.toNat % 16)) = some b := by
  have hb := b.toNat_lt
  have hbyte : (16 * (b.toNat / 16) + b.toNat % 16).toUInt8 = b := by
    rw [Nat.div_add_mod]
    exact UInt8.ofNat_toNat
  rw [hexByte?, hexValue?_hexDigit _ (by omega), hexValue?_hexDigit _ (by omega)]
  exact congrArg some hbyte

theorem percentDecode_escapeByte (b : UInt8) (t : Text) :
    percentDecode (escapeByte b ++ t) = b :: percentDecode t := by
  show percentDecode ('%' :: hexDigit (b.toNat / 16) :: hexDigit (b.toNat % 16) :: t) = _
  rw [percentDecode, hexByte?_hexDigit]

theorem percentDecode_escapeBytes (bs : Bytes) (t : Text) :
    percentDecode (bs.flatMap escapeByte ++ t) = bs ++ percentDecode t := by
  induction bs with
  | nil => rfl
  | cons b bs ih => rw [List.flatMap_cons, List.append_assoc, percentDecode_escapeByte, ih]; rfl

theorem percentDecode_cons {c : Char} (hc : c ≠ '%') (t : Text) :
    percentDecode (c :: t) = Utf8.encodeChar c ++ percentDecode t := by
  rw [percentDecode]
  rintro a b rest rfl
  exact absurd rfl hc

theorem escape_cons (safe : Char → Bool) (c : Char) (t : Text) :
    escape safe (c :: t) =
      (if safe c then [c] else (Utf8.encodeChar c).flatMap escapeByte) ++ escape safe t :=
  List.flatMap_cons

theorem escape_append (safe : Char → Bool) (s t : Text) :
    escape safe (s ++ t) = escape safe s ++ escape safe t :=
  List.flatMap_append

theorem isUnreserved_hexDigit : ∀ n < 16, isUnreserved (hexDigit n) := by
  decide

theorem mem_flatMap_escapeByte {c : Char} {bs : Bytes} (h : c ∈ bs.flatMap escapeByte) :
    isUnreserved c ∨ c = '%' := by
  obtain ⟨b, -, hc⟩ := List.mem_flatMap.1 h
  have hb := b.toNat_lt
  simp only [escapeByte, List.mem_cons, List.not_mem_nil, or_false] at hc
  rcases hc with rfl | rfl | rfl
  · exact .inr rfl
  · exact .inl (isUnreserved_hexDigit _ (by omega))
  · exact .inl (isUnreserved_hexDigit _ (by omega))

/-- Escaping leaves characters that need no escape, those that are let pass, and `%`. -/
theorem mem_escape {safe : Char → Bool} {c : Char} {t : Text} (h : c ∈ escape safe t) :
    safe c ∨ isUnreserved c ∨ c = '%' := by
  obtain ⟨d, -, hc⟩ := List.mem_flatMap.1 h
  split at hc
  · next hd => exact .inl (List.mem_singleton.1 hc ▸ hd)
  · exact .inr (mem_flatMap_escapeByte hc)

theorem percentDecode_escape {safe : Char → Bool} (hpercent : ¬ safe '%') (t : Text) :
    percentDecode (escape safe t) = Utf8.encode t := by
  induction t with
  | nil => rfl
  | cons c t ih =>
      rw [escape_cons, Utf8.encode, List.flatMap_cons]
      split
      · next hc =>
        have hne : c ≠ '%' := by
          rintro rfl
          exact hpercent hc
        rw [List.singleton_append, percentDecode_cons hne, ih, Utf8.encode]
      · rw [percentDecode_escapeBytes, ih, Utf8.encode]

theorem unquote_escape {safe : Char → Bool} (hpercent : ¬ safe '%') {t : Text}
    (ht : ∀ c ∈ t, c.toNat < 0x80) : unquote (escape safe t) = t := by
  rw [unquote, percentDecode_escape hpercent, Utf8.decode_encode ht]

/-! ## Texts without escapes -/

theorem escape_eq_self {safe : Char → Bool} {t : Text} (h : ∀ c ∈ t, safe c) :
    escape safe t = t := by
  induction t with
  | nil => rfl
  | cons c t ih =>
      obtain ⟨hc, ht⟩ := List.forall_mem_cons.1 h
      rw [escape_cons, if_pos hc, ih ht]
      rfl

theorem unquoteUnreserved?_eq_self {t : Text} (h : '%' ∉ t) : unquoteUnreserved? t = some t := by
  induction t with
  | nil => rfl
  | cons c t ih =>
      obtain ⟨hc, ht⟩ := List.ne_and_not_mem_of_not_mem_cons h
      rw [unquoteUnreserved?, ih ht]
      · rfl
      · rintro a b rest rfl
        exact absurd rfl hc

/-- A text of characters that may stand in a URL unescaped is its own requoted spelling. -/
theorem requote_eq_self {t : Text} (h : ∀ c ∈ t, isUnreserved c || isReserved c) :
    requote t = t := by
  have hpercent : '%' ∉ t := fun hmem => absurd (h '%' hmem) (by decide)
  rw [requote, unquoteUnreserved?_eq_self hpercent]
  exact escape_eq_self fun c hc => by rw [h c hc]; rfl

end Text

end PlainLink
