/-
# UTF-8 back and forth

The first byte of a character announces how many bytes follow it, and each of them
brings six more bits.  The range of the second byte only keeps out what no character is
encoded as, so the bytes of a text are read as the text.

Main statement: `decode?_encode`.
-/
import PlainLink.Text.Utf8

namespace PlainLink.Utf8

variable {bs : Bytes} {missing bits low high k : Nat}

/-! ## Bytes one by one -/

theorem scan_first {b : UInt8} (hb : ¬ b < 0x80)
    (h : announced? b = some (missing, bits, low, high)) :
    scan none (b :: bs) = scan (some ⟨missing, bits, low, high⟩) bs := by
  rw [scan, if_neg hb, h]

theorem toNat_following (hk : k < 64) : (0x80 + k).toUInt8.toNat = 0x80 + k := by
  rw [Nat.toUInt8, UInt8.toNat_ofNat']
  exact Nat.mod_eq_of_lt (by omega)

theorem scan_following (hk : k < 64) (hlow : low ≤ 0x80 + k) (hhigh : 0x80 + k ≤ high) :
    scan (some ⟨missing + 2, bits, low, high⟩) ((0x80 + k).toUInt8 :: bs) =
      scan (some ⟨missing + 1, 64 * bits + k, 0x80, 0xBF⟩) bs := by
  rw [scan, toNat_following hk, if_pos ⟨hlow, hhigh⟩]
  dsimp only
  rw [if_neg (by omega), Nat.add_sub_cancel_left]
  rfl

theorem scan_last (hk : k < 64) (hlow : low ≤ 0x80 + k) (hhigh : 0x80 + k ≤ high) :
    scan (some ⟨1, bits, low, high⟩) ((0x80 + k).toUInt8 :: bs) =
      some (Char.ofNat (64 * bits + k)) :: scan none bs := by
  rw [scan, toNat_following hk, if_pos ⟨hlow, hhigh⟩]
  dsimp only
  rw [if_pos (Nat.le_refl 1), Nat.add_sub_cancel_left]

theorem announced?_two : ∀ k < 32, k < 2 ∨ ¬ (0xC0 + k).toUInt8 < 0x80 ∧
    announced? (0xC0 + k).toUInt8 = some (1, k, 0x80, 0xBF) := by
  decide

theorem announced?_three :
    ∀ k < 16, ¬ (0xE0 + k).toUInt8 < 0x80 ∧ announced? (0xE0 + k).toUInt8 =
    some (2, k, if k = 0 then 0xA0 else 0x80, if k = 13 then 0x9F else 0xBF) := by
  decide

theorem announced?_four : ∀ k < 5, ¬ (0xF0 + k).toUInt8 < 0x80 ∧ announced? (0xF0 + k).toUInt8 =
    some (3, k, if k = 0 then 0x90 else 0x80, if k = 4 then 0x8F else 0xBF) := by
  decide

/-! ## Characters -/

theorem toNat_range (c : Char) : c.toNat < 0x110000 ∧ (c.toNat < 0xD800 ∨ 0xDFFF < c.toNat) := by
  have hvalid : c.toNat < 0xD800 ∨ 0xDFFF < c.toNat ∧ c.toNat < 0x110000 := c.valid
  omega

theorem scan_encodeChar (c : Char) (bs : Bytes) :
    scan none (encodeChar c ++ bs) = some c :: scan none bs := by
  obtain ⟨hmost, hsurrogate⟩ := toNat_range c
  have hc : ∀ n, n = c.toNat → Char.ofNat n = c := by
    rintro n rfl
    exact Char.ofNat_toNat c
  unfold encodeChar
  dsimp only
  generalize c.toNat = n at *
  split
  · next hone =>
    have hbyte : n.toUInt8.toNat = n := by
      rw [Nat.toUInt8, UInt8.toNat_ofNat']
      exact Nat.mod_eq_of_lt (by omega)
    have hlow : n.toUInt8 < 0x80 := by
      rw [UInt8.lt_iff_toNat_lt, hbyte]
      exact hone
    rw [List.singleton_append, scan, if_pos hlow, hbyte, hc n rfl]
  split
  · obtain ⟨hfirst, hannounced⟩ := (announced?_two (n / 64) (by omega)).resolve_left (by omega)
    show scan none ((0xC0 + n / 64).toUInt8 :: (0x80 + n % 64).toUInt8 :: bs) = _
    rw [scan_first hfirst hannounced, scan_last (by omega) (by omega) (by omega),
      hc _ (by omega)]
  split
  · obtain ⟨hfirst, hannounced⟩ := announced?_three (n / 4096) (by omega)
    show scan none
        ((0xE0 + n / 4096).toUInt8 :: (0x80 + n / 64 % 64).toUInt8 ::
        (0x80 + n % 64).toUInt8 :: bs) = _
    rw [scan_first hfirst hannounced,
      scan_following (by omega) (by split <;> omega) (by split <;> omega),
      scan_last (by omega) (by omega) (by omega), hc _ (by omega)]
  · obtain ⟨hfirst, hannounced⟩ := announced?_four (n / 262144) (by omega)
    show scan none ((0xF0 + n / 262144).toUInt8 :: (0x80 + n / 4096 % 64).toUInt8 ::
      (0x80 + n / 64 % 64).toUInt8 :: (0x80 + n % 64).toUInt8 :: bs) = _
    rw [scan_first hfirst hannounced,
      scan_following (by omega) (by split <;> omega) (by split <;> omega),
      scan_following (by omega) (by omega) (by omega),
      scan_last (by omega) (by omega) (by omega), hc _ (by omega)]

/-! ## Texts -/

theorem scan_encode (t : Text) : scan none (encode t) = t.map some := by
  induction t with
  | nil => rfl
  | cons c t ih =>
    rw [encode, List.flatMap_cons, scan_encodeChar, List.map_cons, ← ih]
    rfl

/-- The bytes of a text are read as the text. -/
theorem decode?_encode (t : Text) : decode? (encode t) = some t := by
  rw [decode?, scan_encode]
  induction t with
  | nil => rfl
  | cons c t ih =>
    rw [List.map_cons, List.mapM_cons, ih]
    rfl

end PlainLink.Utf8
