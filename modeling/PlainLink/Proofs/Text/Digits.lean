/-
# Numbers in digits

What the readers of numbers accept, in decimal and in hexadecimal digits: a row of
digits with at most a plus sign in front, and a number that does not pass the bound.
Zeros in front do not count, and neither does the case of a hexadecimal digit.

Main statements: `natUpTo?_eq_some_iff`, `hexUpTo?_eq_some_iff`.
-/
import Mathlib.Data.List.Induction
import PlainLink.Text.Number

namespace PlainLink.Text

/-! ## Rows of digits -/

theorem decimalValue_append (s t : Text) :
    decimalValue (s ++ t) = decimalValue s * Nat.pow 10 t.length + decimalValue t := by
  induction t using List.reverseRecOn with
  | nil =>
      show decimalValue (s ++ []) = decimalValue s * 1 + 0
      rw [List.append_nil, Nat.mul_one]
      rfl
  | append_singleton t d ih =>
      have hlast (u : Text) : decimalValue (u ++ [d]) = 10 * decimalValue u + digitValue d := by
        simp [decimalValue]
      have hpower : Nat.pow 10 (t ++ [d]).length = Nat.pow 10 t.length * 10 := by
        rw [List.length_append]
        rfl
      rw [← List.append_assoc, hlast, hlast, ih, hpower, Nat.mul_add, ← Nat.mul_assoc,
        Nat.mul_comm 10, Nat.mul_assoc, Nat.mul_comm 10, Nat.add_assoc]

theorem decimalValue_zeros_behind (t : Text) (zeros : Nat) :
    decimalValue (t ++ List.replicate zeros '0') = decimalValue t * Nat.pow 10 zeros := by
  have hzero : decimalValue (List.replicate zeros '0') = 0 := by
    induction zeros with
    | zero => rfl
    | succ zeros ih => exact ih
  rw [decimalValue_append, hzero, List.length_replicate, Nat.add_zero]

theorem lt_pow_length_ofNat (n : Nat) : n < Nat.pow 10 (ofNat n).length :=
  (Nat.length_toDigits_le_iff (by decide) (List.length_pos_iff.2 (ofNat_ne_nil n))).1
    (Nat.le_refl _)

theorem pow_le_of_length_ofNat {n length : Nat} (hn : 0 < n)
    (h : (ofNat n).length = length + 1) :
    Nat.pow 10 length ≤ n := by
  by_contra hless
  cases length with
  | zero => exact hless hn
  | succ length =>
      have hshort : (ofNat n).length ≤ length + 1 :=
        (Nat.length_toDigits_le_iff (by decide) (Nat.succ_pos length)).2 (Nat.lt_of_not_le hless)
      omega

theorem decimalValue_zeros (zeros : Nat) (t : Text) :
    decimalValue (List.replicate zeros '0' ++ t) = decimalValue t := by
  induction zeros with
  | zero => rfl
  | succ zeros ih => exact ih

theorem eq_nil_of_ofNat_eq {n : Nat} {rest : Text} (h : ofNat n = '0' :: rest) : rest = [] := by
  by_contra hrest
  have hdigits : isDigits rest := by
    have hall := isDigits_ofNat n
    rw [h, isDigits, List.all_cons] at hall
    exact (Bool.and_eq_true_iff.1 hall).2
  have hvalue : decimalValue rest = n := by
    have hzero : decimalValue ('0' :: rest) = decimalValue rest := rfl
    rw [← hzero, ← h, decimalValue_ofNat]
  have hlength := length_ofNat_decimalValue_le hdigits hrest
  rw [hvalue, h, List.length_cons] at hlength
  omega

theorem hexNumber?_zeros (zeros : Nat) (t : Text) :
    hexNumber? (List.replicate zeros '0' ++ t) = hexNumber? t := by
  induction zeros with
  | zero => rfl
  | succ zeros ih => exact ih

theorem hexNumber?_concat (t : Text) (d : Char) :
    hexNumber? (t ++ [d]) = (hexNumber? t).bind fun n => (hexValue? d).map (16 * n + ·) := by
  simp [hexNumber?]

theorem hexNumber?_toDigits (n : Nat) : hexNumber? (Nat.toDigits 16 n) = some n := by
  have hdigit : ∀ d < 16, hexValue? d.digitChar = some d := by decide
  induction n using Nat.strongRecOn with
  | ind n ih =>
      by_cases hn : n < 16
      · rw [Nat.toDigits_of_lt_base hn, ← List.nil_append [n.digitChar], hexNumber?_concat,
          hdigit n hn]
        simp [hexNumber?]
      · have hless : n / 16 < n := by omega
        rw [Nat.toDigits_of_base_le (by decide) (by omega), hexNumber?_concat, ih _ hless,
          hdigit _ (Nat.mod_lt n (by decide))]
        simp only [Option.bind_some, Option.map_some, Nat.div_add_mod]

theorem hexValue?_toLower (c : Char) : hexValue? c.toLower = hexValue? c := by
  by_cases hc : c.val ≥ 'A'.val ∧ c.val ≤ 'Z'.val
  · have hupper : ∀ n ≤ 'Z'.toNat, 'A'.toNat ≤ n →
        hexValue? (Char.ofNat n).toLower = hexValue? (Char.ofNat n) := by decide
    rw [← Char.ofNat_toNat c]
    exact hupper c.toNat hc.2 hc.1
  · have hsame : c.toLower = c := dif_neg hc
    rw [hsame]

theorem hexNumber?_lower (t : Text) : hexNumber? (lower t) = hexNumber? t := by
  induction t using List.reverseRecOn with
  | nil => rfl
  | append_singleton t d ih =>
      rw [lower, List.map_append, List.map_singleton, hexNumber?_concat, hexNumber?_concat,
        hexValue?_toLower, ← lower, ih]

theorem isSome_hexValue?_of_mem {digits : Text} {n : Nat} (h : hexNumber? digits = some n) :
    ∀ d ∈ digits, (hexValue? d).isSome := by
  induction digits using List.reverseRecOn generalizing n with
  | nil => exact nofun
  | append_singleton digits d ih =>
      rw [hexNumber?_concat] at h
      obtain ⟨front, hfront, hlast⟩ := Option.bind_eq_some_iff.1 h
      obtain ⟨value, hvalue, -⟩ := Option.map_eq_some_iff.1 hlast
      intro e he
      rcases List.mem_append.1 he with he | he
      · exact ih hfront e he
      · rw [List.mem_singleton.1 he, hvalue]
        rfl

/-! ## Numbers up to a bound -/

/-- What may stand in front of the digits of a number. -/
def IsSign (sign : Text) : Prop :=
  sign = [] ∨ sign = ['+']

theorem exists_sign (t : Text) : ∃ sign, IsSign sign ∧ t = sign ++ withoutPlus t := by
  unfold withoutPlus
  split
  · exact ⟨['+'], .inr rfl, rfl⟩
  · exact ⟨[], .inl rfl, rfl⟩

theorem withoutPlus_append {sign digits : Text} (hsign : IsSign sign)
    (hplus : digits.head? ≠ some '+') :
    withoutPlus (sign ++ digits) = digits := by
  rcases hsign with rfl | rfl
  · unfold withoutPlus
    split
    · next h => exact absurd (congrArg List.head? h) hplus
    · rfl
  · rfl

theorem natUpTo?_eq_some_iff {most n : Nat} {t : Text} :
    natUpTo? most t = some n ↔ ∃ sign digits, IsSign sign ∧ t = sign ++ digits ∧ digits ≠ [] ∧
      isDigits digits ∧ decimalValue digits = n ∧ n ≤ most := by
  unfold natUpTo?
  constructor
  · intro h
    obtain ⟨sign, hsign, ht⟩ := exists_sign t
    dsimp only at h
    split at h
    · cases h
    · next hread =>
      obtain rfl := Option.some.inj h
      simp only [Bool.or_eq_true, not_or, List.isEmpty_iff, Bool.not_eq_true', Bool.not_eq_false,
        decide_eq_true_eq, Nat.not_lt] at hread
      exact ⟨sign, withoutPlus t, hsign, ht, hread.1.1, hread.1.2, rfl, hread.2⟩
  · rintro ⟨sign, digits, hsign, rfl, hne, hall, rfl, hmost⟩
    have hplus : digits.head? ≠ some '+' := by
      intro hhead
      obtain ⟨rest, rfl⟩ := List.head?_eq_some_iff.1 hhead
      simp [isDigits] at hall
    rw [withoutPlus_append hsign hplus]
    simp [hne, hall, hmost]

theorem head?_ne_of_hexNumber? {digits : Text} {n : Nat} (h : hexNumber? digits = some n) :
    digits.head? ≠ some '+' := by
  intro hhead
  obtain ⟨rest, rfl⟩ := List.head?_eq_some_iff.1 hhead
  have hplus : hexNumber? ('+' :: rest) = none := rfl
  rw [hplus] at h
  cases h

theorem hexUpTo?_eq_some_iff {most n : Nat} {t : Text} :
    hexUpTo? most t = some n ↔ ∃ sign digits, IsSign sign ∧ t = sign ++ digits ∧ digits ≠ [] ∧
      hexNumber? digits = some n ∧ n ≤ most := by
  have hread (digits : Text) :
      ((hexNumber? digits).bind fun n => if most < n then none else some n) =
      some n ↔ hexNumber? digits = some n ∧ n ≤ most := by
    cases hexNumber? digits with
    | none => simp
    | some m =>
        rw [Option.bind_some, Option.some.injEq]
        split
        · next hless => exact iff_of_false nofun fun h => Nat.not_lt.2 (h.1 ▸ h.2) hless
        · next hless =>
          rw [Option.some.injEq, iff_self_and]
          exact fun h => h ▸ Nat.not_lt.1 hless
  unfold hexUpTo?
  constructor
  · intro h
    obtain ⟨sign, hsign, ht⟩ := exists_sign t
    split at h
    · cases h
    · next hdigits => exact ⟨sign, withoutPlus t, hsign, ht, hdigits, (hread _).1 h⟩
  · rintro ⟨sign, digits, hsign, rfl, hne, hvalue, hmost⟩
    rw [withoutPlus_append hsign (head?_ne_of_hexNumber? hvalue)]
    split
    · exact absurd rfl hne
    · exact (hread digits).2 ⟨hvalue, hmost⟩

end PlainLink.Text
