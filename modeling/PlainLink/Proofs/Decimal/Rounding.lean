/-
# Rounding to a number of 64 bits

Around each finite number lies the interval of the ratios that it is nearest to: half a
unit of its mantissa on each side, but only a quarter below a power of two, where the
units of the smaller numbers are half as large.  The ends are included where the
mantissa is even.  Every ratio in the interval is rounded to the number.

`RoundsTo` is the interval, stated over the rational numbers; what is computed is done
in whole numbers, on a scale that depends on the binary place of the ratio.  A ratio
below a power of two is the one case where this scale is not that of the number
(`roundDiv_power`).

Main statement: `RoundsTo.ofRatio_eq`.
-/
import Mathlib.Algebra.Order.Field.Power
import Mathlib.Data.Rat.Cast.Order
import Mathlib.Tactic.Linarith
import Mathlib.Tactic.Ring
import PlainLink.Decimal.Real64

namespace PlainLink.Real64

/-! ## Powers with signed exponents -/

/-- A power as the quotient of two powers that are whole, one of which is one. -/
theorem zpow_eq_div (base : Nat) (exponent : Int) :
    (base : ℚ) ^ exponent = (Nat.pow base exponent.toNat : ℕ) /
    (Nat.pow base (-exponent).toNat : ℕ) := by
  rcases Int.le_total 0 exponent with h | h
  · obtain ⟨n, rfl⟩ := Int.eq_ofNat_of_zero_le h
    have hneg : (-(n : Int)).toNat = 0 := by omega
    simp [hneg]
  · obtain ⟨n, hn⟩ := Int.eq_ofNat_of_zero_le (Int.neg_nonneg_of_nonpos h)
    obtain rfl : exponent = -(n : Int) := by omega
    have hneg : (-(n : Int)).toNat = 0 := by omega
    simp [hneg]

theorem scaled_snd_pos {num den : Nat} (hden : 0 < den) (exponent : Int) :
    0 < (scaled num den exponent).2 :=
  Nat.mul_pos hden (Nat.pow_pos (by decide))

theorem scaled_eq (num den : Nat) (exponent : Int) :
    ((scaled num den exponent).1 : ℚ) / (scaled num den exponent).2 =
      num / den / 2 ^ exponent := by
  have hpower := zpow_eq_div 2 exponent
  rw [Nat.cast_ofNat] at hpower
  rw [hpower, scaled, div_div_div_eq]
  push_cast
  rfl

/-! ## Quotients -/

/-- A quotient that is no further than a half from a whole number, and less far from an odd
one, is rounded to it. -/
theorem roundDiv_eq {num den m : Nat} (hlow : 2 * (m * den) ≤ 2 * num + den)
    (hhigh : 2 * num ≤ 2 * (m * den) + den)
    (hodd : m % 2 = 1 → 2 * (m * den) < 2 * num + den ∧ 2 * num < 2 * (m * den) + den)
    (hden : 0 < den) :
    roundDiv num den = m := by
  obtain ⟨q, r, hr, rfl⟩ : ∃ q r, r < den ∧ num = q * den + r :=
    ⟨num / den, num % den, Nat.mod_lt num hden, (Nat.div_add_mod' num den).symm⟩
  have hq : (q * den + r) / den = q := by
    rw [Nat.mul_comm, Nat.mul_add_div hden, Nat.div_eq_of_lt hr, Nat.add_zero]
  have hmod : (q * den + r) % den = r := by
    rw [Nat.mul_comm, Nat.mul_add_mod, Nat.mod_eq_of_lt hr]
  -- The nearest whole number is the quotient or the next one.
  have hleast : q ≤ m := by
    by_contra hless
    have hmul : (m + 1) * den ≤ q * den := Nat.mul_le_mul_right den (by omega)
    rw [Nat.add_mul] at hmul
    omega
  have hmost : m ≤ q + 1 := by
    by_contra hmore
    have hmul : (q + 2) * den ≤ m * den := Nat.mul_le_mul_right den (by omega)
    rw [Nat.add_mul] at hmul
    omega
  unfold roundDiv
  dsimp only
  rw [hq, hmod]
  rcases Nat.lt_or_ge q m with hless | hsame
  · obtain rfl : m = q + 1 := by omega
    rw [Nat.add_mul, Nat.one_mul] at hlow hodd
    rw [if_pos]
    by_cases hq : q % 2 = 1
    · exact (Nat.lt_or_ge den (2 * r)).imp id fun h => ⟨by omega, hq⟩
    · exact .inl (by have hstrict := (hodd (by omega)).1; omega)
  · obtain rfl : m = q := by omega
    rw [if_neg]
    rintro (h | ⟨h, hq⟩)
    · omega
    · have hstrict := (hodd hq).2
      omega

theorem roundDiv_eq_of_quotient {num den m : Nat} (hden : 0 < den)
    (hlow : (m : ℚ) - 1 / 2 ≤ num / den) (hhigh : (num : ℚ) / den ≤ m + 1 / 2)
    (hodd : m % 2 = 1 → (m : ℚ) - 1 / 2 < num / den ∧ (num : ℚ) / den < m + 1 / 2) :
    roundDiv num den = m := by
  have hpos : (0 : ℚ) < den := by exact_mod_cast hden
  have hlow' := (le_div_iff₀ hpos).1 hlow
  have hhigh' := (div_le_iff₀ hpos).1 hhigh
  refine roundDiv_eq ?_ ?_ (fun hm => ?_) hden
  · have hcast : ((2 * (m * den) : ℕ) : ℚ) ≤ (2 * num + den : ℕ) := by
      push_cast
      linarith
    exact_mod_cast hcast
  · have hcast : ((2 * num : ℕ) : ℚ) ≤ (2 * (m * den) + den : ℕ) := by
      push_cast
      linarith
    exact_mod_cast hcast
  · obtain ⟨hlow, hhigh⟩ := hodd hm
    have hlow' := (lt_div_iff₀ hpos).1 hlow
    have hhigh' := (div_lt_iff₀ hpos).1 hhigh
    have hcast : ((2 * (m * den) : ℕ) : ℚ) < (2 * num + den : ℕ) ∧
        ((2 * num : ℕ) : ℚ) < (2 * (m * den) + den : ℕ) := by
      push_cast
      exact ⟨by linarith, by linarith⟩
    exact_mod_cast hcast

/-! ## Binary places -/

theorem two_zpow_pos (exponent : Int) : (0 : ℚ) < 2 ^ exponent :=
  zpow_pos (by norm_num) exponent

theorem two_zpow_lt_iff {a b : Int} : (2 : ℚ) ^ a < 2 ^ b ↔ a < b :=
  zpow_lt_zpow_iff_right₀ (by norm_num)

theorem two_zpow_log2_le {n : Nat} (hn : 0 < n) : (2 : ℚ) ^ (n.log2 : Int) ≤ n := by
  rw [zpow_natCast]
  exact_mod_cast Nat.log2_self_le hn.ne'

theorem lt_two_zpow_log2 (n : Nat) : (n : ℚ) < 2 ^ ((n.log2 : Int) + 1) := by
  have hcast : (2 : ℚ) ^ ((n.log2 : Int) + 1) = (2 ^ (n.log2 + 1) : ℕ) := by
    exact_mod_cast rfl
  rw [hcast]
  exact_mod_cast Nat.lt_log2_self

/-- A ratio reaches a power of two if it is at least one in units of the power. -/
theorem scaled_snd_le_iff {num den : Nat} (hden : 0 < den) (place : Int) :
    (scaled num den place).2 ≤ (scaled num den place).1 ↔ (2 : ℚ) ^ place ≤ num / den := by
  have hscaled : (0 : ℚ) < (scaled num den place).2 := by
    exact_mod_cast scaled_snd_pos hden place
  rw [← one_le_div₀ (two_zpow_pos place), ← scaled_eq, one_le_div₀ hscaled, Nat.cast_le]

/-- The binary place of a ratio is the exponent of the greatest power of two that
is at most the ratio. -/
theorem binaryPlace_spec {num den : Nat} (hnum : 0 < num) (hden : 0 < den) :
    (2 : ℚ) ^ binaryPlace num den ≤ num / den ∧
    (num : ℚ) / den < 2 ^ (binaryPlace num den + 1) := by
  have hpos : (0 : ℚ) < den := by exact_mod_cast hden
  -- The guess from the lengths is right or too large by one.
  have hlow : (2 : ℚ) ^ ((num.log2 : Int) - den.log2 - 1) ≤ num / den := by
    rw [le_div_iff₀ hpos]
    calc (2 : ℚ) ^ ((num.log2 : Int) - den.log2 - 1) * den
        ≤ 2 ^ ((num.log2 : Int) - den.log2 - 1) * 2 ^ ((den.log2 : Int) + 1) :=
          mul_le_mul_of_nonneg_left (lt_two_zpow_log2 den).le (two_zpow_pos _).le
      _ = 2 ^ (num.log2 : Int) := by
          rw [← zpow_add₀ (by norm_num)]
          congr 1
          omega
      _ ≤ num := two_zpow_log2_le hnum
  have hhigh : (num : ℚ) / den < 2 ^ ((num.log2 : Int) - den.log2 + 1) := by
    rw [div_lt_iff₀ hpos]
    calc (num : ℚ) < 2 ^ ((num.log2 : Int) + 1) := lt_two_zpow_log2 num
      _ = 2 ^ ((num.log2 : Int) - den.log2 + 1) * 2 ^ (den.log2 : Int) := by
          rw [← zpow_add₀ (by norm_num)]
          congr 1
          omega
      _ ≤ 2 ^ ((num.log2 : Int) - den.log2 + 1) * den :=
          mul_le_mul_of_nonneg_left (two_zpow_log2_le hden) (two_zpow_pos _).le
  unfold binaryPlace
  dsimp only
  split
  · next h => exact ⟨(scaled_snd_le_iff hden _).1 h, hhigh⟩
  · next h =>
    rw [Int.sub_add_cancel]
    exact ⟨hlow, not_le.1 fun hle => h ((scaled_snd_le_iff hden _).2 hle)⟩

theorem binaryPlace_lt {num den : Nat} (hnum : 0 < num) (hden : 0 < den) {place : Int}
    (h : (num : ℚ) / den < 2 ^ place) : binaryPlace num den < place :=
  two_zpow_lt_iff.1 ((binaryPlace_spec hnum hden).1.trans_lt h)

theorem le_binaryPlace {num den : Nat} (hnum : 0 < num) (hden : 0 < den) {place : Int}
    (h : (2 : ℚ) ^ place ≤ num / den) : place ≤ binaryPlace num den :=
  Int.lt_add_one_iff.1 (two_zpow_lt_iff.1 (h.trans_lt (binaryPlace_spec hnum hden).2))

/-! ## The interval of a number -/

/-- The mantissa and the exponent are those of a finite number: the mantissa is not too long,
and it is as long as can be unless the exponent is the least one. -/
structure Stored (mantissa : Nat) (exponent : Int) : Prop where
  lt : mantissa < mantissaBound
  least : leastExponent ≤ exponent
  greatest : exponent ≤ greatestExponent
  full : exponent = leastExponent ∨ mantissaBound / 2 ≤ mantissa

/-- The ratio is nearest to `mantissa * 2 ^ exponent`, of two such numbers to the one
with an even mantissa. -/
structure RoundsTo (mantissa : Nat) (exponent : Int) (x : ℚ) : Prop where
  low : (mantissa - (halfGaps mantissa exponent).1 / 4 : ℚ) * 2 ^ exponent ≤ x
  high : x ≤ (mantissa + 1 / 2 : ℚ) * 2 ^ exponent
  odd : mantissa % 2 = 1 →
    (mantissa - (halfGaps mantissa exponent).1 / 4 : ℚ) * 2 ^ exponent < x ∧
    x < (mantissa + 1 / 2 : ℚ) * 2 ^ exponent

theorem halfGaps_of_ne {mantissa : Nat} {exponent : Int}
    (h : ¬ (mantissa = mantissaBound / 2 ∧ leastExponent < exponent)) :
    (halfGaps mantissa exponent).1 = 2 :=
  if_neg h

theorem halfGaps_power {exponent : Int} (h : leastExponent < exponent) :
    (halfGaps (mantissaBound / 2) exponent).1 = 1 :=
  if_pos ⟨rfl, h⟩

theorem cast_mantissaBound_half : ((mantissaBound / 2 : ℕ) : ℚ) = 2 ^ 52 := by
  exact_mod_cast (by decide : mantissaBound / 2 = 2 ^ 52)

theorem halfGaps_le (mantissa : Nat) (exponent : Int) : (halfGaps mantissa exponent).1 ≤ 2 := by
  show (if _ then 1 else 2) ≤ 2
  split <;> decide

variable {mantissa : Nat} {exponent : Int}

/-- The mantissa of a power of two is even, so an odd one has half a unit on both sides. -/
theorem halfGaps_of_odd (h : mantissa % 2 = 1) : (halfGaps mantissa exponent).1 = 2 := by
  refine halfGaps_of_ne fun hpower => ?_
  rw [hpower.1] at h
  revert h
  decide

theorem Stored.cast_add_one_le (h : Stored mantissa exponent) :
    (mantissa : ℚ) + 1 ≤ 2 ^ (53 : Int) := by
  have hlt : mantissa + 1 ≤ 2 ^ 53 := h.lt
  exact_mod_cast hlt

namespace RoundsTo

variable {x : ℚ}

theorem lt_of_stored (h : RoundsTo mantissa exponent x) (hs : Stored mantissa exponent) :
    x < 2 ^ (53 + exponent) := by
  have hpos := two_zpow_pos exponent
  calc x ≤ (mantissa + 1 / 2) * 2 ^ exponent := h.high
    _ < 2 ^ (53 : Int) * 2 ^ exponent := by
        refine mul_lt_mul_of_pos_right ?_ hpos
        linarith [hs.cast_add_one_le]
    _ = 2 ^ (53 + exponent) := (zpow_add₀ (by norm_num) _ _).symm

theorem half_le (h : RoundsTo mantissa exponent x) (hm : 0 < mantissa) :
    (2 : ℚ) ^ (exponent - 1) ≤ x := by
  have hgap : ((halfGaps mantissa exponent).1 : ℚ) ≤ 2 := by
    exact_mod_cast halfGaps_le mantissa exponent
  have hone : (1 : ℚ) ≤ mantissa := by exact_mod_cast hm
  calc (2 : ℚ) ^ (exponent - 1) = 1 / 2 * 2 ^ exponent := by
        rw [zpow_sub₀ (by norm_num), zpow_one]
        ring
    _ ≤ (mantissa - (halfGaps mantissa exponent).1 / 4) * 2 ^ exponent := by
        refine mul_le_mul_of_nonneg_right ?_ (two_zpow_pos exponent).le
        linarith
    _ ≤ x := h.low

theorem pos (h : RoundsTo mantissa exponent x) (hm : 0 < mantissa) : 0 < x :=
  (two_zpow_pos (exponent - 1)).trans_le (h.half_le hm)

/-- Only the number whose mantissa is a power of two is nearest to a ratio
below its binary place. -/
theorem power_of_lt (h : RoundsTo mantissa exponent x) (hs : Stored mantissa exponent)
    (hleast : exponent ≠ leastExponent) (hx : x < 2 ^ (52 + exponent)) :
    mantissa = mantissaBound / 2 := by
  have hfull : mantissaBound / 2 ≤ mantissa := hs.full.resolve_left hleast
  by_contra hne
  have hmore : mantissaBound / 2 + 1 ≤ mantissa := by omega
  have hcast : (2 : ℚ) ^ (52 : Int) + 1 ≤ mantissa := by exact_mod_cast hmore
  have hlow := h.low
  rw [halfGaps_of_ne fun hpower => hne hpower.1] at hlow
  have hbelow : (2 : ℚ) ^ (52 + exponent) ≤ x := by
    calc (2 : ℚ) ^ (52 + exponent) = 2 ^ (52 : Int) * 2 ^ exponent := zpow_add₀ (by norm_num) _ _
      _ ≤ (mantissa - (2 : ℕ) / 4) * 2 ^ exponent := by
          refine mul_le_mul_of_nonneg_right ?_ (two_zpow_pos exponent).le
          push_cast
          linarith
      _ ≤ x := hlow
  exact absurd hx (not_lt.2 hbelow)

theorem roundDiv_eq {num den : Nat} (h : RoundsTo mantissa exponent (num / den))
    (hden : 0 < den) :
    roundDiv (scaled num den exponent).1 (scaled num den exponent).2 = mantissa := by
  have hpos := two_zpow_pos exponent
  have hgap : ((halfGaps mantissa exponent).1 : ℚ) ≤ 2 := by
    exact_mod_cast halfGaps_le mantissa exponent
  have hlow : (mantissa : ℚ) - (halfGaps mantissa exponent).1 / 4 ≤ num / den / 2 ^ exponent :=
    (le_div_iff₀ hpos).2 h.low
  refine roundDiv_eq_of_quotient (scaled_snd_pos hden exponent) ?_ ?_ fun hodd => ?_
  · rw [scaled_eq]
    linarith
  · rw [scaled_eq]
    exact (div_le_iff₀ hpos).2 h.high
  · obtain ⟨hlow, hhigh⟩ := h.odd hodd
    rw [halfGaps_of_odd hodd] at hlow
    have hlow' := (lt_div_iff₀ hpos).2 hlow
    rw [scaled_eq]
    refine ⟨?_, (div_lt_iff₀ hpos).2 hhigh⟩
    push_cast at hlow'
    linarith

/-- In units half as large, a ratio below a power of two that is nearest to it
is rounded up to it. -/
theorem roundDiv_power {num den : Nat} (h : RoundsTo (mantissaBound / 2) exponent (num / den))
    (hleast : leastExponent < exponent) (hden : 0 < den)
    (hx : (num : ℚ) / den < 2 ^ (52 + exponent)) :
    roundDiv (scaled num den (exponent - 1)).1 (scaled num den (exponent - 1)).2 =
      mantissaBound := by
  have hpos := two_zpow_pos (exponent - 1)
  have hdouble : (2 : ℚ) ^ exponent = 2 * 2 ^ (exponent - 1) := by
    rw [← zpow_one_add₀ (by norm_num)]
    congr 1
    omega
  have hwhole : ((mantissaBound : ℕ) : ℚ) = 2 ^ 53 := by
    exact_mod_cast (by decide : mantissaBound = 2 ^ 53)
  have hlow := h.low
  rw [halfGaps_power hleast, cast_mantissaBound_half, hdouble] at hlow
  have hlow' : ((2 : ℚ) ^ 53 - 1 / 2) ≤ num / den / 2 ^ (exponent - 1) := by
    rw [le_div_iff₀ hpos]
    refine le_trans (le_of_eq ?_) hlow
    push_cast
    ring
  have hhigh : (num : ℚ) / den / 2 ^ (exponent - 1) < 2 ^ 53 := by
    rw [div_lt_iff₀ hpos, ← zpow_natCast, ← zpow_add₀ (by norm_num)]
    refine lt_of_lt_of_eq hx ?_
    congr 1
    push_cast
    omega
  refine roundDiv_eq_of_quotient (scaled_snd_pos hden _) ?_ ?_ fun hodd => ?_
  · rw [scaled_eq, hwhole]
    exact hlow'
  · rw [scaled_eq, hwhole]
    linarith
  · exact absurd hodd (by decide)

/-- A ratio is rounded to the number that it is nearest to. -/
theorem ofRatio_eq {num den : Nat} (negative : Bool) (h : RoundsTo mantissa exponent (num / den))
    (hs : Stored mantissa exponent) (hnum : 0 < num) (hden : 0 < den) :
    ofRatio negative num den = finite negative mantissa exponent := by
  have hplace : binaryPlace num den < 53 + exponent :=
    binaryPlace_lt hnum hden (h.lt_of_stored hs)
  have hgreatest : ¬ greatestExponent < exponent := not_lt.2 hs.greatest
  unfold ofRatio
  rw [if_neg hnum.ne']
  dsimp only
  by_cases hunder : exponent ≠ leastExponent ∧ (num : ℚ) / den < 2 ^ (52 + exponent)
  · -- Below a power of two: units half as large, which the rounding leaves again.
    obtain ⟨hleast, hx⟩ := hunder
    have hless : leastExponent < exponent := lt_of_le_of_ne hs.least hleast.symm
    obtain rfl := h.power_of_lt hs hleast hx
    have hbelow : (2 : ℚ) ^ (51 + exponent) ≤ num / den := by
      refine le_trans ?_ h.low
      rw [zpow_add₀ (by norm_num), halfGaps_power hless]
      refine mul_le_mul_of_nonneg_right ?_ (two_zpow_pos exponent).le
      rw [cast_mantissaBound_half]
      norm_num
    have hunit : max (binaryPlace num den - 52) leastExponent = exponent - 1 := by
      have hlow := le_binaryPlace hnum hden hbelow
      have hhigh := binaryPlace_lt hnum hden hx
      omega
    rw [hunit, h.roundDiv_power hless hden hx, if_pos rfl]
    dsimp only
    rw [Int.sub_add_cancel, if_neg hgreatest]
  · have hunit : max (binaryPlace num den - 52) leastExponent = exponent := by
      have hleast := hs.least
      rcases Classical.not_and_iff_not_or_not.1 hunder with hsame | hx
      · have hsame := Classical.not_not.1 hsame
        omega
      · have hlow := le_binaryPlace hnum hden (not_lt.1 hx)
        omega
    rw [hunit, h.roundDiv_eq hden, if_neg hs.lt.ne]
    dsimp only
    rw [if_neg hgreatest]

end RoundsTo

end PlainLink.Real64
