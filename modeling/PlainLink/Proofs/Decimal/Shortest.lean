/-
# Numbers of 64 bits in decimal

A finite number is written with the fewest digits that it is nearest to.  Seventeen
digits always do: then the next decimal is closer than the end of the interval of the
number.  So what is written is rounded to the number when it is read, whichever sign it
has and however its digits are laid out around the point.

Three steps lead there.  The search for digits ends at some that lie in the interval
(`shortest_roundsTo`).  Digits in the interval are neither too large nor too small to be
computed, so they are read as the number (`ofDecimal_eq`).  And the digits that are laid
out around the point, with zeros put in where there are too few, are the same decimal
(`exists_positional`).

Main statements: `shortest_roundsTo`, `ofDecimal_eq`, `exists_positional`.
-/
import Mathlib.Tactic.FieldSimp
import Mathlib.Tactic.Positivity
import PlainLink.Proofs.Decimal.Rounding
import PlainLink.Proofs.Text.Digits

namespace PlainLink.Real64

variable {mantissa : Nat} {exponent : Int}

/-! ## Decimals next to a number -/

/-- One unit of the last decimal place, on the scale of `candidates`. -/
def digitUnit (exponent place : Int) : Nat :=
  Nat.pow 10 place.toNat * Nat.pow 2 (-(exponent - 2)).toNat

/-- A quarter of a unit of the mantissa, on the same scale. -/
def quarterUnit (exponent place : Int) : Nat :=
  Nat.pow 10 (-place).toNat * Nat.pow 2 (exponent - 2).toNat

/-- The decimal lies in the interval of the number. -/
def reads (mantissa : Nat) (exponent place : Int) (digits : Nat) : Bool :=
  let x := digits * digitUnit exponent place
  let low := (4 * mantissa - (halfGaps mantissa exponent).1) * quarterUnit exponent place
  let high := (4 * mantissa + 2) * quarterUnit exponent place
  let even := mantissa % 2 == 0
  (low < x || (even && low == x)) && (x < high || (even && x == high))

/-- The decimals on both sides of the number, the nearer one first. -/
def neighbours (mantissa : Nat) (exponent place : Int) : List Nat :=
  let value := 4 * mantissa * quarterUnit exponent place
  let floor := value / digitUnit exponent place
  let twice := 2 * (value % digitUnit exponent place)
  if twice < digitUnit exponent place ∨ (twice = digitUnit exponent place ∧ floor % 2 = 0) then
    [floor, floor + 1]
  else [floor + 1, floor]

theorem candidates_eq (mantissa : Nat) (exponent place : Int) :
    candidates mantissa exponent place =
      (neighbours mantissa exponent place).filter (reads mantissa exponent place) :=
  rfl

theorem digitUnit_pos (exponent place : Int) : 0 < digitUnit exponent place :=
  Nat.mul_pos (Nat.pow_pos (by decide)) (Nat.pow_pos (by decide))

theorem quarterUnit_pos (exponent place : Int) : 0 < quarterUnit exponent place :=
  Nat.mul_pos (Nat.pow_pos (by decide)) (Nat.pow_pos (by decide))

theorem exists_scale (exponent place : Int) : ∃ scale : ℚ, 0 < scale ∧
    (digitUnit exponent place : ℚ) = 10 ^ place * scale ∧
    (quarterUnit exponent place : ℚ) = 2 ^ (exponent - 2) * scale := by
  have hten := zpow_eq_div 10 place
  have htwo := zpow_eq_div 2 (exponent - 2)
  have htenPos : (0 : ℚ) < (Nat.pow 10 (-place).toNat : ℕ) := by
    exact_mod_cast Nat.pow_pos (by decide)
  have htwoPos : (0 : ℚ) < (Nat.pow 2 (-(exponent - 2)).toNat : ℕ) := by
    exact_mod_cast Nat.pow_pos (by decide)
  rw [Nat.cast_ofNat] at hten htwo
  refine ⟨(Nat.pow 10 (-place).toNat : ℕ) * (Nat.pow 2 (-(exponent - 2)).toNat : ℕ),
    mul_pos htenPos htwoPos, ?_, ?_⟩
  · rw [hten, digitUnit, Nat.cast_mul, ← mul_assoc, div_mul_cancel₀ _ htenPos.ne']
  · rw [htwo, quarterUnit, Nat.cast_mul, mul_left_comm, div_mul_cancel₀ _ htwoPos.ne']

theorem zpow_quarter (exponent : Int) : (2 : ℚ) ^ exponent = 4 * 2 ^ (exponent - 2) := by
  have hfour : (4 : ℚ) = 2 ^ (2 : Int) := by norm_num
  rw [hfour, ← zpow_add₀ (by norm_num)]
  congr 1
  omega

theorem roundsTo_of_reads {place : Int} {digits : Nat} (hm : 0 < mantissa)
    (h : reads mantissa exponent place digits) :
    RoundsTo mantissa exponent (digits * 10 ^ place) := by
  obtain ⟨scale, hscale, hdigit, hquarter⟩ := exists_scale exponent place
  have hgap := halfGaps_le mantissa exponent
  have hx : ((digits * digitUnit exponent place : ℕ) : ℚ) = digits * 10 ^ place * scale := by
    rw [Nat.cast_mul, hdigit, mul_assoc]
  have hlow : (((4 * mantissa - (halfGaps mantissa exponent).1) * quarterUnit exponent
      place : ℕ) : ℚ) =
      (mantissa - (halfGaps mantissa exponent).1 / 4) * 2 ^ exponent * scale := by
    rw [Nat.cast_mul, hquarter, Nat.cast_sub (by omega), zpow_quarter exponent]
    push_cast
    ring
  have hhigh : (((4 * mantissa + 2) * quarterUnit exponent place : ℕ) : ℚ) =
      (mantissa + 1 / 2) * 2 ^ exponent * scale := by
    rw [Nat.cast_mul, hquarter, zpow_quarter exponent]
    push_cast
    ring
  unfold reads at h
  simp only [Bool.and_eq_true, Bool.or_eq_true, decide_eq_true_eq, beq_iff_eq] at h
  obtain ⟨hbelow, habove⟩ := h
  refine ⟨?_, ?_, fun hodd => ⟨?_, ?_⟩⟩
  · refine (mul_le_mul_iff_left₀ hscale).1 ?_
    rw [← hlow, ← hx, Nat.cast_le]
    rcases hbelow with hless | ⟨-, hsame⟩
    · exact hless.le
    · exact hsame.le
  · refine (mul_le_mul_iff_left₀ hscale).1 ?_
    rw [← hhigh, ← hx, Nat.cast_le]
    rcases habove with hless | ⟨-, hsame⟩
    · exact hless.le
    · exact hsame.le
  · refine (mul_lt_mul_iff_left₀ hscale).1 ?_
    rw [← hlow, ← hx, Nat.cast_lt]
    exact hbelow.resolve_right fun heven => by omega
  · refine (mul_lt_mul_iff_left₀ hscale).1 ?_
    rw [← hhigh, ← hx, Nat.cast_lt]
    exact habove.resolve_right fun heven => by omega

/-- The nearer one of the two decimals is no further away than half a unit. -/
theorem exists_neighbours (mantissa : Nat) (exponent place : Int) : ∃ digits more,
    neighbours mantissa exponent place = digits :: more ∧
    2 * (4 * mantissa * quarterUnit exponent place) ≤
      2 * (digits * digitUnit exponent place) + digitUnit exponent place ∧
    2 * (digits * digitUnit exponent place) ≤
      2 * (4 * mantissa * quarterUnit exponent place) + digitUnit exponent place := by
  unfold neighbours
  generalize 4 * mantissa * quarterUnit exponent place = value
  have hpos := digitUnit_pos exponent place
  generalize digitUnit exponent place = unit at hpos
  have hvalue : value / unit * unit + value % unit = value := Nat.div_add_mod' value unit
  have hrest : value % unit < unit := Nat.mod_lt value hpos
  dsimp only
  split
  · next h => exact ⟨value / unit, _, rfl, by omega, by omega⟩
  · next h =>
    have hlarge : unit ≤ 2 * (value % unit) := by
      by_contra hless
      exact h (.inl (by omega))
    refine ⟨value / unit + 1, _, rfl, ?_, ?_⟩
    · rw [Nat.add_mul]
      omega
    · rw [Nat.add_mul]
      omega

/-- Where a decimal place is finer by sixteen powers of ten than the number, half a decimal
unit is less than the interval reaches, on its shorter side too. -/
theorem digitUnit_lt {place : Int} (hlt : mantissa < mantissaBound)
    (hfine : (10 : ℚ) ^ place * 10 ^ 16 ≤ mantissa * 2 ^ exponent) :
    digitUnit exponent place <
      2 * ((halfGaps mantissa exponent).1 * quarterUnit exponent place) := by
  obtain ⟨scale, hscale, hdigit, hquarter⟩ := exists_scale exponent place
  have hunit : digitUnit exponent place * 10 ^ 16 ≤
      4 * (mantissa * quarterUnit exponent place) := by
    have hcast : ((digitUnit exponent place * 10 ^ 16 : ℕ) : ℚ) ≤
        (4 * (mantissa * quarterUnit exponent place) : ℕ) := by
      push_cast
      rw [hdigit, hquarter]
      calc (10 : ℚ) ^ place * scale * 10 ^ 16 = 10 ^ place * 10 ^ 16 * scale := by ring
        _ ≤ mantissa * 2 ^ exponent * scale := mul_le_mul_of_nonneg_right hfine hscale.le
        _ = 4 * (mantissa * (2 ^ (exponent - 2) * scale)) := by
            rw [zpow_quarter exponent]
            ring
    exact_mod_cast hcast
  have hpos := quarterUnit_pos exponent place
  by_cases hpower : mantissa = mantissaBound / 2 ∧ leastExponent < exponent
  · obtain ⟨rfl, hleast⟩ := hpower
    have hbound : mantissaBound / 2 = 2 ^ 52 := by decide
    rw [hbound] at hunit
    rw [halfGaps_power hleast]
    omega
  · have hproduct :
        mantissa * quarterUnit exponent place ≤ (2 ^ 53 - 1) * quarterUnit exponent place :=
      Nat.mul_le_mul_right _ (Nat.le_pred_of_lt hlt)
    rw [halfGaps_of_ne hpower]
    omega

theorem candidates_ne_nil {place : Int} (hm : 0 < mantissa) (hlt : mantissa < mantissaBound)
    (hfine : (10 : ℚ) ^ place * 10 ^ 16 ≤ mantissa * 2 ^ exponent) :
    candidates mantissa exponent place ≠ [] := by
  have hnear := digitUnit_lt hlt hfine
  obtain ⟨digits, more, hneighbours, hbelow, habove⟩ := exists_neighbours mantissa exponent place
  have hreads : reads mantissa exponent place digits := by
    have hgap := Nat.mul_le_mul_right (quarterUnit exponent place)
        (halfGaps_le mantissa exponent)
    have hone := Nat.mul_le_mul_right (quarterUnit exponent place) hm
    have hvalue := Nat.mul_assoc 4 mantissa (quarterUnit exponent place)
    unfold reads
    dsimp only
    rw [Nat.sub_mul, Nat.add_mul]
    have hlow : 4 * mantissa * quarterUnit exponent place -
        (halfGaps mantissa exponent).1 * quarterUnit exponent place <
        digits * digitUnit exponent place := by omega
    have hhigh : digits * digitUnit exponent place <
        4 * mantissa * quarterUnit exponent place + 2 * quarterUnit exponent place := by omega
    simp [hlow, hhigh]
  rw [candidates_eq, hneighbours, List.filter_cons_of_pos hreads]
  exact List.cons_ne_nil digits _

/-! ## The shortest decimal -/

/-- The search ends at a place that has a decimal, if the last one that it may try has one. -/
theorem shortestFrom_mem (count : Nat) {place : Int}
    (h : candidates mantissa exponent (place - count) ≠ []) :
    (shortestFrom mantissa exponent (count + 1) place).1 ∈
      candidates mantissa exponent (shortestFrom mantissa exponent (count + 1) place).2 := by
  induction count generalizing place with
  | zero =>
    have hlast : place - (0 : ℕ) = place := Int.sub_zero place
    rw [hlast] at h
    rw [shortestFrom]
    split
    · next digits more hdigits => exact hdigits ▸ List.mem_cons_self
    · next hnone => exact absurd hnone h
  | succ count ih =>
    rw [shortestFrom]
    split
    · next digits more hdigits => exact hdigits ▸ List.mem_cons_self
    · have hlast : place - (count + 1 : ℕ) = place - 1 - (count : ℕ) := by omega
      rw [hlast] at h
      exact ih h

theorem two_pow_le_ten_pow {a n : ℕ} (h : a ≤ 3 * n) : Nat.pow 2 a ≤ Nat.pow 10 n := by
  calc 2 ^ a ≤ 2 ^ (3 * n) := Nat.pow_le_pow_right (by decide) h
    _ = 8 ^ n := Nat.pow_mul 2 3 n
    _ ≤ 10 ^ n := Nat.pow_le_pow_left (by decide) n

theorem two_pow_le_ten_pow_cast (n : ℕ) : (2 : ℚ) ^ (3 * n) ≤ 10 ^ n := by
  exact_mod_cast two_pow_le_ten_pow (Nat.le_refl (3 * n))

theorem whole_pos {n : ℕ} (hm : 0 < mantissa) (h : (-exponent).toNat ≤ 3 * n) :
    0 < mantissa * Nat.pow 10 n * Nat.pow 2 exponent.toNat / Nat.pow 2 (-exponent).toNat := by
  refine Nat.div_pos ?_ (Nat.pow_pos (by decide))
  calc Nat.pow 2 (-exponent).toNat ≤ Nat.pow 10 n := two_pow_le_ten_pow h
    _ ≤ mantissa * Nat.pow 10 n := Nat.le_mul_of_pos_left _ hm
    _ ≤ mantissa * Nat.pow 10 n * Nat.pow 2 exponent.toNat :=
        Nat.le_mul_of_pos_right _ (Nat.pow_pos (by decide))

/-- A number that is moved up by `n` places has at most as many digits as
its own place allows. -/
theorem pow_length_le {n : ℕ} (hm : 0 < mantissa) (h : (-exponent).toNat ≤ 3 * n) :
    (10 : ℚ) ^ (((Text.ofNat (mantissa * Nat.pow 10 n * Nat.pow 2 exponent.toNat /
      Nat.pow 2 (-exponent).toNat)).length : Int) - (n + 1 : ℕ)) ≤ mantissa * 2 ^ exponent := by
  have hden : 0 < Nat.pow 2 (-exponent).toNat := Nat.pow_pos (by decide)
  have hdenPos : (0 : ℚ) < (Nat.pow 2 (-exponent).toNat : ℕ) := by exact_mod_cast hden
  have hwhole := whole_pos hm h
  generalize hvalue :
    mantissa * Nat.pow 10 n * Nat.pow 2 exponent.toNat / Nat.pow 2 (-exponent).toNat =
    whole at hwhole
  obtain ⟨length, hlength⟩ := Nat.exists_eq_succ_of_ne_zero
    (List.length_pos_iff.2 (Text.ofNat_ne_nil whole)).ne'
  have hpower : (10 : ℚ) ^ length ≤ mantissa * 10 ^ n * 2 ^ exponent := by
    have htwo := zpow_eq_div 2 exponent
    rw [Nat.cast_ofNat] at htwo
    rw [htwo, mul_div_assoc', le_div_iff₀ hdenPos]
    have hproduct :=
      (Nat.le_div_iff_mul_le hden).1 (hvalue ▸ Text.pow_le_of_length_ofNat hwhole hlength)
    exact_mod_cast hproduct
  have hplace : ((length + 1 : ℕ) : Int) - (n + 1 : ℕ) = (length : Int) - (n : ℕ) := by omega
  rw [hlength, hplace, zpow_sub₀ (by norm_num), zpow_natCast, zpow_natCast,
    div_le_iff₀ (by positivity)]
  calc (10 : ℚ) ^ length ≤ mantissa * 10 ^ n * 2 ^ exponent := hpower
    _ = mantissa * 2 ^ exponent * 10 ^ n := by ring

/-- The decimal place of the first digit is not too high: one unit of it is
at most the number. -/
theorem pow_decimalPlace_le (hm : 0 < mantissa) (hleast : leastExponent ≤ exponent) :
    (10 : ℚ) ^ decimalPlace mantissa exponent ≤ mantissa * 2 ^ exponent := by
  have hbound : (-1074 : Int) ≤ exponent := hleast
  -- The power of ten stays unevaluated under a name for its exponent.
  obtain ⟨n, hn⟩ : ∃ n, n = 400 := ⟨400, rfl⟩
  have hplaces : (401 : Int) = (n + 1 : ℕ) := by rw [hn]; rfl
  unfold decimalPlace
  rw [← hn, hplaces]
  exact pow_length_le hm (by omega)

/-- The shortest decimal is nearest to the number: seventeen places are enough. -/
theorem shortest_roundsTo (hm : 0 < mantissa) (hs : Stored mantissa exponent) :
    RoundsTo mantissa exponent
      ((shortest mantissa exponent).1 * 10 ^ (shortest mantissa exponent).2) := by
  have hfine : (10 : ℚ) ^ (decimalPlace mantissa exponent - (16 : ℕ)) * 10 ^ 16 ≤
      mantissa * 2 ^ exponent := by
    refine le_trans (le_of_eq ?_) (pow_decimalPlace_le hm hs.least)
    rw [zpow_sub₀ (by norm_num), zpow_natCast, div_mul_cancel₀ _ (by norm_num)]
  have hmem := shortestFrom_mem 16 (candidates_ne_nil hm hs.lt hfine)
  rw [candidates_eq] at hmem
  exact roundsTo_of_reads hm (List.mem_filter.1 hmem).2

/-! ## Reading a decimal -/

section Size

variable {digits : Nat} {place : Int}

theorem pow_size_le (hdigits : 0 < digits) (place : Int) :
    (10 : ℚ) ^ ((Text.ofNat digits).length + place - 1) ≤ digits * 10 ^ place := by
  obtain ⟨length, hlength⟩ := Nat.exists_eq_succ_of_ne_zero
    (List.length_pos_iff.2 (Text.ofNat_ne_nil digits)).ne'
  have hsize : ((length + 1 : ℕ) : Int) + place - 1 = length + place := by omega
  have hpower : ((Nat.pow 10 length : ℕ) : ℚ) ≤ digits :=
    Nat.cast_le.2 (Text.pow_le_of_length_ofNat hdigits hlength)
  rw [hlength, hsize, zpow_add₀ (by norm_num), zpow_natCast]
  refine mul_le_mul_of_nonneg_right ?_ (zpow_pos (by norm_num) place).le
  exact_mod_cast hpower

theorem lt_pow_size (digits : Nat) (place : Int) :
    (digits : ℚ) * 10 ^ place < 10 ^ ((Text.ofNat digits).length + place) := by
  have hpower : (digits : ℚ) < (Nat.pow 10 (Text.ofNat digits).length : ℕ) :=
    Nat.cast_lt.2 (Text.lt_pow_length_ofNat digits)
  rw [zpow_add₀ (by norm_num), zpow_natCast]
  refine mul_lt_mul_of_pos_right ?_ (zpow_pos (by norm_num) place)
  exact_mod_cast hpower

namespace RoundsTo

variable (h : RoundsTo mantissa exponent (digits * 10 ^ place)) (hm : 0 < mantissa)

include h hm

theorem digits_pos : 0 < digits := by
  refine Nat.pos_of_ne_zero fun hzero => ?_
  have hpos := h.pos hm
  rw [hzero, Nat.cast_zero, zero_mul] at hpos
  exact lt_irrefl 0 hpos

theorem le_size (hs : Stored mantissa exponent) : -400 ≤
    ((Text.ofNat digits).length : Int) + place := by
  by_contra hsmall
  have hleast : (-1074 : Int) ≤ exponent := hs.least
  have hbelow : (digits : ℚ) * 10 ^ place < 10 ^ (-((400 : ℕ) : Int)) :=
    (lt_pow_size digits place).trans_le (zpow_le_zpow_right₀ (by norm_num) (by omega))
  have habove : (2 : ℚ) ^ (-((3 * 400 : ℕ) : Int)) ≤ digits * 10 ^ place :=
    (zpow_le_zpow_right₀ (by norm_num) (by omega)).trans (h.half_le hm)
  have hpowers : (10 : ℚ) ^ (-((400 : ℕ) : Int)) ≤ 2 ^ (-((3 * 400 : ℕ) : Int)) := by
    rw [zpow_neg, zpow_neg, zpow_natCast, zpow_natCast]
    exact inv_anti₀ (by positivity) (two_pow_le_ten_pow_cast 400)
  exact absurd (hbelow.trans_le (hpowers.trans habove)) (lt_irrefl _)

theorem size_le (hs : Stored mantissa exponent) :
    ((Text.ofNat digits).length : Int) + place ≤ 400 := by
  by_contra hlarge
  have hgreatest : exponent ≤ 971 := hs.greatest
  have habove : (10 : ℚ) ^ ((400 : ℕ) : Int) ≤ digits * 10 ^ place :=
    (zpow_le_zpow_right₀ (by norm_num) (by omega)).trans (pow_size_le (h.digits_pos hm) place)
  have hbelow : (digits : ℚ) * 10 ^ place < 2 ^ ((3 * 400 : ℕ) : Int) :=
    (h.lt_of_stored hs).trans_le (zpow_le_zpow_right₀ (by norm_num) (by omega))
  rw [zpow_natCast] at habove hbelow
  exact absurd (habove.trans_lt (hbelow.trans_le (two_pow_le_ten_pow_cast 400))) (lt_irrefl _)

end RoundsTo

/-- A decimal that is nearest to a number is read as the number. -/
theorem ofDecimal_eq (negative : Bool) (hm : 0 < mantissa) (hs : Stored mantissa exponent)
    (h : RoundsTo mantissa exponent (digits * 10 ^ place)) :
    ofDecimal negative digits place = finite negative mantissa exponent := by
  have hdigits := h.digits_pos hm
  have hratio : RoundsTo mantissa exponent
      ((digits * Nat.pow 10 place.toNat : ℕ) / (Nat.pow 10 (-place).toNat : ℕ)) := by
    have hpower := zpow_eq_div 10 place
    rw [Nat.cast_ofNat] at hpower
    rwa [hpower, mul_div_assoc', ← Nat.cast_mul] at h
  unfold ofDecimal
  dsimp only
  rw [if_neg (not_or.2 ⟨hdigits.ne', not_lt.2 (h.le_size hm hs)⟩),
    if_neg (not_lt.2 (h.size_le hm hs))]
  exact hratio.ofRatio_eq negative hs (Nat.mul_pos hdigits (Nat.pow_pos (by decide)))
    (Nat.pow_pos (by decide))

end Size

/-! ## Layout -/

/-- The digits of a number in front of the point: at least one, and no zero
in front of others. -/
structure WholePart (digits : Text) : Prop where
  ne_nil : digits ≠ []
  isDigits : Text.isDigits digits
  leading : ∀ rest, digits = '0' :: rest → rest = []

/-- The digits behind the point: at least one. -/
structure FractionPart (digits : Text) : Prop where
  ne_nil : digits ≠ []
  isDigits : Text.isDigits digits

/-- The number that digits around a point write, as its digits and the
place of the last one. -/
def written (whole fraction : Text) : ℚ :=
  Text.decimalValue (whole ++ fraction) * 10 ^ (-(fraction.length : Int))

theorem isDigits_append {s t : Text} : Text.isDigits (s ++ t) ↔ Text.isDigits s ∧
    Text.isDigits t := by
  simp [Text.isDigits]

theorem isDigits_zeros (zeros : Nat) : Text.isDigits (List.replicate zeros '0') := by
  simp [Text.isDigits]

theorem ofNat_ne_zero_cons {n : Nat} (hn : 0 < n) (rest : Text) :
    Text.ofNat n ≠ '0' :: rest := by
  intro h
  obtain rfl := Text.eq_nil_of_ofNat_eq h
  have hvalue := Text.decimalValue_ofNat n
  rw [h] at hvalue
  exact hn.ne hvalue

theorem written_zeros (whole fraction : Text) (zeros : Nat) :
    written whole (fraction ++ List.replicate zeros '0') = written whole fraction := by
  rw [written, written, ← List.append_assoc, Text.decimalValue_zeros_behind, Nat.pow_eq,
    List.length_append, List.length_replicate]
  push_cast
  rw [neg_add, zpow_add₀ (by norm_num), zpow_neg _ (zeros : Int), zpow_natCast]
  field_simp

/-- A decimal with no digits behind the point is written with a zero there. -/
theorem exists_positional_whole {digits : Nat} (hdigits : 0 < digits) (zeros : Nat) :
    ∃ whole fraction, Text.ofNat digits ++ List.replicate zeros '0' ++ ".0".toList =
        whole ++ '.' :: fraction ∧ WholePart whole ∧ FractionPart fraction ∧
      written whole fraction = digits * 10 ^ (zeros : Int) := by
  refine ⟨Text.ofNat digits ++ List.replicate zeros '0', ['0'], rfl, ⟨?_, ?_, ?_⟩,
    ⟨by decide, by decide⟩, ?_⟩
  · exact List.append_ne_nil_of_left_ne_nil (Text.ofNat_ne_nil digits) _
  · exact isDigits_append.2 ⟨Text.isDigits_ofNat digits, isDigits_zeros zeros⟩
  · intro rest h
    obtain ⟨c, more, hmore⟩ := List.exists_cons_of_ne_nil (Text.ofNat_ne_nil digits)
    rw [hmore] at h
    obtain rfl : c = '0' := (List.cons.inj h).1
    exact absurd hmore (ofNat_ne_zero_cons hdigits more)
  · refine (written_zeros _ [] 1).trans ?_
    rw [written, List.append_nil, Text.decimalValue_zeros_behind,
      Text.decimalValue_ofNat, Nat.pow_eq]
    simp

/-- The fraction is what is left of a row of digits without the zeros at
its end, or one zero. -/
theorem exists_fraction {row : Text} (h : Text.isDigits row) (whole : Text) :
    FractionPart (if (Text.stripEnd (· == '0') row).isEmpty then ['0']
      else Text.stripEnd (· == '0') row) ∧
      written whole (if (Text.stripEnd (· == '0') row).isEmpty then ['0']
        else Text.stripEnd (· == '0') row) = written whole row := by
  obtain ⟨blanks, hrow, hblanks⟩ := Text.exists_stripEnd (· == '0') row
  obtain ⟨zeros, rfl⟩ : ∃ zeros, blanks = List.replicate zeros '0' :=
    ⟨blanks.length, List.eq_replicate_iff.2 ⟨rfl, fun c hc => by simpa using hblanks c hc⟩⟩
  generalize Text.stripEnd (· == '0') row = front at hrow
  subst hrow
  rw [written_zeros]
  split
  · next hempty =>
    obtain rfl := List.isEmpty_iff.1 hempty
    exact ⟨⟨by decide, by decide⟩, written_zeros whole [] 1⟩
  · next hempty => exact ⟨⟨fun hnil => hempty (by rw [hnil]; rfl), (isDigits_append.1 h).1⟩, rfl⟩

/-- A decimal with digits behind the point has zeros in front where it has too few. -/
theorem exists_positional_fraction {digits : Nat} (hdigits : 0 < digits) (places : Nat) :
    ∃ whole row, Text.padded (places + 1) digits = whole ++ row ∧ row.length = places ∧
      WholePart whole ∧ Text.isDigits row ∧
      written whole row = digits * 10 ^ (-(places : Int)) := by
  have hall : Text.isDigits (Text.padded (places + 1) digits) :=
    isDigits_append.2 ⟨isDigits_zeros _, Text.isDigits_ofNat digits⟩
  have hvalue : Text.decimalValue (Text.padded (places + 1) digits) = digits :=
    (Text.decimalValue_zeros _ _).trans (Text.decimalValue_ofNat digits)
  have hlength : (Text.padded (places + 1) digits).length =
      max (places + 1) (Text.ofNat digits).length := by
    unfold Text.padded
    dsimp only
    rw [List.length_append, List.length_replicate]
    omega
  obtain ⟨whole, row, hsplit, hrow⟩ : ∃ whole row,
      Text.padded (places + 1) digits = whole ++ row ∧ row.length = places :=
    ⟨_, _, (List.take_append_drop ((Text.padded (places + 1) digits).length - places) _).symm, by
      rw [List.length_drop]
      omega⟩
  have hwhole : whole.length + places = max (places + 1) (Text.ofNat digits).length := by
    rw [← hlength, hsplit, List.length_append, hrow]
  have hparts := isDigits_append.1 (hsplit ▸ hall)
  refine ⟨whole, row, hsplit, hrow, ⟨?_, hparts.1, fun rest h => ?_⟩, hparts.2, ?_⟩
  · exact List.length_pos_iff.1 (by omega)
  · -- A zero in front is one that was filled in, and then the whole part has room for no more.
    by_contra hrest
    have hlong : 1 < whole.length := by
      rw [h, List.length_cons]
      exact Nat.succ_lt_succ (List.length_pos_iff.2 hrest)
    have hnone : places + 1 - (Text.ofNat digits).length = 0 := by omega
    have hsame : Text.ofNat digits = '0' :: (rest ++ row) := by
      rw [← List.cons_append, ← h, ← hsplit]
      unfold Text.padded
      dsimp only
      rw [hnone]
      rfl
    exact ofNat_ne_zero_cons hdigits _ hsame
  · rw [written, ← hsplit, hvalue, hrow]

/-- A decimal is laid out as digits around a point that write it. -/
theorem exists_positional {digits : Nat} (hdigits : 0 < digits) (place : Int) :
    ∃ whole fraction, positional digits place = whole ++ '.' :: fraction ∧ WholePart whole ∧
      FractionPart fraction ∧ written whole fraction = digits * 10 ^ place := by
  unfold positional
  split
  · next hplace =>
    obtain ⟨zeros, rfl⟩ := Int.eq_ofNat_of_zero_le hplace
    exact exists_positional_whole hdigits zeros
  · next hplace =>
    obtain ⟨places, rfl⟩ : ∃ places : Nat, place = -(places : Int) := ⟨(-place).toNat, by omega⟩
    obtain ⟨whole, row, hsplit, hlength, hwhole, hrow, hvalue⟩ :=
      exists_positional_fraction hdigits places
    obtain ⟨hfraction, hwritten⟩ := exists_fraction hrow whole
    have hplaces : (-(-(places : Int))).toNat = places := by omega
    have hcut : (Text.padded (places + 1) digits).length - places = whole.length := by
      rw [hsplit, List.length_append, hlength]
      omega
    dsimp only
    rw [hplaces, hcut, hsplit, List.take_left, List.drop_left]
    exact ⟨whole, _, rfl, hwhole, hfraction, hwritten.trans hvalue⟩

/-! ## The text of a number -/

/-- The number is one that 64 bits can hold. -/
def IsStored : Real64 → Prop
  | finite _ mantissa exponent => Stored mantissa exponent
  | infinite _ => True
  | nan => True

theorem Stored.eq_least (hs : Stored 0 exponent) : exponent = leastExponent := by
  refine hs.full.resolve_right fun h => ?_
  rw [mantissaBound, Nat.pow_eq] at h
  exact absurd h (by norm_num)

theorem text_zero (negative : Bool) (exponent : Int) :
    (finite negative 0 exponent).text = signed negative "0.0".toList := by
  rw [text, if_pos rfl]

theorem text_of_shortest {digits : Nat} {place : Int} (negative : Bool) (hm : 0 < mantissa)
    (h : shortest mantissa exponent = (digits, place)) :
    (finite negative mantissa exponent).text = signed negative (positional digits place) := by
  rw [text, if_neg hm.ne', h]

theorem ofDecimal_zero (negative : Bool) (place : Int) :
    ofDecimal negative 0 place = finite negative 0 leastExponent := by
  unfold ofDecimal
  exact if_pos (Or.inl rfl)

/-- A finite number is written as digits around a point that are read as the number again. -/
theorem exists_text (negative : Bool) (hs : Stored mantissa exponent) : ∃ whole fraction,
    (finite negative mantissa exponent).text = signed negative (whole ++ '.' :: fraction) ∧
      WholePart whole ∧ FractionPart fraction ∧
      ofDecimal negative (Text.decimalValue (whole ++ fraction)) (-(fraction.length : Int)) =
        finite negative mantissa exponent := by
  rcases Nat.eq_zero_or_pos mantissa with rfl | hm
  · have hzero :
        ofDecimal negative (Text.decimalValue (['0'] ++ ['0']))
        (-((['0'] : Text).length : Int)) =
        finite negative 0 exponent := by
      rw [hs.eq_least]
      exact ofDecimal_zero negative _
    exact ⟨['0'], ['0'], text_zero negative exponent,
      ⟨by decide, by decide, fun rest h => (List.cons.inj h).2.symm⟩,
        ⟨by decide, by decide⟩, hzero⟩
  · obtain ⟨⟨digits, place⟩, hfound⟩ : ∃ found, shortest mantissa exponent = found := ⟨_, rfl⟩
    have hshortest : RoundsTo mantissa exponent (digits * 10 ^ place) := by
      have h := shortest_roundsTo hm hs
      rwa [hfound] at h
    obtain ⟨whole, fraction, htext, hwhole, hfraction, hwritten⟩ :=
      exists_positional (hshortest.digits_pos hm) place
    rw [← hwritten] at hshortest
    exact ⟨whole, fraction,
      (text_of_shortest negative hm hfound).trans (congrArg (signed negative) htext),
      hwhole, hfraction, ofDecimal_eq negative hm hs hshortest⟩

end PlainLink.Real64
