/-
# Spans in machine words

The whole seconds of a span are held in a word of 64 bits, and the nanoseconds into the
next second in one of 32.  Operations on words are checked here: a sum, a product or a
shift whose result does not fit into a word has none.  So where a computation with words
has a result, none of its steps wrapped.
-/
import Mathlib
import PlainLink.Time.Duration

namespace PlainLink

/-! ## Checked operations -/

namespace Word

variable {width : Nat}

def add? (x y : BitVec width) : Option (BitVec width) :=
  if x.uaddOverflow y then none else some (x + y)

def mul? (x y : BitVec width) : Option (BitVec width) :=
  if x.umulOverflow y then none else some (x * y)

/-- The word with its bits moved up, if it has that many places and no bit
that is set is lost. -/
def shiftLeft? (x : BitVec width) (places : Nat) : Option (BitVec width) :=
  if places < width ∧ x.toNat * 2 ^ places < 2 ^ width then some (x <<< places) else none

/-- The outcome is the number `n`, if that fits into a word, and else there is none. -/
def Exact (outcome : Option (BitVec width)) (n : Nat) : Prop :=
  ∀ z, outcome = some z ↔ z.toNat = n

variable {outcome : Option (BitVec width)} {n : Nat}

theorem Exact.exists_of_lt (h : Exact outcome n) (hn : n < 2 ^ width) :
    ∃ z, outcome = some z ∧ z.toNat = n := by
  have hz : (BitVec.ofNat width n).toNat = n := by
    rw [BitVec.toNat_ofNat, Nat.mod_eq_of_lt hn]
  exact ⟨_, (h _).2 hz, hz⟩

theorem Exact.le_of_none (h : Exact outcome n) (hnone : outcome = none) : 2 ^ width ≤ n := by
  refine Nat.le_of_not_lt fun hlt => ?_
  obtain ⟨z, hz, -⟩ := h.exists_of_lt hlt
  cases hnone.symm.trans hz

theorem exact_ite {overflows : Prop} [Decidable overflows] {z : BitVec width}
    (hfits : ¬ overflows → z.toNat = n) (hlost : overflows → 2 ^ width ≤ n) :
    Exact (if overflows then none else some z) n := by
  intro w
  split
  · next h =>
    have hw := w.isLt
    have hn := hlost h
    exact ⟨nofun, fun heq => by omega⟩
  · next h =>
    rw [Option.some_inj, ← hfits h, BitVec.toNat_inj]
    exact eq_comm

theorem add?_exact (x y : BitVec width) : Exact (add? x y) (x.toNat + y.toNat) :=
  exact_ite BitVec.toNat_add_of_not_uaddOverflow fun h => of_decide_eq_true h

theorem mul?_exact (x y : BitVec width) : Exact (mul? x y) (x.toNat * y.toNat) :=
  exact_ite BitVec.toNat_mul_of_not_umulOverflow fun h => of_decide_eq_true h

/-- A sum with a product is exact if both operations are: the product is no greater. -/
theorem mul?_add?_exact (x y z : BitVec width) :
    Exact ((mul? x y).bind (add? · z)) (x.toNat * y.toNat + z.toNat) := by
  intro w
  cases hproduct : mul? x y with
  | none =>
      have hlost := (mul?_exact x y).le_of_none hproduct
      have hw := w.isLt
      exact ⟨nofun, fun heq => by omega⟩
  | some product =>
      rw [← (mul?_exact x y product).1 hproduct]
      exact add?_exact product z w

theorem shiftLeft?_of_lt {x : BitVec width} {places : Nat} (hplaces : places < width)
    (h : x.toNat * 2 ^ places < 2 ^ width) :
    ∃ z, shiftLeft? x places = some z ∧ z.toNat = x.toNat * 2 ^ places := by
  refine ⟨x <<< places, if_pos ⟨hplaces, h⟩, ?_⟩
  rw [BitVec.toNat_shiftLeft, Nat.shiftLeft_eq, Nat.mod_eq_of_lt h]

end Word

/-! ## Spans -/

namespace Duration

structure Words where
  seconds : BitVec 64
  nanos : BitVec 32
  nanos_lt : nanos.toNat < nanosPerSecond

namespace Words

def duration (w : Words) : Duration :=
  ⟨w.seconds.toNat * nanosPerSecond + w.nanos.toNat⟩

theorem nanos_duration (w : Words) :
    w.duration.nanos = w.seconds.toNat * 1000000000 + w.nanos.toNat :=
  rfl

theorem duration_le (w : Words) : w.duration.nanos ≤ Duration.longest.nanos := by
  have hnanos : w.nanos.toNat < 1000000000 := w.nanos_lt
  have hseconds := w.seconds.isLt
  show w.seconds.toNat * 1000000000 + w.nanos.toNat ≤ 18446744073709551616 * 1000000000 - 1
  omega

theorem exists_words {d : Duration} (h : d.nanos ≤ Duration.longest.nanos) :
    ∃ w : Words, w.duration = d := by
  have hle : d.nanos ≤ 18446744073709551616 * 1000000000 - 1 := h
  have hseconds : (BitVec.ofNat 64 (d.nanos / 1000000000)).toNat = d.nanos / 1000000000 := by
    rw [BitVec.toNat_ofNat, Nat.mod_eq_of_lt]
    omega
  have hnanos : (BitVec.ofNat 32 (d.nanos % 1000000000)).toNat = d.nanos % 1000000000 := by
    rw [BitVec.toNat_ofNat, Nat.mod_eq_of_lt]
    omega
  have hlt : (BitVec.ofNat 32 (d.nanos % 1000000000)).toNat < nanosPerSecond :=
    hnanos.symm ▸ Nat.mod_lt _ (by decide)
  refine ⟨⟨.ofNat 64 (d.nanos / 1000000000), _, hlt⟩, ?_⟩
  obtain ⟨nanos⟩ := d
  refine congrArg Duration.mk ?_
  rw [hseconds, hnanos]
  exact Nat.div_add_mod' nanos 1000000000

def longest : Words :=
  ⟨.allOnes 64, 999999999, by decide⟩

theorem duration_longest : longest.duration = Duration.longest := by
  decide

/-! ### Operations -/

/-- What is left of nanoseconds above whole seconds. -/
def restOf (total : BitVec 64) : BitVec 32 :=
  (total % 1000000000).setWidth 32

theorem toNat_restOf (total : BitVec 64) : (restOf total).toNat = total.toNat % 1000000000 := by
  have hmod : (total % 1000000000).toNat = total.toNat % 1000000000 := BitVec.toNat_umod
  rw [restOf, BitVec.toNat_setWidth, hmod]
  omega

theorem restOf_lt (total : BitVec 64) : (restOf total).toNat < nanosPerSecond :=
  toNat_restOf total ▸ Nat.mod_lt _ (by decide)

/-- A multiple.  Nanoseconds are multiplied first, and whole seconds of them carried over;
if the seconds do not fit, the multiple is the longest span.  That the nanoseconds do not
fit is not provided for. -/
def times? (w : Words) (n : BitVec 32) : Option Words := do
  let total ← Word.mul? (w.nanos.setWidth 64) (n.setWidth 64)
  let carried := total / 1000000000
  match (Word.mul? w.seconds (n.setWidth 64)).bind (Word.add? · carried) with
  | some seconds => some ⟨seconds, restOf total, restOf_lt total⟩
  | none => some longest

/-- Multiples are exact up to the longest span, and the nanoseconds always fit. -/
theorem times?_eq (w : Words) (n : BitVec 32) :
    ∃ v, w.times? n = some v ∧ v.duration = w.duration.times n.toNat := by
  have hwide : (n.setWidth 64).toNat = n.toNat := BitVec.toNat_setWidth_of_le (by decide)
  have hfine : (w.nanos.setWidth 64).toNat = w.nanos.toNat :=
    BitVec.toNat_setWidth_of_le (by decide)
  have hnanos : w.nanos.toNat < 1000000000 := w.nanos_lt
  have hproduct : w.nanos.toNat * n.toNat < 2 ^ 64 :=
    Nat.lt_of_lt_of_le (Nat.mul_lt_mul_of_lt_of_le hnanos (Nat.le_of_lt n.isLt) (by decide))
      (by decide)
  obtain ⟨total, htotal, hvalue⟩ :=
    (Word.mul?_exact (w.nanos.setWidth 64) (n.setWidth 64)).exists_of_lt (by rwa [hfine, hwide])
  rw [hfine, hwide] at hvalue
  have hcarried : (total / 1000000000).toNat = w.nanos.toNat * n.toNat / 1000000000 :=
    BitVec.toNat_udiv.trans (by rw [hvalue]; rfl)
  have hseconds := Word.mul?_add?_exact w.seconds (n.setWidth 64) (total / 1000000000)
  rw [hwide, hcarried] at hseconds
  -- The exact multiple, in seconds and nanoseconds.
  have hexact : w.duration.nanos * n.toNat =
      (w.seconds.toNat * n.toNat + w.nanos.toNat * n.toNat / 1000000000) * 1000000000 +
        w.nanos.toNat * n.toNat % 1000000000 := by
    rw [nanos_duration, Nat.add_mul, Nat.mul_right_comm, Nat.add_mul, Nat.add_assoc,
      Nat.div_add_mod']
  unfold times?
  rw [htotal]
  show ∃ v, (match (Word.mul? w.seconds (n.setWidth 64)).bind
      (Word.add? · (total / 1000000000)) with
    | some seconds => some ⟨seconds, restOf total, restOf_lt total⟩
    | none => some longest) = some v ∧ _
  split
  · next seconds hfits =>
    refine ⟨_, rfl, ?_⟩
    have hle := duration_le ⟨seconds, restOf total, restOf_lt total⟩
    have hsame : (duration ⟨seconds, restOf total, restOf_lt total⟩).nanos =
        w.duration.nanos * n.toNat := by
      rw [hexact, ← (hseconds seconds).1 hfits, ← hvalue, ← toNat_restOf]
      rfl
    rw [hsame] at hle
    exact congrArg Duration.mk (hsame.trans (Nat.min_eq_left hle).symm)
  · next hlost =>
    have hlong := hseconds.le_of_none hlost
    have hle : Duration.longest.nanos ≤ w.duration.nanos * n.toNat := by
      rw [hexact]
      show 18446744073709551616 * 1000000000 - 1 ≤ _
      omega
    refine ⟨longest, rfl, duration_longest.trans ?_⟩
    exact congrArg Duration.mk (Nat.min_eq_right hle).symm

/-- The first span is shorter: its seconds decide, and where they are equal its nanoseconds. -/
def shorter (v w : Words) : Bool :=
  v.seconds < w.seconds || (v.seconds == w.seconds && v.nanos < w.nanos)

theorem shorter_iff {v w : Words} : v.shorter w ↔ v.duration.nanos < w.duration.nanos := by
  have hv : v.nanos.toNat < 1000000000 := v.nanos_lt
  have hw : w.nanos.toNat < 1000000000 := w.nanos_lt
  simp only [shorter, Bool.or_eq_true, Bool.and_eq_true, decide_eq_true_eq, beq_iff_eq,
    BitVec.lt_def, ← BitVec.toNat_inj, nanos_duration]
  omega

def atMost (w bound : Words) : Words :=
  if bound.shorter w then bound else w

theorem duration_atMost (w bound : Words) :
    (w.atMost bound).duration = w.duration.atMost bound.duration := by
  unfold atMost
  split
  · next h =>
    exact congrArg Duration.mk (Nat.min_eq_right (Nat.le_of_lt (shorter_iff.1 h))).symm
  · next h =>
    exact congrArg Duration.mk
      (Nat.min_eq_left (Nat.le_of_not_lt ((not_congr shorter_iff).1 h))).symm

end Words

end Duration

end PlainLink
