/-
# Punycode

A label with characters outside ASCII is carried over the network in letters, digits and
hyphens.  The ASCII characters come first; then follow numbers of variable length, each
saying how far to move, in the order of code points and positions, to the place of the
next character.
-/
import PlainLink.Text.Basic

namespace PlainLink.Host.Punycode

/-! ## Digits and thresholds -/

def digit (n : Nat) : Char :=
  if n < 26 then Char.ofNat ('a'.toNat + n) else Char.ofNat ('0'.toNat + (n - 26))

/-- The value of a digit of either case. -/
def digitValue? (c : Char) : Option Nat :=
  if c.isDigit then some (c.toNat - '0'.toNat + 26)
  else if c.isLower then some (c.toNat - 'a'.toNat)
  else if c.isUpper then some (c.toNat - 'A'.toNat)
  else none

/-- Halves a distance until it is at most 455, counting 36 for each step. -/
def settle (delta count : Nat) : Nat × Nat :=
  if 455 < delta then settle (delta / 35) (count + 36) else (delta, count)
termination_by delta
decreasing_by omega

/-- The bias after a distance: how long the next number is expected to be. -/
def adapt (delta points : Nat) (first : Bool) : Nat :=
  let delta := if first then delta / 700 else delta / 2
  let (delta, count) := settle (delta + delta / points) 0
  count + 36 * delta / (delta + 38)

/-- The threshold of the digit at the place `k`. -/
def threshold (k bias : Nat) : Nat :=
  if k ≤ bias then 1 else if bias + 26 ≤ k then 26 else k - bias

/-! ## Writing -/

/-- A number in digits of growing place, the last one below its
threshold.  `k` is the place. -/
def writeNumber (q k bias : Nat) : Text :=
  let t := threshold k bias
  if q < t then [digit q]
  else digit (t + (q - t) % (36 - t)) :: writeNumber ((q - t) / (36 - t)) (k + 36) bias
termination_by q
decreasing_by
  have : 1 ≤ threshold k bias := by unfold threshold; split <;> (try split) <;> omega
  have : threshold k bias ≤ 26 := by unfold threshold; split <;> (try split) <;> omega
  have hle : (q - threshold k bias) / (36 - threshold k bias) ≤ q - threshold k bias :=
    Nat.div_le_self _ _
  omega

/-- What is kept while the characters beyond ASCII are written. -/
structure Writer where
  out : Text
  n : Nat
  delta : Nat
  bias : Nat
  written : Nat

/-- One pass over the label at the code point `m`: every smaller character is passed,
every `m` is written. -/
def writePass (label : List Nat) (basic m : Nat) (w : Writer) : Writer :=
  label.foldl
    (fun w c =>
      if c < m then { w with delta := w.delta + 1 }
      else if c = m then
        { w with
          out := w.out ++ writeNumber w.delta 36 w.bias
          bias := adapt w.delta (w.written + 1) (w.written == basic)
          delta := 0
          written := w.written + 1 }
      else w)
    { w with delta := w.delta + (m - w.n) * (w.written + 1) }

/-- Puts a number into a rising list, unless it is there. -/
def insertOnce (n : Nat) : List Nat → List Nat
  | [] => [n]
  | m :: rest =>
    if n < m then n :: m :: rest else if n = m then m :: rest else m :: insertOnce n rest

/-- A label in Punycode, without the marker in front. -/
def encode (label : Text) : Text :=
  let points := label.map Char.toNat
  let ascii := label.filter fun c => c.val < 128
  let basic := ascii.length
  let wanted := (points.filter (128 ≤ ·)).foldr insertOnce []
  let start : Writer :=
    ⟨ascii ++ (if basic = 0 then [] else ['-']), 128, 0, 72, basic⟩
  (wanted.foldl
    (fun w m =>
      let w := writePass points basic m w
      { w with delta := w.delta + 1, n := m + 1 })
    start).out

/-! ## Reading -/

/-- A number at the front of a text, with the rest.  `weight` is the value of the place `k`. -/
def readNumber? (value weight k bias : Nat) : Text → Option (Nat × Text)
  | [] => none
  | c :: rest =>
    match digitValue? c with
    | none => none
    | some d =>
      let value := value + d * weight
      let t := threshold k bias
      if d < t then some (value, rest)
        else readNumber? value (weight * (36 - t)) (k + 36) bias rest

theorem length_lt_of_readNumber? {value weight k bias d : Nat} {t rest : Text}
    (h : readNumber? value weight k bias t = some (d, rest)) : rest.length < t.length := by
  induction t generalizing value weight k with
  | nil => simp [readNumber?] at h
  | cons c cs ih =>
    rw [readNumber?] at h
    split at h
    · cases h
    · dsimp only at h
      split at h
      · cases h
        exact Nat.lt_succ_self _
      · exact Nat.lt_succ_of_lt (ih h)

/-- The label so far, its length, the last code point put in, where it stands, and the bias. -/
structure Reader where
  label : List Nat
  size : Nat
  n : Nat
  place : Nat
  bias : Nat
  first : Bool

/-- Puts in the character that a number announces; `none` if it is no character. -/
def Reader.push? (r : Reader) (distance : Nat) : Option Reader :=
  let i := r.place + distance
  let points := r.size + 1
  let n := r.n + i / points
  let place := i % points
  if n.isValidChar then
    some ⟨r.label.take place ++ n :: r.label.drop place, points, n, place + 1,
      adapt distance points r.first, false⟩
  else none

/-- Reads numbers to the end of the text. -/
def readAll? (r : Reader) (t : Text) : Option (List Nat) :=
  if t.isEmpty then some r.label
  else
    match _read : readNumber? 0 1 36 r.bias t with
    | none => none
    | some (distance, rest) => (r.push? distance).bind (readAll? · rest)
termination_by t.length
decreasing_by exact length_lt_of_readNumber? _read

/-- The label that a text in Punycode stands for; `none` if it is ill-formed. -/
def decode? (t : Text) : Option Text :=
  let (basic, rest) := (Text.splitLast? '-' t).getD ([], t)
  if basic.all fun c => c.val < 128 then
    (readAll? ⟨basic.map Char.toNat, basic.length, 128, 0, 72, true⟩ rest).map (·.map Char.ofNat)
  else none

end PlainLink.Host.Punycode
