/-
# Text as a list of characters

Everything the library takes apart (URLs, header lines, rule patterns, documents) is
taken apart character by character, so text is a list here and every reader recurses on
it.  This module holds the cuts that the readers share: at the first or the last
separator, at the ends, and into pieces.

Each cut stands with the few lemmas by which it is used elsewhere: what it gives is the
text again when it is put together, and where it cuts is told by where the separators
are.  Letters are those of ASCII here, wherever case is left out of account (`lower`,
`sameLetters`).
-/

namespace PlainLink

/-- A text, character by character. -/
abbrev Text := List Char

namespace Text

/-! ## Cutting at a separator -/

/-- The parts before and after the first `sep`; `none` if there is none. -/
def splitFirst? (sep : Char) : Text → Option (Text × Text)
  | [] => none
  | c :: cs =>
    if c = sep then some ([], cs)
    else (splitFirst? sep cs).map fun (before, after) => (c :: before, after)

theorem splitFirst?_eq_some {sep : Char} {t before after : Text}
    (h : splitFirst? sep t = some (before, after)) :
    t = before ++ sep :: after ∧ sep ∉ before := by
  induction t generalizing before with
  | nil => simp [splitFirst?] at h
  | cons c cs ih =>
    unfold splitFirst? at h
    split at h
    · next hc =>
      obtain ⟨rfl, rfl⟩ : [] = before ∧ cs = after := by simpa using h
      exact ⟨by rw [hc]; rfl, by simp⟩
    · next hc =>
      obtain ⟨⟨b, a⟩, hcut, hpair⟩ := Option.map_eq_some_iff.1 h
      obtain ⟨rfl, rfl⟩ : c :: b = before ∧ a = after := by simpa using hpair
      obtain ⟨rfl, hb⟩ := ih hcut
      exact ⟨rfl, by simpa [hb] using Ne.symm hc⟩

/-- What is put together around a separator is cut there, if it is the first one. -/
theorem splitFirst?_append {sep : Char} {before : Text} (h : sep ∉ before) (after : Text) :
    splitFirst? sep (before ++ sep :: after) = some (before, after) := by
  induction before with
  | nil => simp [splitFirst?]
  | cons c cs ih =>
    obtain ⟨hc, hcs⟩ : sep ≠ c ∧ sep ∉ cs := by simpa using h
    rw [List.cons_append, splitFirst?, if_neg (Ne.symm hc), ih hcs]
    rfl

theorem splitFirst?_eq_none_iff {sep : Char} {t : Text} :
    splitFirst? sep t = none ↔ sep ∉ t := by
  induction t with
  | nil => simp [splitFirst?]
  | cons c cs ih =>
    unfold splitFirst?
    split
    · next hc => simp [hc]
    · next hc => simp [ih, Ne.symm hc]

/-- The parts before and after the last `sep`; `none` if there is none. -/
def splitLast? (sep : Char) : Text → Option (Text × Text)
  | [] => none
  | c :: cs =>
    match splitLast? sep cs with
    | some (before, after) => some (c :: before, after)
    | none => if c = sep then some ([], cs) else none

theorem splitLast?_eq_none_iff {sep : Char} {t : Text} : splitLast? sep t = none ↔ sep ∉ t := by
  induction t with
  | nil => simp [splitLast?]
  | cons c cs ih =>
    unfold splitLast?
    split
    · next before after hcut =>
      have hcs : sep ∈ cs := by
        by_cases h : sep ∈ cs
        · exact h
        · rw [ih.2 h] at hcut
          cases hcut
      simp [hcs]
    · next hnone =>
      have hcs := ih.1 hnone
      by_cases hc : c = sep
      · simp [hc]
      · simp [hc, hcs, Ne.symm hc]

/-- A cut at the last separator loses nothing but that separator, and it is the last one. -/
theorem splitLast?_eq_some {sep : Char} {t before after : Text}
    (h : splitLast? sep t = some (before, after)) :
    t = before ++ sep :: after ∧ sep ∉ after := by
  induction t generalizing before with
  | nil => simp [splitLast?] at h
  | cons c cs ih =>
    unfold splitLast? at h
    split at h
    · next b a hcut =>
      obtain ⟨rfl, rfl⟩ : c :: b = before ∧ a = after := by simpa using h
      obtain ⟨rfl, ha⟩ := ih hcut
      exact ⟨rfl, ha⟩
    · next hnone =>
      split at h
      · next hc =>
        obtain ⟨rfl, rfl⟩ : [] = before ∧ cs = after := by simpa using h
        exact ⟨by rw [hc]; rfl, splitLast?_eq_none_iff.1 hnone⟩
      · cases h

/-- What is put together around a separator is cut there, if it is the last one. -/
theorem splitLast?_append {sep : Char} {after : Text} (before : Text) (h : sep ∉ after) :
    splitLast? sep (before ++ sep :: after) = some (before, after) := by
  induction before with
  | nil => simp [splitLast?, splitLast?_eq_none_iff.2 h]
  | cons c cs ih => rw [List.cons_append, splitLast?, ih]

/-- The longest beginning without a character of the class `p`, and what follows it. -/
def cutBefore (p : Char → Bool) (t : Text) : Text × Text :=
  (t.takeWhile fun c => !p c, t.dropWhile fun c => !p c)

theorem cutBefore_append (p : Char → Bool) (t : Text) :
    (cutBefore p t).1 ++ (cutBefore p t).2 = t :=
  List.takeWhile_append_dropWhile

theorem cutBefore_free {p : Char → Bool} {t : Text} : ∀ c ∈ (cutBefore p t).1, ¬ p c := by
  intro c hc
  simpa using List.all_eq_true.1 (List.all_takeWhile (p := fun c => !p c) (l := t)) c hc

theorem cutBefore_head {p : Char → Bool} {t : Text} : ∀ c ∈ (cutBefore p t).2.head?, p c := by
  intro c hc
  have h := List.head?_dropWhile_not (fun c => !p c) t
  rw [show (t.dropWhile fun c => !p c).head? = some c from hc] at h
  simpa using h

theorem forall_head_cons {p : Char → Prop} {c : Char} (h : p c) (t : Text) :
    ∀ d ∈ (c :: t).head?, p d := by
  intro d hd
  obtain rfl := Option.some.inj hd
  exact h

/-- The characters of a class at the front are those before the first other one. -/
theorem takeWhile_front {p : Char → Bool} {front t : Text} (hfront : ∀ c ∈ front, p c)
    (ht : ∀ c ∈ t.head?, ¬ p c) : (front ++ t).takeWhile p = front := by
  have hstop : t.takeWhile p = [] := by
    cases t with
    | nil => rfl
    | cons c cs => exact List.takeWhile_cons_of_neg (ht c rfl)
  rw [List.takeWhile_append_of_pos hfront, hstop, List.append_nil]

theorem dropWhile_front {p : Char → Bool} {front t : Text} (hfront : ∀ c ∈ front, p c)
    (ht : ∀ c ∈ t.head?, ¬ p c) : (front ++ t).dropWhile p = t := by
  have hstop : t.dropWhile p = t := by
    cases t with
    | nil => rfl
    | cons c cs => exact List.dropWhile_cons_of_neg (ht c rfl)
  rw [List.dropWhile_append_of_pos hfront, hstop]

/-- What is left without the characters at the front of a class is what follows them. -/
theorem drop_length_takeWhile (p : Char → Bool) (t : Text) :
    t.drop (t.takeWhile p).length = t.dropWhile p := by
  calc t.drop (t.takeWhile p).length
      = (t.takeWhile p ++ t.dropWhile p).drop (t.takeWhile p).length := by
        rw [List.takeWhile_append_dropWhile]
    _ = t.dropWhile p := List.drop_left

theorem cutBefore_of_free {p : Char → Bool} {front t : Text} (hfront : ∀ c ∈ front, ¬ p c)
    (ht : ∀ c ∈ t.head?, p c) : cutBefore p (front ++ t) = (front, t) := by
  have hfront' : ∀ c ∈ front, (!p c) = true := fun c hc => by simpa using hfront c hc
  have ht' : ∀ c ∈ t.head?, ¬ (!p c) = true := fun c hc => by simpa using ht c hc
  rw [cutBefore, takeWhile_front hfront' ht', dropWhile_front hfront' ht']

/-- The text after `lead`, if it begins with it. -/
def after? (lead : Text) (t : Text) : Option Text :=
  lead.isPrefixOf? t

/-- Pieces put together with `sep` between neighbours. -/
def join (sep : Text) : List Text → Text
  | [] => []
  | [piece] => piece
  | piece :: more => piece ++ sep ++ join sep more

theorem join_eq_intercalate (sep : Text) (pieces : List Text) :
    join sep pieces = sep.intercalate pieces := by
  induction pieces with
  | nil => rfl
  | cons piece more ih =>
    cases more with
    | nil => exact List.intercalate_singleton.symm
    | cons next more => rw [join, List.intercalate_cons_cons, ih]; exact nofun

theorem join_splitOn (sep : Char) (t : Text) : join [sep] (t.splitOn sep) = t := by
  rw [join_eq_intercalate, List.intercalate_splitOn]

theorem not_mem_of_mem_splitOn {sep : Char} {t piece : Text} (h : piece ∈ t.splitOn sep) :
    sep ∉ piece := by
  induction t generalizing piece with
  | nil =>
    obtain rfl : piece = [] := by simpa using h
    exact List.not_mem_nil
  | cons c cs ih =>
    rw [List.splitOn_cons_eq_if_modifyHead] at h
    split at h
    · rcases List.mem_cons.1 h with rfl | h
      · exact List.not_mem_nil
      · exact ih h
    · next hc =>
      obtain ⟨first, more, hcut⟩ := List.exists_cons_of_ne_nil (List.splitOn_ne_nil sep cs)
      rw [hcut] at h ih
      rcases List.mem_cons.1 h with rfl | h
      · have hc : sep ≠ c := fun hsep => hc (by simp [hsep])
        simpa [hc] using ih List.mem_cons_self
      · exact ih (List.mem_cons_of_mem first h)

theorem splitOn_append {sep : Char} {lead : Text} (h : sep ∉ lead) (t : Text) :
    (lead ++ t).splitOn sep = (t.splitOn sep).modifyHead (lead ++ ·) := by
  induction lead with
  | nil => exact (congrFun List.modifyHead_id _).symm
  | cons c lead ih =>
    obtain ⟨hc, hlead⟩ : sep ≠ c ∧ sep ∉ lead := by simpa using h
    rw [List.cons_append, List.splitOn_cons_eq_if_modifyHead, if_neg (by simpa using Ne.symm hc),
      ih hlead, List.modifyHead_modifyHead]
    rfl

/-- What is put together from pieces is cut into them again; a lead after the separator stays
with the piece that it is before. -/
theorem splitOn_join {sep : Char} {lead piece : Text} {more : List Text} (hlead : sep ∉ lead)
    (hpieces : ∀ t ∈ piece :: more, sep ∉ t) :
    (join (sep :: lead) (piece :: more)).splitOn sep = piece :: more.map (lead ++ ·) := by
  induction more generalizing piece with
  | nil => exact List.splitOn_eq_singleton (hpieces piece List.mem_cons_self)
  | cons next more ih =>
    have hrest := ih fun t ht => hpieces t (List.mem_cons_of_mem piece ht)
    have hpiece := hpieces piece List.mem_cons_self
    rw [join, List.append_assoc, List.cons_append,
      List.splitOn_append_cons_self_of_not_mem hpiece, splitOn_append hlead, hrest]
    · rfl
    · exact List.cons_ne_nil next more

theorem join_sublist (sep : Text) {pieces more : List Text} (h : pieces.Sublist more) :
    (join sep pieces).Sublist (join sep more) := by
  induction h with
  | slnil => exact .refl _
  | @cons pieces more piece h ih =>
    cases more with
    | nil =>
      obtain rfl := List.sublist_nil.1 h
      exact List.nil_sublist _
    | cons next more => exact ih.trans (List.sublist_append_right _ _)
  | @cons_cons pieces more piece h ih =>
    cases more with
    | nil =>
      obtain rfl := List.sublist_nil.1 h
      exact .refl _
    | cons next more =>
      cases pieces with
      | nil => exact (List.sublist_append_left _ _).trans (List.sublist_append_left _ _)
      | cons first pieces => exact (List.Sublist.refl _).append ih

/-- How many bytes the text takes in UTF-8. -/
def byteLength (t : Text) : Nat :=
  t.foldr (fun c n => c.utf8Size + n) 0

/-! ## Letters, digits and case within ASCII -/

/-- ASCII letters in lower case, every other character as it is. -/
def lower (t : Text) : Text :=
  t.map Char.toLower

/-- ASCII letters in upper case, every other character as it is. -/
def upper (t : Text) : Text :=
  t.map Char.toUpper

/-- Equality up to the case of ASCII letters. -/
def sameLetters (s t : Text) : Bool :=
  lower s == lower t

/-- The text after `lead`, if it begins with it up to the case of ASCII letters. -/
def afterLetters? : (lead t : Text) → Option Text
  | [], t => some t
  | _ :: _, [] => none
  | a :: lead, c :: cs => if a.toLower = c.toLower then afterLetters? lead cs else none

def isAscii (t : Text) : Bool :=
  t.all fun c => c.val < 128

/-- Only ASCII decimal digits occur. -/
def isDigits (t : Text) : Bool :=
  t.all Char.isDigit

def digitValue (c : Char) : Nat :=
  c.toNat - '0'.toNat

/-- The number that a row of decimal digits writes. -/
def decimalValue (t : Text) : Nat :=
  t.foldl (fun n c => 10 * n + digitValue c) 0

/-- The value of a hexadecimal digit of either case. -/
def hexValue? (c : Char) : Option Nat :=
  if '0' ≤ c ∧ c ≤ '9' then some (c.toNat - '0'.toNat)
  else if 'a' ≤ c ∧ c ≤ 'f' then some (c.toNat - 'a'.toNat + 10)
  else if 'A' ≤ c ∧ c ≤ 'F' then some (c.toNat - 'A'.toNat + 10)
  else none

/-- An upper-case hexadecimal digit. -/
def hexDigit (n : Nat) : Char :=
  if n < 10 then Char.ofNat ('0'.toNat + n) else Char.ofNat ('A'.toNat + (n - 10))

/-- The number that a row of hexadecimal digits writes; `none` if another character occurs. -/
def hexNumber? (t : Text) : Option Nat :=
  t.foldlM (fun n c => (hexValue? c).map (16 * n + ·)) 0

def ofNat (n : Nat) : Text :=
  Nat.toDigits 10 n

theorem digitValue_lt {c : Char} (h : c.isDigit) : digitValue c < 10 := by
  have hnine : c.toNat ≤ 57 := (Char.isDigit_iff_toNat.1 h).2
  show c.toNat - 48 < 10
  omega

theorem decimalValue_lt {t : Text} (h : isDigits t) : decimalValue t < Nat.pow 10 t.length := by
  -- For the number `n` written so far, the rest of the digits stays below the next round
  -- number.
  have hfold : ∀ n, t.foldl (fun n c => 10 * n + digitValue c) n <
      (n + 1) * Nat.pow 10 t.length := by
    induction t with
    | nil => exact fun n => Nat.lt_of_lt_of_eq (Nat.lt_succ_self n) (Nat.mul_one _).symm
    | cons c t ih =>
      intro n
      obtain ⟨hc, ht⟩ : c.isDigit ∧ isDigits t := by simpa [isDigits] using h
      have hdigit : 10 * n + digitValue c + 1 ≤ (n + 1) * 10 := by
        have hten := digitValue_lt hc
        omega
      have hpower : Nat.pow 10 (c :: t).length = 10 * Nat.pow 10 t.length := Nat.mul_comm _ _
      rw [hpower, ← Nat.mul_assoc]
      exact Nat.lt_of_lt_of_le (ih ht _) (Nat.mul_le_mul_right _ hdigit)
  exact Nat.lt_of_lt_of_eq (hfold 0) (Nat.one_mul _)

theorem length_ofNat_decimalValue_le {t : Text} (h : isDigits t) (ht : t ≠ []) :
    (ofNat (decimalValue t)).length ≤ t.length :=
  (Nat.length_toDigits_le_iff (by decide) (List.length_pos_iff.2 ht)).2 (decimalValue_lt h)

theorem isDigits_ofNat (n : Nat) : isDigits (ofNat n) :=
  List.all_eq_true.2 fun _ hc => Nat.isDigit_of_mem_toDigits (by decide) (by decide) hc

theorem ofNat_ne_nil (n : Nat) : ofNat n ≠ [] :=
  Nat.toDigits_ne_nil

theorem decimalValue_ofNat (n : Nat) : decimalValue (ofNat n) = n :=
  Nat.ofDigitChars_toDigits (by decide) (by decide)

/-- A number in decimal digits, filled up with zeros to at least `width`. -/
def padded (width n : Nat) : Text :=
  let digits := ofNat n
  List.replicate (width - digits.length) '0' ++ digits

/-! ## Blanks at the ends -/

/-- The characters of Unicode's property `White_Space`. -/
def isBlank (c : Char) : Bool :=
  let n := c.toNat
  (9 ≤ n && n ≤ 13) || n == 0x20 || n == 0x85 || n == 0xA0 || n == 0x1680
    || (0x2000 ≤ n && n ≤ 0x200A) || n == 0x2028 || n == 0x2029 || n == 0x202F
    || n == 0x205F || n == 0x3000

/-- Without the characters of the class `p` at either end. -/
def strip (p : Char → Bool) (t : Text) : Text :=
  ((t.dropWhile p).reverse.dropWhile p).reverse

/-- Without the characters of the class `p` at the end. -/
def stripEnd (p : Char → Bool) (t : Text) : Text :=
  (t.reverse.dropWhile p).reverse

theorem isPrefix_stripEnd (p : Char → Bool) (t : Text) : stripEnd p t <+: t := by
  rw [stripEnd, ← List.reverse_suffix, List.reverse_reverse]
  exact List.dropWhile_suffix p

/-- What ends with a character outside the class stays, and only what
follows it is stripped. -/
theorem stripEnd_append {p : Char → Bool} {last : Char} (hlast : ¬ p last) (front t : Text) :
    stripEnd p (front ++ last :: t) = front ++ last :: stripEnd p t := by
  have hreverse : (front ++ last :: t).reverse = t.reverse ++ last :: front.reverse := by simp
  have hkept : (last :: front.reverse).dropWhile p = last :: front.reverse :=
    List.dropWhile_cons_of_neg hlast
  rw [stripEnd, stripEnd, hreverse, List.dropWhile_append]
  split
  · next hall =>
    rw [hkept, List.isEmpty_iff.1 hall]
    simp
  · simp

theorem exists_stripEnd (p : Char → Bool) (t : Text) :
    ∃ blanks : Text, t = stripEnd p t ++ blanks ∧ ∀ c ∈ blanks, p c := by
  refine ⟨(t.reverse.takeWhile p).reverse, ?_, ?_⟩
  · rw [stripEnd, ← List.reverse_append, List.takeWhile_append_dropWhile, List.reverse_reverse]
  · intro c hc
    exact List.all_eq_true.1 (List.all_takeWhile (p := p)) c (List.mem_reverse.1 hc)

theorem stripEnd_append_of_all {p : Char → Bool} {blanks : Text}
    (h : ∀ c ∈ blanks, p c) (t : Text) :
    stripEnd p (t ++ blanks) = stripEnd p t := by
  have hreverse : ∀ c ∈ blanks.reverse, p c := fun c hc => h c (List.mem_reverse.1 hc)
  rw [stripEnd, List.reverse_append, List.dropWhile_append_of_pos hreverse]
  rfl

/-- Nothing is stripped exactly where the last character, if there is one,
is outside the class. -/
theorem stripEnd_eq_self_iff {p : Char → Bool} {t : Text} :
    stripEnd p t = t ↔ ∀ c ∈ t.getLast?, ¬ p c := by
  rw [stripEnd, ← List.head?_reverse, List.reverse_eq_iff]
  cases t.reverse with
  | nil => simp
  | cons c cs =>
    by_cases hc : p c
    · have hlength := (List.dropWhile_suffix p (l := cs)).length_le
      simp only [List.dropWhile_cons_of_pos hc, List.head?_cons, Option.mem_some_iff,
        forall_eq', hc, not_true, iff_false]
      intro h
      rw [h, List.length_cons] at hlength
      omega
    · simp [List.dropWhile_cons_of_neg hc, hc]

def trim (t : Text) : Text :=
  strip isBlank t

def trimEnd (t : Text) : Text :=
  stripEnd isBlank t

theorem isPrefix_trimEnd (t : Text) : trimEnd t <+: t :=
  isPrefix_stripEnd isBlank t

theorem head_strip {p : Char → Bool} {t : Text} : ∀ c ∈ (strip p t).head?, ¬ p c := by
  intro c hc
  obtain ⟨rest, hrest⟩ : strip p t <+: t.dropWhile p := isPrefix_stripEnd p (t.dropWhile p)
  have hfirst : (t.dropWhile p).head? = some c := by rw [← hrest, List.head?_append, hc]; rfl
  simpa [hfirst] using List.head?_dropWhile_not p t

theorem getLast_strip {p : Char → Bool} {t : Text} : ∀ c ∈ (strip p t).getLast?, ¬ p c := by
  intro c hc
  rw [strip, List.getLast?_reverse] at hc
  have hlast : ((t.dropWhile p).reverse.dropWhile p).head? = some c := hc
  simpa [hlast] using List.head?_dropWhile_not p (t.dropWhile p).reverse

theorem strip_sublist (p : Char → Bool) (t : Text) : (strip p t).Sublist t :=
  (isPrefix_stripEnd p (t.dropWhile p)).sublist.trans (List.dropWhile_sublist p)

theorem strip_eq_self {p : Char → Bool} {t : Text} (hfirst : ∀ c ∈ t.head?, ¬ p c)
    (hlast : ∀ c ∈ t.getLast?, ¬ p c) : strip p t = t := by
  have hdrop : t.dropWhile p = t := by
    cases t with
    | nil => rfl
    | cons c cs => exact List.dropWhile_cons_of_neg (hfirst c rfl)
  show stripEnd p (t.dropWhile p) = t
  rw [hdrop, stripEnd_eq_self_iff.2 hlast]

theorem trim_cons {first : Char} (hfirst : ¬ isBlank first) (t : Text) :
    trim (first :: t) = trimEnd (first :: t) := by
  rw [trim, strip, List.dropWhile_cons_of_neg hfirst]
  rfl

theorem strip_append_of_all {p : Char → Bool} {blanks : Text}
    (h : ∀ c ∈ blanks, p c) (t : Text) :
    strip p (t ++ blanks) = strip p t := by
  show stripEnd p ((t ++ blanks).dropWhile p) = stripEnd p (t.dropWhile p)
  rw [List.dropWhile_append]
  split
  · next hall =>
    have hnone : (blanks ++ []).dropWhile p = [] := List.dropWhile_append_of_pos h
    rw [List.append_nil] at hnone
    rw [List.isEmpty_iff.1 hall, hnone]
  · exact stripEnd_append_of_all h _

theorem trim_trimEnd (t : Text) : trim (trimEnd t) = trim t := by
  obtain ⟨blanks, ht, hblanks⟩ := exists_stripEnd isBlank t
  calc trim (trimEnd t) = trim (trimEnd t ++ blanks) := (strip_append_of_all hblanks _).symm
    _ = trim t := congrArg trim ht.symm

theorem trim_of_all {t : Text} (h : ∀ c ∈ t, isBlank c) : trim t = [] :=
  strip_append_of_all h []

/-- Where no blank stands at the front of a text, or in front of its separator, the
separator stays where it is. -/
theorem trim_append_cons {front : Text} {sep : Char} (hfront : ∀ c ∈ front.head?, ¬ isBlank c)
    (hsep : ¬ isBlank sep) (t : Text) :
    trim (front ++ sep :: t) = front ++ sep :: trimEnd t := by
  have hends : trim (front ++ sep :: t) = trimEnd (front ++ sep :: t) := by
    cases front with
    | nil => exact trim_cons hsep t
    | cons c front => exact trim_cons (hfront c rfl) (front ++ sep :: t)
  rw [hends]
  exact stripEnd_append hsep front t

end Text

end PlainLink
