/-
# Completed rules

The text of a rule is put into a group, with what the use of the rule adds in front of
it and behind it, before it is read.  The expression that comes out is that of the rule
between those of the two other texts, so that what holds of the rule as a pattern of its
own can be used of the completed rule.

Main statement: `pieces_completed`.
-/
import PlainLink.Proofs.Regex.Grouped
import PlainLink.Proofs.Regex.Whole
import PlainLink.Proofs.Rule.FieldRule

namespace PlainLink

open Regex

namespace Pattern

/-! ## The texts around a rule -/

/-- What a redirection rule adds: the rest of the line. -/
def restExpr : Expr :=
  .rep 0 none true (.set (.except ['\n']))

/-- The reader in front of the group that holds the text of the rule. -/
def readerBefore : Use → Reader
  | .anchored => startReader
  | .queryField => { pieces := ⟨[.expr (.group 0 boundaryExpr) 3], []⟩, groups := 1 }
  | .raw => {}
  | .redirection => {}

/-- What the use of the rule adds behind the group. -/
def textBehind : Use → Text
  | .anchored => []
  | .queryField => valuePart
  | .raw => []
  | .redirection => ".*".toList

def partsBehind : Use → List Part
  | .anchored => []
  | .queryField => [.expr valueExpr 6]
  | .raw => []
  | .redirection => [.expr restExpr 1]

theorem run_boundary (steps : Nat) (t : Text) :
    Reader.run (steps + 18) {} (boundary ++ ("(?:".toList ++ t)) =
      Reader.run steps ((readerBefore .queryField).openGroup none {}) t := rfl

theorem run_open (steps : Nat) (t : Text) :
    Reader.run (steps + 1) {} ("(?:".toList ++ t) =
      Reader.run steps (({} : Reader).openGroup none {}) t := rfl

/-- The reader of a completed rule comes to the group that holds the text of the rule. -/
theorem run_completed {use : Use} (huse : use ≠ .raw) (source : Text) :
    ∃ steps, source.length + (textBehind use).length + 1 < steps ∧
      Reader.run ((completed use source).length + 1) {} (completed use source) =
        Reader.run steps ((readerBefore use).openGroup none {})
          (source ++ ')' :: textBehind use) := by
  have hopen : "(?:".toList.length = 3 := rfl
  cases use with
  | anchored =>
      have htext : completed .anchored source =
          '^' :: ("(?:".toList ++ (source ++ ')' :: [])) := by
        simp [completed]
      have hlength : (completed .anchored source).length + 1 = (source.length + 4) + 2 := by
        simp [completed]
      exact ⟨source.length + 4, by simp [textBehind], by rw [hlength, htext, run_start]; rfl⟩
  | queryField =>
      have htext : completed .queryField source =
          boundary ++ ("(?:".toList ++ (source ++ ')' :: valuePart)) := by
        simp [completed]
      have hlength : (completed .queryField source).length + 1 =
          (source.length + valuePart.length + 5) + 18 := by
        have hboundary : boundary.length = 18 := rfl
        rw [htext, List.length_append, List.length_append, List.length_append, List.length_cons]
        omega
      refine ⟨source.length + valuePart.length + 5, ?_,
        by rw [hlength, htext, run_boundary]; rfl⟩
      rw [textBehind]
      omega
  | raw => exact absurd rfl huse
  | redirection =>
      have htext : completed .redirection source =
          "(?:".toList ++ (source ++ ')' :: ".*".toList) := by
        simp [completed]
      have hlength : (completed .redirection source).length + 1 = (source.length + 6) + 1 := by
        simp [completed]
      exact ⟨source.length + 6, by simp [textBehind], by rw [hlength, htext, run_open]; rfl⟩

/-- The reader goes on behind the group, and adds the parts that its use adds. -/
theorem run_textBehind (use : Use) {left : Nat} (hleft : (textBehind use).length < left)
    (current earlier : List Part) (outer : List Outer) (groups : Nat) (names : List Text) :
    Reader.run left { pieces := ⟨current, earlier⟩, outer, groups, names } (textBehind use) =
      .ok { pieces := ⟨partsBehind use ++ current, earlier⟩, outer, groups, names } := by
  cases use with
  | anchored =>
      obtain ⟨left, rfl⟩ := Nat.exists_eq_add_of_le' (show 1 ≤ left from hleft)
      rfl
  | queryField =>
      obtain ⟨left, rfl⟩ :=
        Nat.exists_eq_add_of_le' (show 13 ≤ left from Nat.le_trans (by decide) hleft)
      rfl
  | raw =>
      obtain ⟨left, rfl⟩ := Nat.exists_eq_add_of_le' (show 1 ≤ left from hleft)
      rfl
  | redirection =>
      obtain ⟨left, rfl⟩ := Nat.exists_eq_add_of_le' (show 3 ≤ left from hleft)
      rfl

/-! ## What is read -/

variable {use : Use} {source : Text} {p : Pattern}

theorem parse_completed (h : compile use source = .ok p) :
    Expr.parse (completed use source) = .ok p.regex.expr := by
  unfold compile at h
  cases hregex : Regex.compile (completed use source) with
  | error e =>
      rw [hregex] at h
      cases h
  | ok regex =>
      rw [hregex] at h
      cases h
      obtain ⟨e, hparse, h⟩ := exists_of_bind_eq_ok hregex
      cases h
      exact hparse

theorem exists_run_of_compile (h : compile use source = .ok p) :
    ∃ r, Reader.run ((completed use source).length + 1) {} (completed use source) = .ok r ∧
      r.outer = [] ∧ p.regex.expr = r.pieces.whole.toExpr :=
  Reader.parse_eq_ok (parse_completed h)

/-- The parts of a completed rule, from what its text is read to alone. -/
theorem pieces_completed (huse : use ≠ .raw) {r whole : Reader}
    (hrun : Reader.run (source.length + 1) {} source = .ok r) (houter : r.outer = [])
    (hwhole : Reader.run ((completed use source).length + 1) {}
    (completed use source) = .ok whole) (hclosed : whole.outer = []) :
    whole.pieces = ⟨partsBehind use ++
      .expr (r.pieces.whole.toExpr.shift (readerBefore use).groups) (r.pieces.whole.depth + 1) ::
        (readerBefore use).pieces.current, []⟩ := by
  obtain ⟨steps, hsteps, hgroup⟩ := run_completed huse source
  have hmore : '\n' ∉ textBehind use := by
    cases use <;> decide
  have hbefore : (readerBefore use).flags = {} ∧ (readerBefore use).names = [] ∧
      (readerBefore use).pieces.earlier = [] := by
    cases use <;> exact ⟨rfl, rfl, rfl⟩
  obtain ⟨hflags, hnames, hearlier⟩ := hbefore
  obtain ⟨left, groups, names, hleft, hrest⟩ :=
    Reader.run_grouped (readerBefore use) hrun houter hmore
    hflags hnames hsteps (hgroup.symm.trans hwhole) hclosed
  dsimp only at hrest
  rw [hflags, hearlier] at hrest
  have hbehind := (run_textBehind use hleft _ _ _ _ _).symm.trans hrest
  cases hbehind
  rfl

theorem expr_of_run {r : Reader} (hrun : Reader.run (source.length + 1) {} source = .ok r)
    (houter : r.outer = []) (h : compile .queryField source = .ok p) :
    p.regex.expr =
      .seq (.group 0 boundaryExpr) (.seq (r.pieces.whole.toExpr.shift 1) valueExpr) := by
  obtain ⟨whole, hwhole, hclosed, hexpr⟩ := exists_run_of_compile h
  rw [hexpr, pieces_completed (by decide) hrun houter hwhole hclosed]
  rfl

theorem expr_of_parse {e : Expr} (hparse : Expr.parse source = .ok e)
    (h : compile .queryField source = .ok p) :
    p.regex.expr = .seq (.group 0 boundaryExpr) (.seq (e.shift 1) valueExpr) := by
  obtain ⟨r, hrun, houter, rfl⟩ := Reader.parse_eq_ok hparse
  exact expr_of_run hrun houter h

/-- The expression of a redirection rule, from what its text is read to alone. -/
theorem expr_redirection {r : Reader} (hrun : Reader.run (source.length + 1) {} source = .ok r)
    (houter : r.outer = []) (h : compile .redirection source = .ok p) :
    p.regex.expr = .seq (r.pieces.whole.toExpr.shift 0) restExpr := by
  obtain ⟨whole, hwhole, hclosed, hexpr⟩ := exists_run_of_compile h
  rw [hexpr, pieces_completed (by decide) hrun houter hwhole hclosed]
  rfl

/-- The expression of a rule for the beginning of a text, if the text of the rule is a
pattern of its own. -/
theorem expr_anchored {e : Expr} (hparse : Expr.parse source = .ok e)
    (h : compile .anchored source = .ok p) :
    p.regex.expr = .seq (.look .textStart) (e.shift 0) := by
  obtain ⟨r, hrun, houter, rfl⟩ := Reader.parse_eq_ok hparse
  obtain ⟨whole, hwhole, hclosed, hexpr⟩ := exists_run_of_compile h
  rw [hexpr, pieces_completed (by decide) hrun houter hwhole hclosed]
  rfl

end Pattern

end PlainLink
