/-
# Rules that are patterns of their own

What the use of a rule adds is put around the text of the rule before anything is read.
So a text that is no pattern may make a rule all the same: one that closes the group it
was put into, and opens another in its place.  No other text does.  And unless a text of
this kind begins another alternative outside of its group, a rule for the beginning of a
text matches there or nowhere.

    a)|(?:b    is completed to   ^(?:a)|(?:b)    and matches `xb` behind its beginning

The first half is about the reader of patterns: what it reads of a text inside a group,
it reads of the text alone as well, unless the text closes the group
(`parse_of_compile`).  The second half is about what comes out: where the text is a
pattern of its own, the sign for the beginning stands in front of all of it.

Main statement: `own_of_compile`.
-/
import Mathlib.Data.List.Infix
import PlainLink.Proofs.Regex.Anchored
import PlainLink.Proofs.Regex.Ungrouped
import PlainLink.Proofs.Rule.Completed

namespace PlainLink

open Regex

namespace Pattern

variable {use : Use} {source : Text} {p : Pattern}

/-! ## The texts behind a rule -/

/-- What a use adds behind the group ends nothing that is left open in the group. -/
theorem harmless_textBehind (use : Use) : Harmless (textBehind use) := by
  have hsealed : ∀ used ∈ (textBehind use).inits, used.count ']' ≤ used.count '[' := by
    cases use <;> decide +kernel
  have hstraight : (textBehind use).all fun c => !(['\n', '-', '\\'].contains c) := by
    cases use <;> decide
  refine ⟨⟨fun c hc => ?_, fun used hused => hsealed used ((List.mem_inits _ _).2 hused)⟩, ?_,
    ?_⟩
  · simpa using List.all_eq_true.1 hstraight c hc
  · cases use <;> decide
  · cases use <;> decide

theorem closesAtMost_textBehind (use : Use) : Reader.ClosesAtMost 0 (textBehind use) := by
  cases use with
  | anchored => exact Reader.closesAtMost_count []
  | queryField =>
      have hcount : Reader.ClosesAtMost 2 "=|%3[Dd])[^&#]*)?".toList :=
        Reader.closesAtMost_count _
      exact hcount.openGroup.openGroup
  | raw => exact Reader.closesAtMost_count []
  | redirection => exact Reader.closesAtMost_count ".*".toList

/-! ## Limits -/

/-- A completed rule nests deeper and takes more room than what its text is read to. -/
theorem limits_of_completed {r whole : Reader}
    (hpieces : whole.pieces = ⟨partsBehind use ++
      .expr (r.pieces.whole.toExpr.shift (readerBefore use).groups) (r.pieces.whole.depth + 1) ::
        (readerBefore use).pieces.current, []⟩) :
    r.pieces.whole.depth ≤ whole.pieces.whole.depth ∧
      r.pieces.whole.toExpr.size ≤ whole.pieces.whole.toExpr.size := by
  rw [hpieces, ← Expr.size_shift (readerBefore use).groups r.pieces.whole.toExpr]
  cases use <;>
    simp [partsBehind, readerBefore, startReader, Pieces.whole, Pieces.sequence,
      Part.depth, Part.toExpr, Expr.seqOf, Expr.size] <;> omega

/-! ## Texts of rules -/

/-- The text of a rule is a pattern of its own, or closes the group it was put into. -/
theorem parse_of_compile (h : compile use source = .ok p) :
    (∃ e, Expr.parse source = .ok e) ∨ use ≠ .raw ∧
      Expr.parse source = .error .groupNotOpened := by
  have hparse := parse_completed h
  by_cases huse : use = .raw
  · subst huse
    exact .inl ⟨_, hparse⟩
  · obtain ⟨whole, hwhole, hclosed, hdepth, hsize, -⟩ := Reader.parse_eq_ok_iff.1 hparse
    obtain ⟨steps, hsteps, hgroup⟩ := run_completed huse source
    have hbefore : (readerBefore use).flags = {} ∧ (readerBefore use).names = [] := by
      cases use <;> exact ⟨rfl, rfl⟩
    rcases Reader.run_of_grouped (harmless_textBehind use) (closesAtMost_textBehind use)
        (readerBefore use)
      hbefore.1 hbefore.2 hsteps (hgroup.symm.trans hwhole) hclosed with ⟨r, hrun,
        houter⟩ | herror
    · left
      obtain ⟨hdepth', hsize'⟩ :=
        limits_of_completed (pieces_completed huse hrun houter hwhole hclosed)
      exact ⟨_, Reader.parse_eq_ok_iff.2
        ⟨r, hrun, houter, hdepth'.trans hdepth, hsize'.trans hsize, rfl⟩⟩
    · refine .inr ⟨huse, ?_⟩
      rw [Expr.parse, herror]
      rfl

/-! ## Rules for the beginning of a text -/

/-- A rule for the beginning of a text is tied to it, if its text is a pattern of its own, or
else begins no alternative outside of its group. -/
theorem anchored_of_compile (h : compile .anchored source = .ok p)
    (hown : (∃ e, Expr.parse source = .ok e) ∨ Unbranched (completed .anchored source)) :
    p.regex.expr.anchored := by
  rcases hown with ⟨e, hparse⟩ | hread
  · rw [expr_anchored hparse h]
    rfl
  · obtain ⟨r, hrun, -, htied⟩ := anchored_of_unbranched hread fun c hc => by
      obtain rfl : '(' = c := by simpa using hc
      decide
    obtain ⟨r', hrun', -, hexpr⟩ := exists_run_of_compile h
    obtain rfl := Except.ok.inj (hrun.symm.trans hrun')
    rw [hexpr]
    exact htied

/-- It matches exactly the texts where the rule without the sign matches from the
first character on. -/
theorem isMatch_anchored_iff {own : Pattern} (h : compile .anchored source = .ok p)
    (hraw : compile .raw source = .ok own) (subject : Text) :
    p.isMatch subject ↔ Lives own.regex.program ⟨0, none, subject, []⟩ := by
  have hparse : Expr.parse source = .ok own.regex.expr := parse_completed hraw
  have hprogram : p.regex.program =
      [.mark 0, .seq (.look .textStart) (own.regex.expr.compile 0).1, .mark 1] := by
    rw [p.regex.program_eq, expr_anchored hparse h, Expr.shift_zero]
    rfl
  rw [isMatch, isMatch_iff_of_anchored (anchored_of_compile h (.inl ⟨_, hparse⟩)), hprogram,
    own.regex.program_eq]
  refine exists_congr fun stop => ?_
  rw [leads_mark, leads_mark, leads_seq, leads_look]
  constructor
  · rintro ⟨start, hstart, hpath⟩
    obtain ⟨-, rfl⟩ := Spot.mem_ask.1 hstart
    exact hpath
  · exact fun hpath => ⟨_, Spot.mem_ask.2 ⟨rfl, rfl⟩, hpath⟩

/-- The text of a rule is a pattern of its own, or it closes the group that its use puts it
into.  If it is a pattern of its own, or at least begins no alternative outside of that group,
a rule for the beginning of a text matches there or nowhere; and in the first case it matches
exactly the texts where the rule as it is written matches from the first character on. -/
theorem own_of_compile (h : compile use source = .ok p) :
    ((∃ e, Expr.parse source = .ok e) ∨ use ≠ .raw ∧
      Expr.parse source = .error .groupNotOpened) ∧
      (use = .anchored →
        ((∃ e, Expr.parse source = .ok e) ∨ Unbranched (completed use source) →
          ∀ subject, p.isMatch subject → ∃ m, p.regex.find? subject = some m ∧ m.before = []) ∧
        ∀ own, compile .raw source = .ok own → ∀ subject,
          p.isMatch subject ↔ Lives own.regex.program ⟨0, none, subject, []⟩) := by
  refine ⟨parse_of_compile h, ?_⟩
  rintro rfl
  refine ⟨fun hown subject hmatch => ?_, fun own hraw => isMatch_anchored_iff h hraw⟩
  obtain ⟨m, hfind⟩ := Option.isSome_iff_exists.1 hmatch
  exact ⟨m, hfind, (findFrom?_of_anchored (anchored_of_compile h hown) hfind).2⟩

theorem own_of_compile_site :
    ∃ p, compile .anchored "https?:\\/\\/example\\.com".toList = .ok p ∧
      (∃ m, p.regex.find? "https://example.com/x".toList = some m ∧ m.before = []) ∧
      p.isMatch "https://a.com/?u=https://example.com".toList = false := by
  obtain ⟨p, hcompile, hmatch, hno⟩ :
      ∃ p, compile .anchored "https?:\\/\\/example\\.com".toList = .ok p ∧
      p.isMatch "https://example.com/x".toList = true ∧
      p.isMatch "https://a.com/?u=https://example.com".toList = false :=
    ⟨_, rfl, by decide +kernel, by decide +kernel⟩
  obtain ⟨-, hstart⟩ := own_of_compile hcompile
  exact ⟨p, hcompile, (hstart rfl).1 (.inl ⟨_, rfl⟩) _ hmatch, hno⟩

/-- A text that closes its group makes a rule without being a pattern, and the rule is not tied
to the beginning if another alternative begins behind the group. -/
theorem compile_not_own :
    ∃ p, compile .anchored "a)|(?:b".toList = .ok p ∧
      Expr.parse "a)|(?:b".toList = .error .groupNotOpened ∧ p.isMatch "xb".toList = true ∧
      (p.regex.find? "xb".toList).map (·.before) = some "x".toList :=
  ⟨_, rfl, rfl, by decide +kernel, by decide +kernel⟩

end Pattern

end PlainLink
