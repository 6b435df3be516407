/-
# What a redirection rule leaves

A redirection rule is to leave its first group alone.  A rule that begins with the sign
for the beginning of the text matches there or nowhere, and takes the rest of the line
behind what its own text takes.  So nothing is left before the group; but a match does
not go past a line break of its own accord, and what begins with one behind the match is
left as it is.

The two halves come from elsewhere.  That the rule matches at the beginning or nowhere
is read off its text: it is one sequence of parts behind the sign (`Unbranched`).  That
the match ends at a line break or at the end of the text holds of whatever ends with as
many characters of a set as there are.

Main statement: `substitute_redirection`.
-/
import PlainLink.Proofs.Regex.Anchored
import PlainLink.Proofs.Regex.Levels
import PlainLink.Proofs.Regex.Trailing
import PlainLink.Proofs.Rule.Completed

namespace PlainLink

open Regex

namespace Pattern

/-- A redirection rule that is a sequence of parts behind the sign for the beginning of the
text matches up to the end of the text or up to a line break, and puts its first group in the
place of the match.  In a text without line breaks the group alone is left. -/
theorem substitute_redirection {text subject : Text} {p : Pattern} {m : Match}
    (hread : Unbranched ('^' :: text)) (hsign : ∀ c ∈ text.head?, ¬ isRepetitionSign c)
    (h : compile .redirection ('^' :: text) = .ok p) (hfind : p.regex.find? subject = some m) :
    subject = m.taken ++ m.after ∧ p.substitute subject = (m.group? 1).getD [] ++ m.after ∧
      (∀ c ∈ m.after.head?, c = '\n') ∧
      ('\n' ∉ subject → p.substitute subject = (m.group? 1).getD []) := by
  obtain ⟨r, hrun, houter, htied⟩ := anchored_of_unbranched hread hsign
  have hexpr := expr_redirection hrun houter h
  have hanchored : p.regex.expr.anchored := by
    rw [hexpr]
    exact (Expr.anchored_shift 0 _).trans htied
  obtain ⟨-, hbefore⟩ := findFrom?_of_anchored hanchored hfind
  obtain ⟨htext, start, stop, hspans⟩ := findFrom?_spans hfind
  have hparts : subject = m.taken ++ m.after := by
    rw [← htext, ← hspans.parts, hbefore, List.nil_append]
  have hsubstitute : p.substitute subject = (m.group? 1).getD [] ++ m.after :=
    replaceAll_of_anchored hanchored hfind _
  have hbreak : ∀ c ∈ m.after.head?, c = '\n' := by
    intro c hc
    have htest := findFrom?_after hexpr hfind c hc
    simpa [CharSet.except, CharSet.test] using htest
  refine ⟨hparts, hsubstitute, hbreak, fun hnone => ?_⟩
  have hafter : m.after = [] := by
    refine List.head?_eq_none_iff.1 (Option.eq_none_iff_forall_ne_some.2 fun c hc => hnone ?_)
    have hmem : c ∈ m.after := List.mem_of_mem_head? hc
    rw [← hbreak c hc, hparts]
    exact List.mem_append_right _ hmem
  rw [hsubstitute, hafter, List.append_nil]

theorem substitute_redirection_first :
    ∃ p, compile .redirection "^(a)".toList = .ok p ∧ p.substitute "abc".toList = "a".toList ∧
      p.substitute "ab\nc".toList = "a\nc".toList := by
  obtain ⟨p, hcompile, hfirst, hsecond⟩ : ∃ p, compile .redirection "^(a)".toList = .ok p ∧
      (p.regex.find? "abc".toList).map (·.group? 1) = some (some "a".toList) ∧
      (p.regex.find? "ab\nc".toList).map (fun m => (m.group? 1, m.after)) =
        some (some "a".toList, "\nc".toList) :=
    ⟨_, rfl, by decide +kernel, by decide +kernel⟩
  obtain ⟨m, hfind, hgroup⟩ := Option.map_eq_some_iff.1 hfirst
  obtain ⟨m', hfind', heq⟩ := Option.map_eq_some_iff.1 hsecond
  obtain ⟨hgroup', hafter⟩ := Prod.mk.inj heq
  have hread : Unbranched "^(a)".toList := ⟨_, rfl, rfl, rfl⟩
  have hsign : ∀ c ∈ "(a)".toList.head?, ¬ isRepetitionSign c := by
    simp [isRepetitionSign]
  obtain ⟨-, -, -, hleft⟩ := substitute_redirection hread hsign hcompile hfind
  obtain ⟨-, hleft', -⟩ := substitute_redirection hread hsign hcompile hfind'
  refine ⟨p, hcompile, ?_, ?_⟩
  · rw [hleft (by decide), hgroup]
    rfl
  · rw [hleft', hgroup', hafter]
    rfl

/-- What stands behind a line break is not replaced. -/
theorem substitute_redirection_not_always :
    ¬ ∀ (text subject : Text) (p : Pattern) (m : Match), Unbranched ('^' :: text) →
      (∀ c ∈ text.head?, ¬ isRepetitionSign c) → compile .redirection ('^' :: text) = .ok p →
      p.regex.find? subject = some m → p.substitute subject = (m.group? 1).getD [] := by
  intro h
  obtain ⟨p, hcompile, hfirst, hleft⟩ : ∃ p, compile .redirection "^(a)".toList = .ok p ∧
      (p.regex.find? "a\nb".toList).map (·.group? 1) = some (some "a".toList) ∧
      p.substitute "a\nb".toList = "a\nb".toList :=
    ⟨_, rfl, by decide +kernel, by decide +kernel⟩
  obtain ⟨m, hfind, hgroup⟩ := Option.map_eq_some_iff.1 hfirst
  have hsign : ∀ c ∈ "(a)".toList.head?, ¬ isRepetitionSign c := by
    simp [isRepetitionSign]
  have hgone := h "(a)".toList "a\nb".toList p m ⟨_, rfl, rfl, rfl⟩ hsign hcompile hfind
  rw [hleft, hgroup] at hgone
  exact absurd hgone (by decide)

end Pattern

end PlainLink
