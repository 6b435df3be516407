/-
# Matches at the beginning

A pattern that is tied to the beginning of the text has at most one match there, and
none behind it.  So to replace its matches is to replace that one and to keep what
stands after it.

Main statement: `replaceAll_of_anchored`.
-/
import PlainLink.Proofs.Regex.Beginning
import PlainLink.Proofs.Regex.Leftmost
import PlainLink.Proofs.Regex.Rewriting
import PlainLink.Proofs.Regex.Whole

namespace PlainLink.Regex

section

variable {e : Expr} {p q : Spot} {rest : List Node}

theorem Expr.before_of_leads (h : e.anchored) {next : Nat}
    (hpath : Leads ((e.compile next).1 :: rest) p q) :
    p.before = none := by
  induction e generalizing next rest p with
  | look l =>
      cases l with
      | textStart =>
          obtain ⟨r, hr, -⟩ := leads_look.1 hpath
          exact Option.isNone_iff_eq_none.1 (Spot.mem_ask.1 hr).1
      | _ => cases h
  | group before e ih =>
      have hinside := leads_seq.1 (leads_mark.1 (leads_seq.1 hpath))
      exact ih (p := p.mark (2 * before + 2)) h hinside
  | seq a b iha ihb => exact iha h (leads_seq.1 hpath)
  | _ => cases h

end

section

variable {r : Regex} (h : r.expr.anchored) {base : Nat} {before : Option Char}
    {text : Text} {m : Match}

include h

/-- There is no match behind a character, and nothing stands before the
one at the beginning. -/
theorem findFrom?_of_anchored (hfind : r.findFrom? base before text = some m) :
    before = none ∧ m.before = [] := by
  obtain ⟨rfl, rfl, start, stop, hfrom, -⟩ := findFrom?_leftmost hfind
  have hpath := hfrom.leads
  rw [r.program_eq, leads_mark] at hpath
  have hstart : lastOr before m.before = none :=
    hfrom.to_start.before.symm.trans (Expr.before_of_leads (p := start.mark 0) h hpath)
  obtain ⟨hlast, hbefore⟩ := Option.or_eq_none_iff.1 hstart
  exact ⟨hbefore, List.getLast?_eq_none_iff.1 hlast⟩

/-- There is a match if and only if a path leads on from the beginning of the text. -/
theorem isMatch_iff_of_anchored : r.isMatch text ↔ Lives r.program ⟨0, none, text, []⟩ := by
  rw [isMatch_iff_lives]
  constructor
  · rintro ⟨front, p, hto, hlives⟩
    obtain ⟨q, hpath⟩ := hlives
    have hmarked := hpath
    rw [r.program_eq, leads_mark] at hmarked
    have hbefore : p.before = none := Expr.before_of_leads (p := p.mark 0) h hmarked
    obtain rfl : front = [] :=
      List.getLast?_eq_none_iff.1 (Option.or_eq_none_iff.1 (hto.before.symm.trans hbefore)).1
    have hrest : text = p.rest := hto.rest
    exact Lives.of_alike ⟨q, hpath⟩ ⟨hbefore, hrest.symm⟩
  · exact fun hlives => ⟨[], _, .refl _, hlives⟩

theorem replaceFrom_of_anchored (f : Match → Text) (steps : Nat) (behind : Bool) (c : Char) :
    r.replaceFrom f steps base (some c) behind text = text := by
  cases steps with
  | zero => rfl
  | succ steps =>
      refine replaceFrom_of_none (Option.eq_none_iff_forall_ne_some.2 fun m hm => ?_)
      cases (findFrom?_of_anchored h hm).1

/-- The match is replaced, and what stands after it is kept. -/
theorem replaceAll_of_anchored (hfind : r.find? text = some m) (f : Match → Text) :
    r.replaceAll f text = f m ++ m.after := by
  obtain ⟨-, hbefore⟩ := findFrom?_of_anchored h hfind
  by_cases htaken : m.taken = []
  · cases hafter : m.after with
    | nil =>
        have hreplace :
            r.replaceAll f text = m.before ++ if false && m.before.isEmpty then [] else f m :=
          (replaceFrom_of_last hfind htaken hafter).1 f
        rw [hreplace, hbefore, List.append_nil]
        rfl
    | cons c rest =>
        obtain ⟨stop, hreplace, -⟩ := replaceFrom_of_empty text.length false hfind htaken hafter
        rw [replaceAll, hreplace, replaceFrom_of_anchored h]
        simp [hbefore]
  · obtain ⟨stop, last, hlast, hreplace, -⟩ :=
      replaceFrom_of_taken text.length false hfind htaken
    obtain ⟨c, rfl⟩ : ∃ c, last = some c := by
      rw [hlast, lastOr, List.getLast?_eq_some_getLast htaken]
      exact ⟨_, rfl⟩
    rw [replaceAll, hreplace, replaceFrom_of_anchored h, hbefore, List.nil_append]

end

end PlainLink.Regex
