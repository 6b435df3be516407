/-
# URLs that differ in the ampersands at the end of the query

A field that is deleted from a query leaves its ampersand, and all those at the end go
when the query is put in order.  So a URL of which several fields at the end were
deleted, and one of which the same fields were cut off behind the first ampersand, are
cleaned to the same URL.  Between the two stands a pass through the providers, of which
each may look at the whole text of the URL:

    exceptions     match it or not
    redirections   substitute a part of it
    field rules    delete from its query

If none of the rules depends on how many ampersands there are at the end, a pass sends
all these URLs on to one and the same, or comes to its end with URLs that again differ
in nothing else (`pass_padded`).  The rules of the tables are asked one by one
(`plainly_of_mem`).
-/
import PlainLink.Proofs.Clean.Fields
import PlainLink.Proofs.Clean.Restarts
import PlainLink.Proofs.Clean.Tracking
import PlainLink.Proofs.Rule.Tables

namespace PlainLink.Clean

open Pattern

/-- The URL with more ampersands at the end of its query, one at least. -/
def padded (u : Url) (n : Nat) : Url :=
  { u with query := u.query ++ ampersands (n + 1) }

/-- The text of the URL, up to these ampersands. -/
def textBefore (u : Url) : Text :=
  u.origin ++ u.path ++ '?' :: u.query

variable {u v : Url} {p : Provider} {providers : List Provider}

theorem text_padded (hfragment : u.fragment = []) (n : Nat) :
    (padded u n).text = textBefore u ++ ampersands (n + 1) := by
  have hne : (u.query ++ ampersands (n + 1)).isEmpty = false := by
    rw [List.isEmpty_eq_false_iff]
    exact List.append_ne_nil_of_right_ne_nil _ (List.cons_ne_nil _ _)
  have hquery : Url.marked '?' (padded u n).query = '?' :: (u.query ++ ampersands (n + 1)) := by
    rw [Url.marked, padded, if_neg (by simp [hne])]
  have hnone : Url.marked '#' (padded u n).fragment = [] := by
    rw [padded, hfragment]
    rfl
  have horigin : (padded u n).origin = u.origin := rfl
  rw [Url.text, hquery, hnone, horigin, textBefore]
  simp [padded]

/-! ## One provider -/

/-- No rule of the provider depends on the number of ampersands at the end. -/
def Plainly (p : Provider) : Bool :=
  p.exceptions.all matchesBefore && p.redirections.all leadsBefore &&
    (p.rules ++ p.referralMarketing).all stripsBefore

/-- What the provider deletes from the URL in front of the ampersands. -/
def stripBefore (p : Provider) (u : Url) : Url :=
  { u with
    query := stripBy (p.rules ++ p.referralMarketing) u.query
    path := if u.path.isEmpty then [] else stripPath p {} u.path }

theorem stripBefore_partOf (p : Provider) (u : Url) : (stripBefore p u).PartOf u where
  scheme := rfl
  host := rfl
  writtenPort := rfl
  path := emptied_sublist (stripPath_sublist p {} _)
  query := stripBy_sublist _ _
  fragment := .refl _

section

variable (hplain : Plainly p)

include hplain

theorem strip_padded (hfragment : u.fragment = []) (n : Nat) :
    strip p {} (padded u n) = padded (stripBefore p u) n := by
  simp only [Plainly, Bool.and_eq_true, List.all_eq_true] at hplain
  obtain ⟨-, hrules⟩ := hplain
  have hne : (u.query ++ ampersands (n + 1)).isEmpty = false := by
    rw [List.isEmpty_eq_false_iff]
    exact List.append_ne_nil_of_right_ne_nil _ (List.cons_ne_nil _ _)
  rw [strip, stripTracking_eq, stripTracking_eq]
  simp [padded, stripBefore, hne, hfragment, stripBy_append_ampersands hrules]

theorem covers_padded (hfragment : u.fragment = []) (n : Nat) :
    covers p {} (padded u n) = covers p {} (padded u 0) := by
  simp only [Plainly, Bool.and_eq_true, List.all_eq_true] at hplain
  obtain ⟨⟨hexceptions, -⟩, -⟩ := hplain
  have hany : ∀ n, p.exceptions.any (·.isMatch (padded u n).text) =
      p.exceptions.any (·.isMatch (textBefore u)) := by
    intro n
    rw [text_padded hfragment]
    refine Bool.eq_iff_iff.2 ?_
    rw [List.any_eq_true, List.any_eq_true]
    refine exists_congr fun rule => and_congr_right fun hrule => ?_
    rw [isMatch_append_ampersands (hexceptions rule hrule)]
  have horigin : ∀ n, (padded u n).origin = u.origin := fun _ => rfl
  rw [covers, covers, hany, hany, horigin, horigin]

omit hplain in
/-- A redirection rule leads from all of the URLs to the same one, or from
none of them to any. -/
theorem target?_append_ampersands {rule : Pattern} (hrule : rule.leadsBefore) {t : Text}
    (hline : '\n' ∉ t) (n : Nat) :
    target? (t ++ ampersands (n + 1)) rule = target? (t ++ ampersands 1) rule := by
  rcases substitute_append_ampersands hrule hline with hsame | ⟨found, hlength, hfound⟩
  · have hnone : ∀ n, target? (t ++ ampersands (n + 1)) rule = none := by
      intro n
      rw [target?, hsame]
      simp
    rw [hnone, hnone 0]
  · -- What is found is shorter than each of the texts.
    have hne : ∀ n, (found == t ++ ampersands (n + 1)) = false := by
      intro n
      refine beq_eq_false_iff_ne.2 fun heq => ?_
      have hlonger : found.length = t.length + (n + 1) := by
        rw [heq, List.length_append, ampersands, List.length_replicate]
      omega
    simp only [target?, hfound, hne]

theorem findSome?_padded (hfragment : u.fragment = []) (hline : '\n' ∉ textBefore u) (n : Nat) :
    p.redirections.findSome? (target? (padded u n).text) =
      p.redirections.findSome? (target? (padded u 0).text) := by
  simp only [Plainly, Bool.and_eq_true, List.all_eq_true] at hplain
  obtain ⟨⟨-, hredirections⟩, -⟩ := hplain
  rw [text_padded hfragment, text_padded hfragment]
  generalize p.redirections = rules at hredirections
  induction rules with
  | nil => rfl
  | cons rule rules ih =>
      obtain ⟨hrule, hmore⟩ := List.forall_mem_cons.1 hredirections
      rw [List.findSome?_cons, List.findSome?_cons,
        target?_append_ampersands hrule hline, ih hmore]

end

/-! ## A pass -/

theorem textBefore_sublist (h : v.PartOf u) : (textBefore v).Sublist (textBefore u) := by
  have horigin : v.origin = u.origin := h.origin_eq
  rw [textBefore, textBefore, horigin]
  exact ((List.Sublist.refl _).append h.path).append (h.query.cons_cons _)

/-- A pass sends all of the URLs on to the same one, or comes to its end with URLs that
differ as they did. -/
theorem pass_padded (hplain : ∀ p ∈ providers, Plainly p) (hfragment : u.fragment = [])
    (hline : '\n' ∉ textBefore u) (follow : Bool) :
    (∃ next, ∀ n, pass {} follow providers (padded u n) = .redirected next) ∨
      ∃ v, ∀ n, pass {} follow providers (padded u n) = .done (padded v n) := by
  induction providers generalizing u with
  | nil => exact .inr ⟨u, fun _ => rfl⟩
  | cons p rest ih =>
      obtain ⟨hp, hrest⟩ := List.forall_mem_cons.1 hplain
      by_cases hcovers : covers p {} (padded u 0) = true
      · have hall : ∀ n, covers p {} (padded u n) = true := fun n =>
          (covers_padded hp hfragment n).trans hcovers
        have hpart := stripBefore_partOf p u
        have hline' : '\n' ∉ textBefore (stripBefore p u) := fun hmem =>
          hline ((textBefore_sublist hpart).subset hmem)
        have hstrip : ∀ n, strip p {} (padded u n) = padded (stripBefore p u) n :=
          strip_padded hp hfragment
        have htarget : ∀ n, p.redirections.findSome? (target? (padded u n).text) =
            p.redirections.findSome? (target? (padded u 0).text) :=
          findSome?_padded hp hfragment hline
        cases hnext : if follow then p.redirections.findSome? (target? (padded u 0).text)
          else none with
        | some next =>
            refine .inl ⟨next, fun n => ?_⟩
            rw [pass, if_pos (hall n), htarget, hnext]
        | none =>
            have hgoesOn : ∀ n, pass {} follow (p :: rest) (padded u n) =
                pass {} follow rest (padded (stripBefore p u) n) := by
              intro n
              rw [pass, if_pos (hall n), htarget, hnext, hstrip]
            simp only [hgoesOn]
            exact ih hrest hfragment hline'
      · have hnone : ∀ n, ¬ covers p {} (padded u n) := fun n hn =>
          hcovers ((covers_padded hp hfragment n).symm.trans hn)
        have hgoesOn : ∀ n, pass {} follow (p :: rest) (padded u n) =
            pass {} follow rest (padded u n) := fun n => pass_cons_of_not_covers (hnone n)
        simp only [hgoesOn]
        exact ih hrest hfragment hline

/-- A query that ends with ampersands is put in order as it is without them. -/
theorem filterQuery_append_ampersands (query : Text) (n : Nat)
    (stripEmpty stripDuplicates : Bool) :
    filterQuery (query ++ ampersands n) stripEmpty stripDuplicates =
      filterQuery query stripEmpty stripDuplicates := by
  have hne : query.splitOn '&' ≠ [] := List.splitOn_ne_nil _ _
  have hfree : ∀ s ∈ query.splitOn '&' ++ List.replicate n [], '&' ∉ s := by
    intro s hs
    rcases List.mem_append.1 hs with hs | hs
    · exact Text.not_mem_of_mem_splitOn hs
    · rw [List.eq_of_mem_replicate hs]
      exact List.not_mem_nil
  have hsplit :
      (query ++ ampersands n).splitOn '&' = query.splitOn '&' ++ List.replicate n [] := by
    rw [← splitOn_join_ampersand (List.append_ne_nil_of_left_ne_nil hne _) hfree,
      join_append_replicate hne, Text.join_splitOn]
  rw [filterQuery, hsplit, keepFields_append_replicate, filterQuery]

theorem tidy_eq (flags : CleanFlags) (u : Url) :
    tidy flags u =
      { u with
        query := filterQuery u.query flags.stripEmpty flags.stripDuplicates
        fragment :=
          if u.fragment.contains '=' then
            filterQuery u.fragment flags.stripEmpty flags.stripDuplicates
          else u.fragment } := by
  unfold tidy
  dsimp only
  rw [ite_isEmpty_filterQuery]

theorem tidy_padded (flags : CleanFlags) (u : Url) (n : Nat) :
    tidy flags (padded u n) = tidy flags u := by
  rw [tidy_eq, tidy_eq, padded, filterQuery_append_ampersands]

/-! ## The tables -/

open Bundled

/-- None of the rules that come with the library depends on the number of
ampersands at the end. -/
theorem plainly_of_mem : ∀ p ∈ Store.bundled.providers, Plainly p := by
  have htables : tables.all fun t => Plainly (.read t.1 t.2) := by
    unfold tables sites networks globalRules amazon google deezer natura
      dartsearchNet doubleclick
      shareasale facebook youtube twitter reddit bing aliexpress tiktok instagram spotify
        linkedin texts
    simp only [List.cons_append, List.nil_append, List.map_cons, List.map_nil]
    repeat rw [toList_ofList]
    decide +kernel
  rw [providers_eq]
  intro p hp
  obtain ⟨t, ht, rfl⟩ := List.mem_map.1 hp
  exact List.all_eq_true.1 htables t ht

end PlainLink.Clean
