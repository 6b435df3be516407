/-
# Anchors

A fragment is put in order as a list of fields only if it has a field, and a plain
anchor has none.  But before that the field rules delete from the fragment as well, and
to them an anchor is a field without a value.  So an anchor survives unless it has the
name of a field that one of the rules deletes.

Which rules are asked depends on the switches, and on which providers are for the URL as
it is left to them: a provider looks at the text that those before it have left, where
the fragment may be gone already.  `inCharge` lists the providers that a pass applies,
and `rulesInForce` their rules.

For one rule the matter is settled by its names.  Most rules name fields by plain
characters; some by more, such as an escaped bracket.  To a field that stands alone they
all do the same: they delete it by its name, or leave it as it is.  That holds of each
rule of the tables, one by one (`judgesByName`).

Main statement: `clean_anchor`.
-/
import PlainLink.Proofs.Clean.Course
import PlainLink.Proofs.Clean.SingleField
import PlainLink.Proofs.Clean.Wrapped

namespace PlainLink

open Pattern

namespace Clean

/-! ## The providers of a pass -/

/-- The providers that a pass applies: each is for what those before it
have left of the URL. -/
def inCharge (flags : CleanFlags) : List Provider → Url → List Provider
  | [], _ => []
  | p :: rest, u =>
    if covers p flags u then p :: inCharge flags rest (strip p flags u)
      else inCharge flags rest u

/-- The rules for fields that a URL meets as long as it is not redirected. -/
def rulesInForce (providers : List Provider) (flags : CleanFlags) (u : Url) : List Pattern :=
  if flags.skipLocal && u.isLocal then []
    else (inCharge flags providers u).flatMap (fieldRules flags)

variable {providers : List Provider} {flags : CleanFlags} {u v c : Url}

theorem inCharge_sublist (flags : CleanFlags) (providers : List Provider) (u : Url) :
    (inCharge flags providers u).Sublist providers := by
  induction providers generalizing u with
  | nil => exact .slnil
  | cons p rest ih =>
      unfold inCharge
      split
      · exact (ih _).cons_cons p
      · exact (ih u).cons p

/-- A pass that is not redirected is what its providers do, one after the other. -/
theorem pass_eq_foldl {follow : Bool} (h : pass flags follow providers u = .done v) :
    v = (inCharge flags providers u).foldl (fun u p => strip p flags u) u := by
  induction providers generalizing u with
  | nil =>
      cases h
      rfl
  | cons p rest ih =>
      unfold pass at h
      unfold inCharge
      split at h
      · next hcovers =>
        rw [if_pos hcovers]
        split at h
        · cases h
        · exact ih h
      · next hcovers =>
        rw [if_neg hcovers]
        exact ih h

/-! ## A fragment that is one field -/

/-- Providers do to a fragment that is one field what all their rules do to it. -/
theorem fragment_foldl_strip {ps : List Provider}
    (hrules : ∀ p ∈ ps, ∀ rule ∈ fieldRules flags p, rule.JudgesByName)
    (hfragment : ∀ c ∈ u.fragment, ¬ separates c) :
    (ps.foldl (fun u p => strip p flags u) u).fragment =
      stripBy (ps.flatMap (fieldRules flags)) u.fragment := by
  induction ps generalizing u with
  | nil => rfl
  | cons p ps ih =>
      obtain ⟨hp, hps⟩ := List.forall_mem_cons.1 hrules
      have hstrip : (strip p flags u).fragment = stripBy (fieldRules flags p) u.fragment := by
        rw [← stripTracking_eq_stripBy]
        show (if u.fragment.isEmpty then [] else stripTracking p flags u.fragment) = _
        split
        · next hempty =>
          rw [List.isEmpty_iff.1 hempty, stripTracking_eq_stripBy,
            stripBy_eq_ite hp (by simp), ite_self]
        · rfl
      have hleft : ∀ c ∈ (strip p flags u).fragment, ¬ separates c := by
        intro c hc
        exact hfragment c ((strip_partOf p flags u).fragment.subset hc)
      rw [List.foldl_cons, ih hps hleft, hstrip, List.flatMap_cons, stripBy_append]

theorem nameOf_eq_self {n : Text} (hn : Plain n) : nameOf n = n :=
  List.takeWhile_eq_self_iff.2 fun c hc => by simpa using (hn c hc).2

/-- A fragment that is the name of a field survives a course without redirections, unless a
rule in force deletes fields of that name. -/
theorem Course.fragment_eq {made : Nat} {log : List Pass}
    (h : Course providers flags made u log c) (hstays : ∀ next, .redirected next ∉ log)
    (hrules : ∀ p ∈ providers, ∀ rule ∈ p.rules ++ p.referralMarketing, rule.JudgesByName)
    (hplain : Plain u.fragment) :
    c.fragment = if ∃ rule ∈ rulesInForce providers flags u, rule.deletes u.fragment then []
      else u.fragment := by
  cases h with
  | exempt hlocal =>
      rw [rulesInForce, if_pos hlocal, if_neg (by simp)]
  | @done _ _ v hremote hpass =>
      have hjudges : ∀ p ∈ inCharge flags providers u, ∀ rule ∈ fieldRules flags p,
          rule.JudgesByName := by
        intro p hp rule hrule
        have hmem : p ∈ providers := (inCharge_sublist flags providers u).subset hp
        exact hrules p hmem rule ((fieldRules_sublist flags p).subset hrule)
      have hinForce : ∀ rule ∈ (inCharge flags providers u).flatMap (fieldRules flags),
          rule.JudgesByName := by
        intro rule hrule
        obtain ⟨p, hp, hrule⟩ := List.mem_flatMap.1 hrule
        exact hjudges p hp rule hrule
      have hfragment : ∀ c ∈ u.fragment, ¬ separates c := by
        intro c hc
        exact (hplain c hc).1
      have hv : v.fragment =
          if ∃ rule ∈ rulesInForce providers flags u, rule.deletes u.fragment then []
            else u.fragment := by
        rw [pass_eq_foldl hpass, fragment_foldl_strip hjudges hfragment,
          stripBy_eq_ite hinForce hfragment, nameOf_eq_self hplain, rulesInForce, if_neg hremote]
      -- No equals sign is left for the fragment to be put in order.
      have hnone : '=' ∉ v.fragment := by
        intro hmem
        exact (hplain '=' ((pass_partOf hpass).fragment.subset hmem)).2 rfl
      rw [← hv]
      exact if_neg (by simpa using hnone)
  | redirected _ _ _ => exact absurd List.mem_cons_self (hstays _)

end Clean

/-! ## The tables -/

namespace Bundled

theorem namesLoosely_of_mem :
    ∀ source ∈ tables.flatMap fun t => t.2.rules ++ t.2.referralMarketing,
    (Pattern.read .queryField source).namesLoosely := by
  unfold tables sites networks globalRules amazon google deezer natura dartsearchNet
    doubleclick shareasale
    facebook youtube twitter reddit bing aliexpress tiktok instagram spotify linkedin texts
  simp only [List.cons_append, List.nil_append, List.map_cons, List.map_nil]
  repeat rw [toList_ofList]
  decide +kernel

theorem judgesByName : ∀ p ∈ Store.bundled.providers, ∀ rule ∈ p.rules ++ p.referralMarketing,
    rule.JudgesByName := by
  rw [providers_eq]
  intro p hp rule hrule
  obtain ⟨t, ht, rfl⟩ := List.mem_map.1 hp
  obtain ⟨source, hsource, rfl⟩ : ∃ source ∈ t.2.rules ++ t.2.referralMarketing,
      Pattern.read .queryField source = rule := by
    rw [← List.mem_map, List.map_append]
    exact hrule
  obtain ⟨name, hname⟩ :=
    exists_namesLoosely (namesLoosely_of_mem source (List.mem_flatMap.2 ⟨t, ht, hsource⟩))
  exact hname.judgesByName

end Bundled

/-! ## Anchors -/

namespace Clean

open Bundled

variable {flags : CleanFlags} {u c : Url}

/-- The text of a plain anchor: letters, digits, hyphens and underscores. -/
def IsAnchor (t : Text) : Prop :=
  ∀ c ∈ t, Unicode.isAlphanumeric c ∨ c = '-' ∨ c = '_'

instance (t : Text) : Decidable (IsAnchor t) :=
  List.decidableBAll _ t

theorem IsAnchor.plain {t : Text} (h : IsAnchor t) : Plain t := by
  have hother : ∀ c ∈ ['&', '#', '?', '%', '='],
      ¬ (Unicode.isAlphanumeric c ∨ c = '-' ∨ c = '_') := by
    simp [Unicode.isAlphanumeric]
  intro c hc
  constructor
  · intro hseparates
    have hmark : c = '&' ∨ c = '#' ∨ c = '?' ∨ c = '%' := by simpa [separates] using hseparates
    exact hother c (by rcases hmark with rfl | rfl | rfl | rfl <;> simp) (h c hc)
  · rintro rfl
    exact hother '=' (by simp) (h '=' hc)

/-- A plain anchor survives cleaning, whatever is switched off and as long as no redirection
rule puts another URL in place of this one, unless a rule that is in force deletes fields whose
name is that of the anchor; then the fragment goes. -/
theorem clean_anchor {url : Text} {log : List Pass} (hparse : Url.parse url = .ok u)
    (hanchor : IsAnchor u.fragment) (hcourse : Course Store.bundled.providers flags 0 u log c)
    (hstays : ∀ next, .redirected next ∉ log) :
    Store.bundled.clean flags url = .ok c.text ∧
      c.fragment =
        if ∃ rule ∈ rulesInForce Store.bundled.providers flags u, rule.deletes u.fragment then []
        else u.fragment := by
  have hclean : Store.bundled.clean flags url = .ok c.text := hcourse.clean_eq hparse
  exact ⟨hclean, hcourse.fragment_eq hstays judgesByName hanchor.plain⟩

/-- A page of a site that only the provider for every URL knows. -/
def anchoredPage (t : Text) : Url :=
  ⟨.http, "matrix.org".toList, none, ['/'], [], t⟩

theorem inCharge_of_not_covers {providers : List Provider}
    (h : ∀ p ∈ providers, ¬ covers p flags u) :
    inCharge flags providers u = [] := by
  induction providers with
  | nil => rfl
  | cons p rest ih =>
      obtain ⟨hp, hrest⟩ := List.forall_mem_cons.1 h
      rw [inCharge, if_neg hp, ih hrest]

theorem rulesInForce_anchoredPage {t : Text} (h : ¬ exempts (anchoredPage t).text) :
    rulesInForce Store.bundled.providers {} (anchoredPage t) = generalRules := by
  have hrest := inCharge_of_not_covers
    (not_covers_site (u := strip generalProvider {} (anchoredPage t)) rfl)
  rw [providers_eq_cons] at hrest ⊢
  rw [rulesInForce, if_neg (by simp), inCharge, if_pos ((covers_general _).2 h)]
  exact (congrArg (fun rest => (generalProvider :: rest).flatMap (fieldRules {})) hrest).trans
    (List.append_nil generalRules)

theorem exists_course_anchoredPage {t : Text} (h : ¬ exempts (anchoredPage t).text) :
    ∃ log c, Course Store.bundled.providers {} 0 (anchoredPage t) log c ∧
      (∀ next, .redirected next ∉ log) ∧ c = anchoredPage c.fragment := by
  have hpass : pass {} true Store.bundled.providers (anchoredPage t) =
      .done (strip generalProvider {} (anchoredPage t)) := by
    have hrest := pass_site (u := strip generalProvider {} (anchoredPage t)) rfl true
    rw [providers_eq_cons] at hrest ⊢
    rw [pass_cons_of_covers ((covers_general _).2 h) rfl]
    exact hrest
  exact ⟨_, _, .done (by simp) hpass, by simp, rfl⟩

theorem tracks_anchors : ¬ Tracks "Key-bindings".toList ∧
    ¬ exempts (anchoredPage "Key-bindings".toList).text ∧
      ¬ exempts (anchoredPage "ref".toList).text := by
  unfold Tracks generalRules exempts generalProvider Provider.read globalRules texts
  simp only [List.map_cons, List.map_nil]
  repeat rw [toList_ofList]
  decide +kernel

theorem clean_anchor_site :
    Store.bundled.clean {} "http://matrix.org/#Key-bindings".toList =
        .ok "http://matrix.org/#Key-bindings".toList ∧
      Store.bundled.clean
        {} "http://matrix.org/#ref".toList = .ok "http://matrix.org/".toList := by
  obtain ⟨hother, hexempts, hexempts'⟩ := tracks_anchors
  have htracks : Tracks "ref".toList := tracks_ref
  constructor
  · have hparse : Url.parse "http://matrix.org/#Key-bindings".toList =
        .ok (anchoredPage "Key-bindings".toList) := by decide +kernel
    obtain ⟨log, c, hcourse, hstays, hc⟩ := exists_course_anchoredPage hexempts
    obtain ⟨hclean, hfragment⟩ := clean_anchor hparse (by decide +kernel) hcourse hstays
    rw [rulesInForce_anchoredPage hexempts] at hfragment
    rw [hclean, hc, hfragment.trans (if_neg hother)]
    rfl
  · have hparse :
        Url.parse "http://matrix.org/#ref".toList = .ok (anchoredPage "ref".toList) := by
      decide +kernel
    obtain ⟨log, c, hcourse, hstays, hc⟩ := exists_course_anchoredPage hexempts'
    obtain ⟨hclean, hfragment⟩ := clean_anchor hparse (by decide +kernel) hcourse hstays
    rw [rulesInForce_anchoredPage hexempts'] at hfragment
    rw [hclean, hc, hfragment.trans (if_pos htracks)]
    rfl

/-- Not every anchor survives: fields with the name of this one are deleted from every URL. -/
theorem anchor_not_always_kept :
    ¬ ∀ (flags : CleanFlags) (url : Text) (u c : Url) (log : List Pass), Url.parse url = .ok u →
      IsAnchor u.fragment → Course Store.bundled.providers flags 0 u log c →
        (∀ next, .redirected next ∉ log) → c.fragment = u.fragment := by
  intro h
  obtain ⟨-, -, hexempts⟩ := tracks_anchors
  have htracks : Tracks "ref".toList := tracks_ref
  obtain ⟨log, c, hcourse, hstays, -⟩ := exists_course_anchoredPage hexempts
  have hanchor : IsAnchor "ref".toList := by decide +kernel
  have hgone := hcourse.fragment_eq hstays judgesByName hanchor.plain
  rw [rulesInForce_anchoredPage hexempts] at hgone
  have hkept :=
    h {} "http://matrix.org/#ref".toList _ c log (by decide +kernel) hanchor hcourse hstays
  exact absurd ((hgone.trans (if_pos htracks)).symm.trans hkept) (by decide)

end Clean

end PlainLink
