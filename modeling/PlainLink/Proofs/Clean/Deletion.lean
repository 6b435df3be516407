/-
# Cleaning deletes

Whatever the rules of a provider are, all it does to a URL (short of redirecting it) is
to leave out characters of the path, the query and the fragment, and so is putting the
field lists in order.

This holds although rules substitute: a match is replaced by a group of it or by
nothing, and a group is a part of the match.  `PartOf` puts the three sublists and the
equal servers together, and being a part is transitive, so that it goes through all
providers of a pass.

Main statement: `pass_partOf`.
-/
import PlainLink.Clean.Cleaner
import PlainLink.Proofs.Rule.FieldList
import PlainLink.Proofs.Url.ReadBack

namespace PlainLink

/-! ## Rules -/

theorem Pattern.stripAll_sublist (rule : Pattern) (t : Text) : (rule.stripAll t).Sublist t :=
  Regex.replaceAll_sublist (fun _ => List.nil_sublist _) t

namespace Clean

theorem foldl_sublist {strip : Pattern → Text → Text}
    (hstrip : ∀ rule t, (strip rule t).Sublist t)
    (rules : List Pattern) (t : Text) :
    (rules.foldl (fun t rule => strip rule t) t).Sublist t := by
  induction rules generalizing t with
  | nil => exact .refl _
  | cons rule rules ih => exact (ih _).trans (hstrip rule t)

/-! ## Providers -/

theorem stripTracking_sublist (p : Provider) (flags : CleanFlags) (t : Text) :
    (stripTracking p flags t).Sublist t := by
  have hrules : (if flags.ignoreRules then t
      else p.rules.foldl (fun t rule => rule.stripFields t) t).Sublist t := by
    split
    · exact .refl _
    · exact foldl_sublist Pattern.stripFields_sublist _ _
  unfold stripTracking
  dsimp only
  split
  · exact hrules
  · exact (foldl_sublist Pattern.stripFields_sublist _ _).trans hrules

theorem stripPath_sublist (p : Provider) (flags : CleanFlags) (t : Text) :
    (stripPath p flags t).Sublist t := by
  unfold stripPath
  split
  · exact .refl _
  · exact foldl_sublist Pattern.stripAll_sublist _ _

theorem emptied_sublist {part whole : Text} (h : part.Sublist whole) :
    (if whole.isEmpty then [] else part).Sublist whole := by
  split
  · exact List.nil_sublist _
  · exact h

theorem strip_partOf (p : Provider) (flags : CleanFlags) (u : Url) :
    (strip p flags u).PartOf u where
  scheme := rfl
  host := rfl
  writtenPort := rfl
  path := emptied_sublist (stripPath_sublist p flags _)
  query := emptied_sublist (stripTracking_sublist p flags _)
  fragment := emptied_sublist (stripTracking_sublist p flags _)

theorem tidy_partOf (flags : CleanFlags) (u : Url) : (tidy flags u).PartOf u where
  scheme := rfl
  host := rfl
  writtenPort := rfl
  path := .refl _
  query := emptied_sublist (filterQuery_sublist _ _ _)
  fragment := by
    unfold tidy
    dsimp only
    split
    · exact filterQuery_sublist _ _ _
    · exact .refl _

/-- A pass that is not redirected only deletes. -/
theorem pass_partOf {flags : CleanFlags} {follow : Bool} {providers : List Provider} {u v : Url}
    (h : pass flags follow providers u = .done v) : v.PartOf u := by
  induction providers generalizing u with
  | nil =>
      cases h
      exact .refl _
  | cons p rest ih =>
      unfold pass at h
      split at h
      · split at h
        · cases h
        · exact (strip_partOf p flags u).trans (ih h)
      · exact ih h

theorem pass_done (flags : CleanFlags) (providers : List Provider) (u : Url) :
    ∃ v, pass flags false providers u = .done v := by
  induction providers generalizing u with
  | nil => exact ⟨u, rfl⟩
  | cons p rest ih =>
      unfold pass
      split
      · exact ih (strip p flags u)
      · exact ih u

end Clean

end PlainLink
