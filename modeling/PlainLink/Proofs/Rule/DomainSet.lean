/-
# Sets of domains as rising lists

The hosts of a set stand in rising order, and a host that is put in finds its place
there.  A rising list is determined by what is in it: in whatever order and grouping
hosts come, the same hosts are the same set.

Main statements: `Domains.Rising.place`, `Domains.Rising.absorb`, `Domains.Rising.ext`.
-/
import Mathlib.Data.List.Sort
import Mathlib.Data.Char
import Mathlib.Data.List.Lex
import PlainLink.Rule.Domains

namespace PlainLink

theorem Text.before_iff_lt {s t : Text} : Text.before s t ↔ s < t := by
  induction s generalizing t with
  | nil => cases t <;> simp [Text.before]
  | cons a s ih =>
      cases t with
      | nil => simp [Text.before]
      | cons b t =>
          rw [List.cons_lt_cons_iff, Text.before]
          split
          · next hab => simp [hab, ih]
          · next hab => simp [hab]

namespace Domains

/-- The hosts stand in rising order, each once. -/
def Rising (hosts : List Text) : Prop :=
  hosts.Pairwise (· < ·)

theorem Rising.empty : Rising empty.hosts := .nil

variable {hosts hosts' : List Text}

/-- A host that is put in leaves the list rising. -/
theorem Rising.place (h : Rising hosts) (host : Text) : Rising (place host hosts) := by
  induction hosts with
  | nil => exact List.pairwise_singleton _ _
  | cons first rest ih =>
      obtain ⟨hfirst, hrest⟩ := List.pairwise_cons.1 h
      unfold Domains.place
      split
      · exact h
      · next hne =>
        split
        · next hbefore =>
          have hlt := Text.before_iff_lt.1 hbefore
          refine List.pairwise_cons.2 ⟨fun t ht => ?_, h⟩
          rcases List.mem_cons.1 ht with rfl | ht
          · exact hlt
          · exact hlt.trans (hfirst t ht)
        · next hbefore =>
          have hlt : first < host :=
            lt_of_le_of_ne (not_lt.1 fun hlt => hbefore (Text.before_iff_lt.2 hlt)) (Ne.symm hne)
          refine List.pairwise_cons.2 ⟨fun t ht => ?_, ih hrest⟩
          rcases mem_place.1 ht with rfl | ht
          · exact hlt
          · exact hfirst t ht

/-- Rising lists of the same hosts are the same. -/
theorem Rising.ext (h : Rising hosts) (h' : Rising hosts') (hmem : ∀ t, t ∈ hosts ↔ t ∈ hosts') :
    hosts = hosts' :=
  List.Pairwise.eq_of_mem_iff h h' hmem

theorem mem_foldl_place {more : List Text} {t : Text} :
    t ∈ more.foldl (fun hosts host => Domains.place host hosts) hosts ↔
      t ∈ hosts ∨ t ∈ more := by
  induction more generalizing hosts with
  | nil => simp
  | cons host more ih =>
      rw [List.foldl_cons, ih, mem_place, List.mem_cons, or_comm (a := t = host), or_assoc]

theorem mem_absorb {d other : Domains} {t : Text} :
    t ∈ (d.absorb other).hosts ↔ t ∈ d.hosts ∨ t ∈ other.hosts :=
  mem_foldl_place

theorem Rising.absorb {d : Domains} (h : Rising d.hosts) (other : Domains) :
    Rising (d.absorb other).hosts := by
  unfold Domains.absorb
  dsimp only
  induction other.hosts generalizing d with
  | nil => exact h
  | cons host more ih => exact ih (d := ⟨Domains.place host d.hosts⟩) (h.place host)

theorem mem_foldl_absorb {d : Domains} {sets : List Domains} {t : Text} :
    t ∈ (sets.foldl Domains.absorb d).hosts ↔ t ∈ d.hosts ∨ ∃ set ∈ sets, t ∈ set.hosts := by
  induction sets generalizing d with
  | nil => simp
  | cons set sets ih => rw [List.foldl_cons, ih, mem_absorb, or_assoc]; simp

theorem Rising.foldl_absorb {d : Domains} (h : Rising d.hosts) (sets : List Domains) :
    Rising (sets.foldl Domains.absorb d).hosts := by
  induction sets generalizing d with
  | nil => exact h
  | cons set sets ih => exact ih (h.absorb set)

theorem foldl_absorb_append (sets sets' : List Domains) :
    (sets ++ sets').foldl Domains.absorb .empty =
      (sets.foldl Domains.absorb .empty).absorb (sets'.foldl Domains.absorb .empty) := by
  have hhosts : ((sets ++ sets').foldl Domains.absorb .empty).hosts =
      ((sets.foldl Domains.absorb .empty).absorb (sets'.foldl Domains.absorb .empty)).hosts := by
    refine (Rising.empty.foldl_absorb _).ext ((Rising.empty.foldl_absorb _).absorb _) fun t => ?_
    simp only [mem_foldl_absorb, mem_absorb, List.mem_append, or_and_right, exists_or, empty,
      List.not_mem_nil, false_or]
  exact congrArg Domains.mk hhosts

end Domains

end PlainLink
