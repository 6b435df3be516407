/-
# Sets of domains by what was added

A set is built by putting hosts in, one by one or several at once, and by taking over
the hosts of another set, which was built in the same way.  What is taken over is not
put into normal form again; it need not be, because a set holds nothing but normal
forms, whatever its history.  So a set is known by the normal forms of the hosts that
were ever added, in whatever order and grouping.

`History` is the tree of these additions, `History.domains` the set that was built, and
`History.hosts` all hosts that were added, as they were written.  The induction is on
the history; the rest is that a rising list is known by what is in it.

Main statement: `domains_of_history`.
-/
import Mathlib.Data.Finset.Card
import Mathlib.Data.Finset.Dedup
import PlainLink.Proofs.Rule.DomainSet

namespace PlainLink.Domains

/-- How a set of domains came to be. -/
inductive History where
  | empty
  | insert (earlier : History) (host : Text)
  | insertAll (earlier : History) (hosts : List Text)
  | absorb (earlier other : History)

namespace History

/-- The set that was built. -/
def domains : History → Domains
  | empty => .empty
  | insert earlier host => (earlier.domains.add host).2
  | insertAll earlier hosts => earlier.domains.insertAll hosts
  | absorb earlier other => earlier.domains.absorb other.domains

/-- The hosts that were added, as they were written, those of absorbed sets among them. -/
def hosts : History → List Text
  | empty => []
  | insert earlier host => earlier.hosts ++ [host]
  | insertAll earlier hosts => earlier.hosts ++ hosts
  | absorb earlier other => earlier.hosts ++ other.hosts

end History

/-! ## Steps -/

theorem mem_insertAll {d : Domains} {hosts : List Text} {t : Text} :
    t ∈ (d.insertAll hosts).hosts ↔ t ∈ d.hosts ∨ t ∈ hosts.map normal := by
  induction hosts generalizing d with
  | nil => simp [insertAll]
  | cons host hosts ih =>
    have hstep : d.insertAll (host :: hosts) = (d.insert host).insertAll hosts := rfl
    have hinsert : t ∈ (d.insert host).hosts ↔ t = normal host ∨ t ∈ d.hosts := mem_place
    rw [hstep, ih, hinsert, List.map_cons, List.mem_cons,
      or_comm (a := t = normal host), or_assoc]

theorem Rising.insertAll {d : Domains} (h : Rising d.hosts) (hosts : List Text) :
    Rising (d.insertAll hosts).hosts := by
  induction hosts generalizing d with
  | nil => exact h
  | cons host hosts ih =>
    have hstep : Rising (d.insert host).hosts := h.place (normal host)
    exact ih hstep

/-- A text that is put into a list makes it longer by one, unless it is there. -/
theorem length_place {hosts : List Text} (h : Rising hosts) (host : Text) :
    (place host hosts).length = if host ∈ hosts then hosts.length else hosts.length + 1 := by
  have hnodup : hosts.Nodup := h.imp ne_of_lt
  have hplaced : (place host hosts).Nodup := (h.place host).imp ne_of_lt
  have hmem : (place host hosts).toFinset = Insert.insert host hosts.toFinset := by
    ext t
    simp [mem_place]
  rw [← List.toFinset_card_of_nodup hplaced, hmem, Finset.card_insert_eq_ite,
    List.toFinset_card_of_nodup hnodup]
  simp only [List.mem_toFinset]

theorem add_fst {d : Domains} (h : Rising d.hosts) (host : Text) :
    (d.add host).1 = !d.contains host := by
  have hsize : (d.insert host).size = if normal host ∈ d.hosts then d.size else d.size + 1 :=
    length_place h (normal host)
  unfold add contains
  dsimp only
  rw [hsize]
  by_cases hmem : normal host ∈ d.hosts
  · simp [hmem]
  · simp [hmem]

/-! ## Histories -/

namespace History

theorem rising (h : History) : Rising h.domains.hosts := by
  induction h with
  | empty => exact Rising.empty
  | insert earlier host ih => exact ih.place (normal host)
  | insertAll earlier hosts ih => exact ih.insertAll hosts
  | absorb earlier other ih _ => exact ih.absorb other.domains

theorem mem_domains {h : History} {t : Text} : t ∈ h.domains.hosts ↔ t ∈ h.hosts.map normal := by
  induction h with
  | empty => exact Iff.rfl
  | insert earlier host ih =>
    have hinsert : t ∈ (earlier.insert host).domains.hosts ↔
        t = normal host ∨ t ∈ earlier.domains.hosts := mem_place
    rw [hinsert, ih, hosts, List.map_append, List.mem_append, List.map_singleton,
      List.mem_singleton, or_comm]
  | insertAll earlier more ih =>
    rw [domains, mem_insertAll, ih, hosts, List.map_append, List.mem_append]
  | absorb earlier other ih ihOther =>
    rw [domains, mem_absorb, ih, ihOther, hosts, List.map_append, List.mem_append]

theorem toFinset_domains (h : History) :
    h.domains.hosts.toFinset = (h.hosts.map normal).toFinset := by
  ext t
  rw [List.mem_toFinset, List.mem_toFinset, mem_domains]

end History

/-- Whatever the history of a set, a host is in it exactly if a host with the same normal form
was added; one more host makes it grow exactly if it was not in it; there are as many domains
as normal forms were added; and two histories have built the same set exactly if they have
added the same normal forms, in whatever order and grouping. -/
theorem domains_of_history (h : History) :
    (∀ host, h.domains.contains host ↔ ∃ added ∈ h.hosts, normal added = normal host) ∧
    (∀ host, (h.domains.add host).1 = true ↔ h.domains.contains host = false) ∧
    h.domains.size = (h.hosts.map normal).toFinset.card ∧
    ∀ other : History, h.domains = other.domains ↔
      (h.hosts.map normal).toFinset = (other.hosts.map normal).toFinset := by
  refine ⟨fun host => ?_, fun host => ?_, ?_, fun other => ⟨fun hsame => ?_, fun hsame => ?_⟩⟩
  · rw [contains, List.contains_iff_mem, History.mem_domains, List.mem_map]
  · rw [add_fst h.rising, Bool.not_eq_true']
  · have hnodup : h.domains.hosts.Nodup := h.rising.imp ne_of_lt
    rw [← h.toFinset_domains, List.toFinset_card_of_nodup hnodup]
    rfl
  · rw [← h.toFinset_domains, ← other.toFinset_domains, hsame]
  · have hhosts : h.domains.hosts = other.domains.hosts := by
      refine h.rising.ext other.rising fun t => ?_
      rw [← List.mem_toFinset, h.toFinset_domains, hsame, ← other.toFinset_domains,
        List.mem_toFinset]
    exact congrArg Domains.mk hhosts

end PlainLink.Domains
