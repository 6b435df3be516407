/-
# Loading files

A store is loaded table by table, and each table file by file.  What a file holds is
added behind what the files before it hold, so that files may be loaded in two groups
and the stores merged.  A fault is not as simple: of two groups that both fail, it is
not always the first one whose fault is reported, since all files of one table come
before those of the next one.  It is the first file in that order (`inOrder`).

`Table.check` reads a file only to tell whether there is a fault in it, so that files of
different tables can stand in one list; loading a store and checking that list come to
the same fault (`map_load`).

Main statement: `load_append`.
-/
import PlainLink.Proofs.Rule.DomainSet
import PlainLink.Proofs.Rule.Loading

namespace PlainLink

/-! ## One file -/

namespace RuleFile

def providers (file : RuleFile) : Except LoadError (List Provider) := do
  readProviders file.origin (← file.text)

def bodyRules (file : RuleFile) : Except LoadError (List BodyRule) := do
  readBodyRules file.origin (← file.text)

def domains (file : RuleFile) : Except LoadError Domains := do
  readDomains file.origin (← file.text)

end RuleFile

inductive Table where
  | providers
  | bodyRules
  | domains

/-- Reads a file for its table, only to tell whether there is a fault in it. -/
def Table.check : Table × RuleFile → Except LoadError Unit
  | (providers, file) => file.providers.map fun _ => ()
  | (bodyRules, file) => file.bodyRules.map fun _ => ()
  | (domains, file) => file.domains.map fun _ => ()

namespace RuleFiles

/-- All files with their tables, in the order in which they are loaded. -/
def inOrder (files : RuleFiles) : List (Table × RuleFile) :=
  files.providers.map (.providers, ·) ++ files.bodyRules.map (.bodyRules, ·) ++
    files.domains.map (.domains, ·)

/-- The files of two groups, table by table. -/
def append (a b : RuleFiles) : RuleFiles :=
  ⟨a.providers ++ b.providers, a.bodyRules ++ b.bodyRules, a.domains ++ b.domains⟩

end RuleFiles

/-! ## Loading -/

theorem load_eq (files : RuleFiles) :
    Store.load files = (do
      let providers ← files.providers.mapM RuleFile.providers
      let bodyRules ← files.bodyRules.mapM RuleFile.bodyRules
      let domains ← files.domains.mapM RuleFile.domains
      return Store.mk providers.flatten bodyRules.flatten
        (domains.foldl Domains.absorb .empty)) := rfl

theorem load_eq_ok_iff {files : RuleFiles} {s : Store} :
    Store.load files = .ok s ↔
      ∃ providers bodyRules domains, files.providers.mapM RuleFile.providers = .ok providers ∧
        files.bodyRules.mapM RuleFile.bodyRules = .ok bodyRules ∧
        files.domains.mapM RuleFile.domains = .ok domains ∧
        s = ⟨providers.flatten, bodyRules.flatten, domains.foldl Domains.absorb .empty⟩ := by
  constructor
  · intro h
    obtain ⟨providers, hproviders, h⟩ := exists_of_bind_eq_ok h
    obtain ⟨bodyRules, hbodyRules, h⟩ := exists_of_bind_eq_ok h
    obtain ⟨domains, hdomains, h⟩ := exists_of_bind_eq_ok h
    cases h
    exact ⟨providers, bodyRules, domains, hproviders, hbodyRules, hdomains, rfl⟩
  · rintro ⟨providers, bodyRules, domains, hproviders, hbodyRules, hdomains, rfl⟩
    rw [load_eq, hproviders, hbodyRules, hdomains]
    rfl

/-- Loading a store and checking its files one after the other come to the same fault. -/
theorem map_load (files : RuleFiles) :
    (Store.load files).map (fun _ => ()) = (files.inOrder.mapM Table.check).map fun _ => () := by
  have hcheck : files.inOrder.mapM Table.check = (do
      let providers ← (files.providers.mapM RuleFile.providers).map (List.map fun _ => ())
      let bodyRules ← (files.bodyRules.mapM RuleFile.bodyRules).map (List.map fun _ => ())
      let domains ← (files.domains.mapM RuleFile.domains).map (List.map fun _ => ())
      pure (providers ++ bodyRules ++ domains)) := by
    simp only [RuleFiles.inOrder, List.mapM_append, List.mapM_map, ← mapM_map_eq,
      bind_assoc, pure_bind]
    rfl
  rw [load_eq, hcheck]
  cases files.providers.mapM RuleFile.providers with
  | error e => rfl
  | ok providers =>
      cases files.bodyRules.mapM RuleFile.bodyRules with
      | error e => rfl
      | ok bodyRules => cases files.domains.mapM RuleFile.domains <;> rfl

theorem load_eq_error_iff {files : RuleFiles} {e : LoadError} :
    Store.load files = .error e ↔ FirstFails Table.check files.inOrder e := by
  rw [← mapM_eq_error_iff, ← map_eq_error_iff (g := fun _ => ()), map_load, map_eq_error_iff]

/-! ## Two groups of files -/

/-- Two groups of files are loaded together exactly where each is loaded, and what they hold
together is the stores of both, merged: providers and body rules one behind the other, and
the domains of both.  Where they are not loaded together, there is no store, and the fault
is that of the first file that has one, of all files of providers, then all of body rules,
then all of domains. -/
theorem load_append (a b : RuleFiles) :
    ((∃ s, Store.load (a.append b) = .ok s) ↔
      (∃ s, Store.load a = .ok s) ∧ ∃ s, Store.load b = .ok s) ∧
    (∀ s, Store.load (a.append b) = .ok s ↔
      ∃ s₁ s₂, Store.load a = .ok s₁ ∧ Store.load b = .ok s₂ ∧ s = s₁.merge s₂) ∧
    ∀ e, Store.load (a.append b) = .error e ↔ FirstFails Table.check (a.append b).inOrder e := by
  have hstore (s : Store) : Store.load (a.append b) = .ok s ↔
      ∃ s₁ s₂, Store.load a = .ok s₁ ∧ Store.load b = .ok s₂ ∧ s = s₁.merge s₂ := by
    constructor
    · intro h
      obtain ⟨providers, bodyRules, domains, hproviders, hbodyRules, hdomains, rfl⟩ :=
        load_eq_ok_iff.1 h
      obtain ⟨ps, ps', hps, hps', rfl⟩ := mapM_append_eq_ok_iff.1 hproviders
      obtain ⟨bs, bs', hbs, hbs', rfl⟩ := mapM_append_eq_ok_iff.1 hbodyRules
      obtain ⟨ds, ds', hds, hds', rfl⟩ := mapM_append_eq_ok_iff.1 hdomains
      refine ⟨_, _, load_eq_ok_iff.2 ⟨ps, bs, ds, hps, hbs, hds, rfl⟩,
        load_eq_ok_iff.2 ⟨ps', bs', ds', hps', hbs', hds', rfl⟩, ?_⟩
      rw [Store.merge, List.flatten_append, List.flatten_append, Domains.foldl_absorb_append]
    · rintro ⟨s₁, s₂, h₁, h₂, rfl⟩
      obtain ⟨ps, bs, ds, hps, hbs, hds, rfl⟩ := load_eq_ok_iff.1 h₁
      obtain ⟨ps', bs', ds', hps', hbs', hds', rfl⟩ := load_eq_ok_iff.1 h₂
      refine load_eq_ok_iff.2 ⟨ps ++ ps', bs ++ bs', ds ++ ds',
        mapM_append_eq_ok_iff.2 ⟨ps, ps', hps, hps', rfl⟩,
        mapM_append_eq_ok_iff.2 ⟨bs, bs', hbs, hbs', rfl⟩,
        mapM_append_eq_ok_iff.2 ⟨ds, ds', hds, hds', rfl⟩, ?_⟩
      rw [Store.merge, List.flatten_append, List.flatten_append, Domains.foldl_absorb_append]
  refine ⟨?_, hstore, fun e => load_eq_error_iff⟩
  constructor
  · rintro ⟨s, h⟩
    obtain ⟨s₁, s₂, h₁, h₂, -⟩ := (hstore s).1 h
    exact ⟨⟨s₁, h₁⟩, ⟨s₂, h₂⟩⟩
  · rintro ⟨⟨s₁, h₁⟩, ⟨s₂, h₂⟩⟩
    exact ⟨_, (hstore _).2 ⟨s₁, s₂, h₁, h₂, rfl⟩⟩

end PlainLink
