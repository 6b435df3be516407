/-
# The tables that come with the library

All rules of the tables compile, so that the store holds the provider of each table in
its order.  Reading a table rule by rule gives the same providers, each rule for itself:
what is asked of one rule can be answered without compiling the others.

Compiling all tables at once is too much for one evaluation, so each rule is compiled by
itself (`isSome_compiled`), and the store is never evaluated.
-/
import PlainLink.Proofs.Rule.Traversal
import PlainLink.Rule.Bundled

namespace PlainLink

/-! ## Reading rule by rule -/

/-- The compiled rule; one that does not compile matches every text. -/
def Pattern.read (use : Use) (source : Text) : Pattern :=
  match Pattern.compile use source with
  | .ok p => p
  | .error _ => ⟨source, use, ⟨.empty, _, rfl⟩⟩

def Provider.read (name : Text) (p : ProviderText) : Provider where
  name
  urlPattern := .read .anchored p.urlPattern
  completeProvider := p.completeProvider
  rules := p.rules.map (.read .queryField)
  rawRules := p.rawRules.map (.read .raw)
  referralMarketing := p.referralMarketing.map (.read .queryField)
  exceptions := p.exceptions.map (.read .anchored)
  redirections := p.redirections.map (.read .redirection)
  forceRedirection := p.forceRedirection

theorem eq_read_of_compileRule {provider : Text} {use : Use} {source : Text} {p : Pattern}
    (h : compileRule provider use source = .ok p) : p = .read use source := by
  unfold compileRule at h
  rw [Pattern.read]
  cases hcompile : Pattern.compile use source with
  | error e =>
      rw [hcompile] at h
      cases h
  | ok q =>
      rw [hcompile] at h
      cases h
      rfl

theorem eq_map_of_mapM {α β ε : Type} {f : α → Except ε β} {g : α → β}
    (hf : ∀ {a b}, f a = .ok b → b = g a) {as : List α} {bs : List β} (h : as.mapM f = .ok bs) :
    bs = as.map g := by
  have hitems := mapM_eq_ok_iff.1 h
  clear h
  induction hitems with
  | nil => rfl
  | cons hb _ ih => rw [hf hb, ih, List.map_cons]

theorem eq_read_of_compile {name : Text} {p : ProviderText} {q : Provider}
    (h : p.compile name = .ok q) : q = .read name p := by
  obtain ⟨urlPattern, hurl, h⟩ := exists_of_bind_eq_ok h
  obtain ⟨rules, hrules, h⟩ := exists_of_bind_eq_ok h
  obtain ⟨rawRules, hraw, h⟩ := exists_of_bind_eq_ok h
  obtain ⟨referralMarketing, hreferral, h⟩ := exists_of_bind_eq_ok h
  obtain ⟨exceptions, hexceptions, h⟩ := exists_of_bind_eq_ok h
  obtain ⟨redirections, hredirections, h⟩ := exists_of_bind_eq_ok h
  cases h
  rw [Provider.read, eq_read_of_compileRule hurl, eq_map_of_mapM eq_read_of_compileRule hrules,
    eq_map_of_mapM eq_read_of_compileRule hraw, eq_map_of_mapM eq_read_of_compileRule hreferral,
    eq_map_of_mapM eq_read_of_compileRule hexceptions,
    eq_map_of_mapM eq_read_of_compileRule hredirections]

/-! ## The store -/

namespace Bundled

def tables : List (Text × ProviderText) :=
  sites ++ networks

theorem toList_ofList (l : List Char) : (String.ofList l).toList = l :=
  String.toList_ofList

/-- Every rule of the tables compiles. -/
theorem isSome_compiled : Store.compiled.toOption.isSome := by
  unfold Store.compiled sites networks globalRules amazon google deezer natura
    dartsearchNet doubleclick
    shareasale facebook youtube twitter reddit bing aliexpress tiktok instagram spotify
      linkedin pages texts
  simp only [List.map_cons, List.map_nil]
  repeat rw [toList_ofList]
  decide +kernel

theorem providers_eq : Store.bundled.providers = tables.map fun t => .read t.1 t.2 := by
  cases hcompiled : Store.compiled with
  | error e =>
      have hsome := isSome_compiled
      rw [hcompiled] at hsome
      cases hsome
  | ok store =>
      have hbundled : Store.bundled = store := congrArg (·.toOption.getD .empty) hcompiled
      obtain ⟨providers, hproviders, h⟩ := exists_of_bind_eq_ok hcompiled
      obtain ⟨bodyRules, -, h⟩ := exists_of_bind_eq_ok h
      have hread : ∀ {t : Text × ProviderText} {q : Provider}, t.2.compile t.1 = .ok q →
          q = .read t.1 t.2 := eq_read_of_compile
      rw [hbundled, ← Except.ok.inj h]
      exact eq_map_of_mapM hread hproviders

end Bundled

end PlainLink
