/-
# Loading a document of providers

A document names its providers one after the other.  Each is read by itself, and its
rules are compiled in the order of its lists; so the first fault that is met is the
first one in the order of the document, and nothing behind it has a say.  A name that
comes again is no new entry: it keeps its first place and takes the last value.

Three relations say what is to be proved without saying how it is done:

    Collapsed    the entries are the members, each name once
    Builds       an entry describes a provider
    Spoils       an entry has a fault: another shape, or a rule that does not compile

The shape of an entry is checked before any of its rules, and all rules of an entry
before the next entry.  That makes the fault that is reported a first one of a list of
lists; going through such lists is proved once, for lists of anything that can fail.

Main statement: `readProviders_by_entries`.
-/
import Mathlib.Data.List.Induction
import PlainLink.Proofs.Rule.Traversal
import PlainLink.Rule.Document

namespace PlainLink

/-! ## Repeated names -/

/-- Each name stands once, in the order in which the names first come, with the
value that it has last. -/
structure Collapsed (members entries : List (Text × Json)) : Prop where
  names : entries.map (·.1) = (members.map (·.1)).eraseDups
  values : ∀ name, entries.lookup name = members.reverse.lookup name

namespace Json

variable {α : Type} (key : Text) (value : α)

theorem names_putMember (map : List (Text × α)) :
    (putMember key value map).map (·.1) =
      if key ∈ map.map (·.1) then map.map (·.1) else map.map (·.1) ++ [key] := by
  induction map with
  | nil => rfl
  | cons first rest ih =>
      obtain ⟨k, v⟩ := first
      by_cases hk : k = key
      · simp [putMember, hk]
      · have hne : key ≠ k := Ne.symm hk
        simp only [putMember, if_neg hk, List.map_cons, ih, List.mem_cons, hne, false_or]
        split <;> rfl

omit key value in
theorem lookup_cons_eq (name k : Text) (v : α) (rest : List (Text × α)) :
    List.lookup name ((k, v) :: rest) = if name = k then some v else rest.lookup name := by
  by_cases hname : name = k
  · simp [hname]
  · have hfalse : (name == k) = false := by simpa using hname
    rw [List.lookup_cons, hfalse, if_neg hname]

theorem lookup_putMember (map : List (Text × α)) (name : Text) :
    (putMember key value map).lookup name =
      if name = key then some value else map.lookup name := by
  induction map with
  | nil => exact lookup_cons_eq name key value []
  | cons first rest ih =>
      obtain ⟨k, v⟩ := first
      by_cases hk : k = key
      · subst hk
        rw [putMember, if_pos rfl, lookup_cons_eq, lookup_cons_eq]
        split <;> rfl
      · rw [putMember, if_neg hk, lookup_cons_eq, lookup_cons_eq, ih]
        split
        · next hname => rw [if_neg (hname ▸ hk)]
        · rfl

end Json

theorem collapsed_foldl (members : List (Text × Json)) :
    Collapsed members
      (members.foldl (fun map (key, value) => Json.putMember key value map) []) := by
  -- On the members from the last one on, which is put into the map last.
  induction members using List.reverseRecOn with
  | nil => exact ⟨rfl, fun _ => rfl⟩
  | append_singleton members last ih =>
      obtain ⟨key, value⟩ := last
      rw [List.foldl_append]
      refine ⟨?_, fun name => ?_⟩
      · simp only [List.foldl_cons, List.foldl_nil, Json.names_putMember, List.map_append,
          List.map_cons, List.map_nil, List.eraseDups_append, ih.names]
        by_cases hkey : key ∈ members.map (·.1)
        · simp [List.removeAll, hkey]
        · simp [List.removeAll, hkey, List.eraseDups_cons]
      · rw [List.reverse_append, List.foldl_cons, List.foldl_nil,
          Json.lookup_putMember, ih.values]
        exact (Json.lookup_cons_eq name key value members.reverse).symm

/-! ## The entries of a document -/

/-- An object as it is written, with names that are texts. -/
def spelled (members : List (Text × Json)) : Json :=
  .object (members.map fun (name, value) => (some name, value))

/-- The document is a record with a field `providers`, or a row with this field alone, and the
field is an object with these members. -/
inductive Lists (text : Text) (members : List (Text × Json)) : Prop
  | record {fields : List (Option Text × Json)} : Json.parse? text = some (.object fields) →
      (some "providers".toList, spelled members) ∈ fields → Lists text members
  | row : Json.parse? text = some (.array [spelled members]) → Lists text members

theorem eq_map_of_named {written : List (Option Text × Json)} {named : List (Text × Json)}
    (h : written.mapM (fun (key, value) => key.map (·, value)) = some named) :
    written = named.map fun (name, value) => (some name, value) := by
  induction written generalizing named with
  | nil =>
      cases h
      rfl
  | cons first written ih =>
      obtain ⟨key, value⟩ := first
      rw [List.mapM_cons] at h
      obtain ⟨member, hkey, h⟩ := Option.bind_eq_some_iff.1 h
      obtain ⟨named, hnamed, h⟩ := Option.bind_eq_some_iff.1 h
      obtain ⟨name, rfl, rfl⟩ := Option.map_eq_some_iff.1 hkey
      cases h
      rw [ih hnamed, List.map_cons]

theorem mem_of_recordFields {names : List String} {written : List (Option Text × Json)}
    {fields : List (Text × Json)} (h : recordFields names written = some fields) {name : Text}
    {value : Json} (hmem : (name, value) ∈ fields) :
    (some name, value) ∈ written ∧ ∃ known ∈ names, known.toList = name := by
  obtain ⟨named, hnamed, h⟩ := Option.bind_eq_some_iff.1 h
  dsimp only at h
  split at h
  · cases h
    obtain ⟨hmem, hknown⟩ := List.mem_filter.1 hmem
    rw [eq_map_of_named hnamed]
    exact ⟨List.mem_map_of_mem hmem, by simpa using hknown⟩
  · cases h

theorem exists_spelled {object : Json} {entries : List (Text × Json)}
    (h : object.entries? = some entries) :
    ∃ members, object = spelled members ∧ Collapsed members entries := by
  unfold Json.entries? at h
  split at h
  · obtain ⟨members, hmembers, h⟩ := Option.bind_eq_some_iff.1 h
    cases h
    exact ⟨members, congrArg Json.object (eq_map_of_named hmembers), collapsed_foldl members⟩
  · cases h

theorem exists_lists {text : Text} {entries : List (Text × Json)}
    (h : providerEntries? text = some entries) :
    ∃ members, Lists text members ∧ Collapsed members entries := by
  obtain ⟨root, hroot, h⟩ := Option.bind_eq_some_iff.1 h
  dsimp only at h
  -- Both forms of the document lead to one object, whose entries are read.
  split at h
  · obtain ⟨fields, hfields, h⟩ := Option.bind_eq_some_iff.1 h
    obtain ⟨providers, hproviders, h⟩ := Option.bind_eq_some_iff.1 h
    obtain ⟨⟨name, value⟩, hhead, rfl⟩ := Option.map_eq_some_iff.1 hproviders
    obtain ⟨hmem, known, hknown, rfl⟩ :=
      mem_of_recordFields hfields (List.mem_of_mem_head? hhead)
    rw [List.mem_singleton.1 hknown] at hmem
    split at h
    · split at h
      · obtain ⟨members, hobject, hentries⟩ := exists_spelled h
        exact ⟨members, .record hroot (hobject ▸ hmem), hentries⟩
      · cases h
    · cases h
  · obtain ⟨providers, hproviders, h⟩ := Option.bind_eq_some_iff.1 h
    rw [Option.some.inj hproviders] at hroot
    split at h
    · split at h
      · obtain ⟨members, hobject, hentries⟩ := exists_spelled h
        exact ⟨members, .row (hobject ▸ hroot), hentries⟩
      · cases h
    · cases h
  · cases h

/-! ## Building a provider -/

/-- The rules of a provider with their uses, in the order in which they are compiled. -/
def ProviderText.patterns (p : ProviderText) : List (Use × Text) :=
  (.anchored, p.urlPattern) :: (p.rules.map (.queryField, ·) ++ p.rawRules.map (.raw, ·) ++
    p.referralMarketing.map (.queryField, ·) ++ p.exceptions.map (.anchored, ·) ++
    p.redirections.map (.redirection, ·))

def Compiles (rule : Use × Text) : Prop :=
  ∃ pattern, Pattern.compile rule.1 rule.2 = .ok pattern

/-- The patterns are those of the rules, one for each, in their order. -/
def CompiledTo (use : Use) : List Text → List Pattern → Prop :=
  List.Forall₂ fun source pattern => Pattern.compile use source = .ok pattern

/-- The provider is built of what is written, under the name. -/
structure ProviderText.BuiltAs (p : ProviderText) (name : Text) (q : Provider) : Prop where
  name : q.name = name
  urlPattern : Pattern.compile .anchored p.urlPattern = .ok q.urlPattern
  completeProvider : q.completeProvider = p.completeProvider
  rules : CompiledTo .queryField p.rules q.rules
  rawRules : CompiledTo .raw p.rawRules q.rawRules
  referralMarketing : CompiledTo .queryField p.referralMarketing q.referralMarketing
  exceptions : CompiledTo .anchored p.exceptions q.exceptions
  redirections : CompiledTo .redirection p.redirections q.redirections
  forceRedirection : q.forceRedirection = p.forceRedirection

theorem compileRule_eq_ok_iff {name source : Text} {use : Use} {pattern : Pattern} :
    compileRule name use source = .ok pattern ↔ Pattern.compile use source = .ok pattern := by
  unfold compileRule
  cases Pattern.compile use source <;> simp [Except.mapError]

theorem compileRule_eq_error_iff {name source : Text} {use : Use} {e : LoadError} :
    compileRule name use source = .error e ↔
      ∃ reason, Pattern.compile use source = .error reason ∧
        e = .pattern name source reason := by
  unfold compileRule
  cases Pattern.compile use source <;> simp [Except.mapError, eq_comm]

theorem compiledTo_iff {name : Text} {use : Use} {sources : List Text}
    {patterns : List Pattern} :
    sources.mapM (compileRule name use) = .ok patterns ↔ CompiledTo use sources patterns := by
  rw [mapM_eq_ok_iff]
  simp only [compileRule_eq_ok_iff, CompiledTo]

theorem ProviderText.compile_eq_ok_iff {p : ProviderText} {name : Text} {q : Provider} :
    p.compile name = .ok q ↔ p.BuiltAs name q := by
  constructor
  · intro h
    obtain ⟨urlPattern, hurl, h⟩ := exists_of_bind_eq_ok h
    obtain ⟨rules, hrules, h⟩ := exists_of_bind_eq_ok h
    obtain ⟨rawRules, hraw, h⟩ := exists_of_bind_eq_ok h
    obtain ⟨referralMarketing, hreferral, h⟩ := exists_of_bind_eq_ok h
    obtain ⟨exceptions, hexceptions, h⟩ := exists_of_bind_eq_ok h
    obtain ⟨redirections, hredirections, h⟩ := exists_of_bind_eq_ok h
    cases h
    exact ⟨rfl, compileRule_eq_ok_iff.1 hurl, rfl, compiledTo_iff.1 hrules,
      compiledTo_iff.1 hraw, compiledTo_iff.1 hreferral, compiledTo_iff.1 hexceptions,
        compiledTo_iff.1 hredirections, rfl⟩
  · rintro ⟨rfl, hurl, hcomplete, hrules, hraw, hreferral, hexceptions, hredirections, hforce⟩
    unfold ProviderText.compile
    rw [compileRule_eq_ok_iff.2 hurl, compiledTo_iff.2 hrules, compiledTo_iff.2 hraw,
      compiledTo_iff.2 hreferral, compiledTo_iff.2 hexceptions, compiledTo_iff.2 hredirections,
      ← hcomplete, ← hforce]
    rfl

/-- All rules of a provider, compiled one after the other. -/
def ProviderText.compileAll (p : ProviderText) (name : Text) : Except LoadError (List Pattern) :=
  p.patterns.mapM fun rule => compileRule name rule.1 rule.2

/-- A provider is built where its rules compile one after the other, and it is not built for
the fault that is met first. -/
theorem ProviderText.map_compile (p : ProviderText) (name : Text) :
    (p.compile name).map
      (fun q => q.urlPattern :: (q.rules ++ q.rawRules ++ q.referralMarketing ++
      q.exceptions ++ q.redirections)) = p.compileAll name := by
  show (fun q : Provider => q.urlPattern :: (q.rules ++ q.rawRules ++ q.referralMarketing ++
    q.exceptions ++ q.redirections)) <$> p.compile name = _
  simp only [ProviderText.compile, ProviderText.compileAll, ProviderText.patterns,
    List.mapM_cons, List.mapM_append, List.mapM_map, Function.comp_def, map_bind, map_pure,
      bind_assoc, pure_bind]

/-- A provider is not built for the fault of the first of its rules that does not compile. -/
theorem ProviderText.compile_eq_error_iff {p : ProviderText} {name : Text} {e : LoadError} :
    p.compile name = .error e ↔
      ∃ front rule back reason, p.patterns = front ++ rule :: back ∧ (∀ r ∈ front, Compiles r) ∧
        Pattern.compile rule.1 rule.2 = .error reason ∧ e = .pattern name rule.2 reason := by
  have herror : p.compile name = .error e ↔ p.compileAll name = .error e := by
    rw [← map_compile]
    cases p.compile name <;> simp [Except.map]
  rw [herror, compileAll, mapM_eq_error_iff, FirstFails]
  simp only [compileRule_eq_error_iff, compileRule_eq_ok_iff]
  constructor
  · rintro ⟨front, rule, back, hsplit, hfront, reason, hrule, rfl⟩
    exact ⟨front, rule, back, reason, hsplit, hfront, hrule, rfl⟩
  · rintro ⟨front, rule, back, reason, hsplit, hfront, hrule, rfl⟩
    exact ⟨front, rule, back, hsplit, hfront, reason, hrule, rfl⟩

theorem ProviderText.exists_builtAs_iff {p : ProviderText} {name : Text} :
    (∃ q, p.BuiltAs name q) ↔ ∀ rule ∈ p.patterns, Compiles rule := by
  have hok : (∃ q, p.BuiltAs name q) ↔ ∃ patterns, p.compileAll name = .ok patterns := by
    simp only [← compile_eq_ok_iff, ← map_compile]
    cases p.compile name <;> simp [Except.map]
  rw [hok, compileAll, exists_mapM_eq_ok_iff]
  simp only [compileRule_eq_ok_iff, Compiles]

/-! ## Entries -/

/-- The entry describes the provider. -/
def Builds (entry : Text × Json) (q : Provider) : Prop :=
  ∃ p, ProviderText.ofJson? entry.2 = some p ∧ p.BuiltAs entry.1 q

/-- The fault of an entry of the document `origin`: its value has another shape, or the first
of its rules that does not compile is to blame. -/
inductive Spoils (origin : Text) : Text × Json → LoadError → Prop
  | shape {name : Text} {value : Json} : ProviderText.ofJson? value = none →
      Spoils origin (name, value)
        (.malformed (origin ++ ": provider ".toList ++ Text.quoted name))
  | pattern {name source : Text} {value : Json} {p : ProviderText}
      {front back : List (Use × Text)}
      {use : Use} {reason : Regex.Error} : ProviderText.ofJson? value = some p →
      p.patterns = front ++ (use, source) :: back → (∀ rule ∈ front, Compiles rule) →
      Pattern.compile use source = .error reason →
      Spoils origin (name, value) (.pattern name source reason)

def providerOfEntry (origin : Text) (entry : Text × Json) : Except LoadError Provider :=
  match ProviderText.ofJson? entry.2 with
  | none => .error (.malformed (origin ++ ": provider ".toList ++ Text.quoted entry.1))
  | some p => p.compile entry.1

theorem providersOfEntries_eq (origin : Text) (entries : List (Text × Json)) :
    providersOfEntries origin entries = entries.mapM (providerOfEntry origin) := rfl

theorem providerOfEntry_eq_ok_iff {origin : Text} {entry : Text × Json} {q : Provider} :
    providerOfEntry origin entry = .ok q ↔ Builds entry q := by
  unfold providerOfEntry Builds
  cases ProviderText.ofJson? entry.2 with
  | none => simp
  | some p => simp [ProviderText.compile_eq_ok_iff]

theorem providerOfEntry_eq_error_iff {origin : Text} {entry : Text × Json} {e : LoadError} :
    providerOfEntry origin entry = .error e ↔ Spoils origin entry e := by
  obtain ⟨name, value⟩ := entry
  unfold providerOfEntry
  constructor
  · intro h
    dsimp only at h
    split at h
    · next hshape =>
      cases h
      exact .shape hshape
    · next p hshape =>
      obtain ⟨front, ⟨use, source⟩, back, reason, hsplit, hfront, hrule, rfl⟩ :=
        ProviderText.compile_eq_error_iff.1 h
      exact .pattern hshape hsplit hfront hrule
  · intro h
    cases h with
    | shape hshape => simp only [hshape]
    | pattern hshape hsplit hfront hrule =>
        simp only [hshape]
        exact ProviderText.compile_eq_error_iff.2 ⟨_, _, _, _, hsplit, hfront, hrule, rfl⟩

/-! ## Documents -/

/-- A document of providers is a list of entries, which has each name once: in the place where
it first comes, with the value that it has last.  If the value of each entry has the shape of a
provider, and all its rules compile, then the document is read, to one provider for each entry,
in their order and with their rules in order.  Otherwise nothing is read, and the first entry
that cannot be built says why, alone. -/
theorem readProviders_by_entries {origin text : Text} {entries : List (Text × Json)}
    (h : providerEntries? text = some entries) :
    (∃ members, Lists text members ∧ Collapsed members entries) ∧
      ((∃ providers, readProviders origin text = .ok providers) ↔
        ∀ entry ∈ entries, ∃ p, ProviderText.ofJson? entry.2 = some p ∧
          ∀ rule ∈ p.patterns, Compiles rule) ∧
      (∀ providers, readProviders origin text = .ok providers ↔
        List.Forall₂ Builds entries providers) ∧
      ∀ e, readProviders origin text = .error e ↔
        ∃ front entry back, entries = front ++ entry :: back ∧
          (∀ x ∈ front, ∃ q, Builds x q) ∧ Spoils origin entry e := by
  have hread : readProviders origin text = entries.mapM (providerOfEntry origin) := by
    rw [readProviders, h]
    exact providersOfEntries_eq origin entries
  rw [hread]
  refine ⟨exists_lists h, ?_, fun providers => ?_, fun e => ?_⟩
  · rw [exists_mapM_eq_ok_iff]
    refine forall₂_congr fun entry _ => ?_
    simp only [providerOfEntry_eq_ok_iff, Builds]
    constructor
    · rintro ⟨q, p, hshape, hbuilt⟩
      exact ⟨p, hshape, ProviderText.exists_builtAs_iff.1 ⟨q, hbuilt⟩⟩
    · rintro ⟨p, hshape, hcompiles⟩
      obtain ⟨q, hbuilt⟩ := ProviderText.exists_builtAs_iff.2 hcompiles
      exact ⟨q, p, hshape, hbuilt⟩
  · simp only [mapM_eq_ok_iff, providerOfEntry_eq_ok_iff]
  · simp only [mapM_eq_error_iff, FirstFails, providerOfEntry_eq_error_iff,
      providerOfEntry_eq_ok_iff]

/-- A document in which a name comes again, with a better value, behind an entry
with two bad rules. -/
def repeatedName : Text :=
  "\x7b\"providers\": \x7b\"a\": \x7b\"urlPattern\": \"(\"\x7d, ".toList ++
    "\"b\": \x7b\"urlPattern\": \".*\", ".toList ++
    "\"redirections\": [\")\"], \"rules\": [\"x\", \"(\"]\x7d, ".toList ++
    "\"a\": \x7b\"urlPattern\": \"a\"\x7d\x7d\x7d".toList

theorem readProviders_repeated :
    ∃ entries, providerEntries? repeatedName = some entries ∧
      entries.map (·.1) = ["a".toList, "b".toList] ∧
      readProviders "file".toList repeatedName =
        .error (.pattern "b".toList "(".toList .groupNotClosed) ∧
      ∃ front entry back, entries = front ++ entry :: back ∧
        (∀ x ∈ front, ∃ q, Builds x q) ∧
        Spoils "file".toList entry (.pattern "b".toList "(".toList .groupNotClosed) := by
  have hnamed : (providerEntries? repeatedName).map (fun entries => entries.map (·.1)) =
      some ["a".toList, "b".toList] := by decide +kernel
  obtain ⟨entries, hentries, hnames⟩ := Option.map_eq_some_iff.1 hnamed
  have hfault : (match readProviders "file".toList repeatedName with
      | .error e => some e
      | .ok _ =>
        none) = some (.pattern "b".toList "(".toList .groupNotClosed) := by decide +kernel
  have hread : readProviders "file".toList repeatedName =
      .error (.pattern "b".toList "(".toList .groupNotClosed) := by
    split at hfault
    · next e he => rw [he, Option.some.inj hfault]
    · cases hfault
  exact ⟨entries, hentries, hnames, hread, ((readProviders_by_entries hentries).2.2.2 _).1 hread⟩

end PlainLink
