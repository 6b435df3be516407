/-
# Rule documents

Rules are written down as JSON documents: a map of providers, a list of body rules, or a
list of domains.  Reading a document is all or nothing, and the first fault in its order
is reported.

An entry has to have the shape of its kind before any of its rules is compiled; keys
that no entry of the kind has are passed over.  A record may also be written as the
array of its values.  The rules are then compiled in the order of the lists, each for
the use that its list stands for, and a body rule has to have a group besides, which
holds the address.
-/
import PlainLink.Json.Parser
import PlainLink.Rule.Store
import PlainLink.Text.Quoted
import PlainLink.Text.Utf8

namespace PlainLink

inductive LoadError where
  /-- The file is missing or is no text. -/
  | unreadable (origin : Text)
  /-- The document is not JSON or has another shape. -/
  | malformed (origin : Text)
  | pattern (provider source : Text) (reason : Regex.Error)
  /-- A body rule has no group to hold the address. -/
  | noCaptureGroup (provider source : Text)
  deriving DecidableEq, Repr

def LoadError.message : LoadError → Text
  | unreadable origin => "read ".toList ++ origin
  | malformed origin => "parse ".toList ++ origin
  | pattern provider source _ =>
    "provider ".toList ++ Text.quoted provider ++ ": invalid pattern ".toList ++
      Text.quoted source
  | noCaptureGroup provider source =>
    "provider ".toList ++ Text.quoted provider ++ ": pattern ".toList ++ Text.quoted source
      ++ " has no capture group".toList

/-! ## Rules as they are written -/

/-- A provider before its rules are compiled. -/
structure ProviderText where
  urlPattern : Text
  completeProvider : Bool := false
  rules : List Text := []
  rawRules : List Text := []
  referralMarketing : List Text := []
  exceptions : List Text := []
  redirections : List Text := []
  forceRedirection : Bool := false
  deriving DecidableEq, Repr

/-- Body rules before they are compiled. -/
structure BodyRuleText where
  providerName : Text
  urlPattern : Option Text
  domains : List Text
  rules : List Text
  deriving DecidableEq, Repr

/-- Compiles a rule of the named provider. -/
def compileRule (provider : Text) (use : Use) (source : Text) : Except LoadError Pattern :=
  (Pattern.compile use source).mapError (.pattern provider source)

/-- Compiles the rules of a provider, list by list. -/
def ProviderText.compile (name : Text) (p : ProviderText) : Except LoadError Provider := do
  return {
    name
    urlPattern := ← compileRule name .anchored p.urlPattern
    completeProvider := p.completeProvider
    rules := ← p.rules.mapM (compileRule name .queryField)
    rawRules := ← p.rawRules.mapM (compileRule name .raw)
    referralMarketing := ← p.referralMarketing.mapM (compileRule name .queryField)
    exceptions := ← p.exceptions.mapM (compileRule name .anchored)
    redirections := ← p.redirections.mapM (compileRule name .redirection)
    forceRedirection := p.forceRedirection }

/-- Compiles body rules, each of which must have a group. -/
def BodyRuleText.compile (b : BodyRuleText) : Except LoadError BodyRule := do
  let urlPattern ← b.urlPattern.mapM (compileRule b.providerName .anchored)
  let rules ← b.rules.mapM (compileRule b.providerName .raw)
  match rules.find? (·.captureGroups == 0) with
  | some bad => .error (.noCaptureGroup b.providerName bad.source)
  | none =>
    return { providerName := b.providerName, urlPattern, domains := .ofList b.domains, rules }

/-! ## Shapes -/

/-- The field of a record that is missing takes a default, and one of the
wrong shape spoils it. -/
def fieldOr {α : Type} (default : α) (read : Json → Option α) : Option Json → Option α
  | none => some default
  | some value => read value

/-- The fields of a record that is written as an array, in their order; there may not be
more than `names` has. -/
def positional (names : List String) (items : List Json) : Option (List (Text × Json)) :=
  if names.length < items.length then none
  else some ((names.map String.toList).zip items)

/-- The provider that fields describe. -/
def providerOfFields (fields : List (Text × Json)) : Option ProviderText := do
  let field (name : String) := (fields.find? (·.1 == name.toList)).map (·.2)
  return {
    urlPattern := ← (← field "urlPattern").text?
    completeProvider := ← fieldOr false Json.flag? (field "completeProvider")
    rules := ← fieldOr [] Json.texts? (field "rules")
    rawRules := ← fieldOr [] Json.texts? (field "rawRules")
    referralMarketing := ← fieldOr [] Json.texts? (field "referralMarketing")
    exceptions := ← fieldOr [] Json.texts? (field "exceptions")
    redirections := ← fieldOr [] Json.texts? (field "redirections")
    forceRedirection := ← fieldOr false Json.flag? (field "forceRedirection") }

/-- The fields of a provider in the order of the array form. -/
def providerFields : List String :=
  ["urlPattern", "completeProvider", "rules", "rawRules", "referralMarketing", "exceptions",
    "redirections", "forceRedirection"]

/-- The provider that a value describes. -/
def ProviderText.ofJson? : Json → Option ProviderText
  | .array items => (positional providerFields items).bind providerOfFields
  | value => value.entries?.bind providerOfFields

/-- The members of a record that has the given fields: each field stands once at most, and what
has another name is left out. -/
def recordFields (names : List String) (members : List (Option Text × Json)) :
    Option (List (Text × Json)) := do
  let named ← members.mapM fun (key, value) => key.map (·, value)
  let known := named.filter fun (key, _) => names.any (·.toList = key)
  if (known.map (·.1)).eraseDups.length = known.length then some known else none

def optionalText? : Json → Option (Option Text)
  | .null => some none
  | value => value.text?.map some

/-- The body rules that fields describe. -/
def bodyRuleOfFields (fields : List (Text × Json)) : Option BodyRuleText := do
  let field (name : String) := (fields.find? (·.1 == name.toList)).map (·.2)
  return {
    providerName := ← (← field "providerName").text?
    urlPattern := ← fieldOr none optionalText? (field "urlPattern")
    domains := ← fieldOr [] Json.texts? (field "domains")
    rules := ← (← field "rules").texts? }

/-- The fields of body rules in the order of the array form. -/
def bodyRuleFields : List String := ["providerName", "urlPattern", "domains", "rules"]

/-- The body rules that a value describes. -/
def BodyRuleText.ofJson? : Json → Option BodyRuleText
  | .array items => (positional bodyRuleFields items).bind bodyRuleOfFields
  | .object members => (recordFields bodyRuleFields members).bind bodyRuleOfFields
  | _ => none

/-! ## Documents -/

/-- How deep the value of a provider may nest: 127 levels, less the two around it. -/
def providerRoom : Nat := 125

/-- The named entries of a document of providers, still unread. -/
def providerEntries? (text : Text) : Option (List (Text × Json)) := do
  let providers ← match ← Json.parse? text with
    | .object members => (← recordFields ["providers"] members).head?.map (·.2)
    | .array [providers] => some providers
    | _ => none
  match providers with
  | .object members =>
    if members.all fun (_, value) => value.isSound providerRoom then providers.entries? else none
  | _ => none

/-- The providers of named entries. -/
def providersOfEntries (origin : Text) (entries : List (Text × Json)) :
    Except LoadError (List Provider) :=
  entries.mapM fun (name, value) =>
    match ProviderText.ofJson? value with
    | none => .error (.malformed (origin ++ ": provider ".toList ++ Text.quoted name))
    | some p => p.compile name

/-- The providers of a document; `origin` names the document in errors. -/
def readProviders (origin text : Text) : Except LoadError (List Provider) :=
  match providerEntries? text with
  | none => .error (.malformed origin)
  | some entries => providersOfEntries origin entries

def readBodyRules (origin text : Text) : Except LoadError (List BodyRule) :=
  match Json.parse? text with
  | some (.array items) =>
    match items.mapM BodyRuleText.ofJson? with
    | none => .error (.malformed origin)
    | some rules => rules.mapM BodyRuleText.compile
  | _ => .error (.malformed origin)

def readDomains (origin text : Text) : Except LoadError Domains :=
  match (Json.parse? text).bind Json.texts? with
  | none => .error (.malformed origin)
  | some hosts => .ok (.ofList hosts)

/-! ## Files -/

/-- A file of rules: its name, and its bytes if it exists. -/
structure RuleFile where
  origin : Text
  content : Option Bytes
  deriving DecidableEq, Repr

def RuleFile.text (file : RuleFile) : Except LoadError Text :=
  match file.content.bind Utf8.decode? with
  | none => .error (.unreadable file.origin)
  | some text => .ok text

/-- The files of a store, in the order in which they are loaded. -/
structure RuleFiles where
  providers : List RuleFile
  bodyRules : List RuleFile
  domains : List RuleFile

/-- The store that files describe: all providers are read first, then all body rules, then all
domains. -/
def Store.load (files : RuleFiles) : Except LoadError Store := do
  let providers ← files.providers.mapM fun file => do readProviders file.origin (← file.text)
  let bodyRules ← files.bodyRules.mapM fun file => do readBodyRules file.origin (← file.text)
  let domains ← files.domains.mapM fun file => do readDomains file.origin (← file.text)
  return ⟨providers.flatten, bodyRules.flatten, domains.foldl Domains.absorb .empty⟩

end PlainLink
