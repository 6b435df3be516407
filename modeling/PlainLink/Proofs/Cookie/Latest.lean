/-
# What a jar keeps of its history

A jar is a map from the name, domain and path of a cookie to the cookie that was let in
last under them.  A cookie whose life was over when it came counts as one that was let
in, and leaves nothing; a line that sets no cookie or that the policy turns away counts
as nothing.  The cookies stand in the order in which they came.

`arrivals` lists the cookies that were let in, each with its time, and `latest` those of
them that no later one takes the place of.  One more arrival at the end takes the place
of the one under its key (`latest_concat`), and that is what the jar does with it, so
the induction is on the history from its end.  What a cookie is when it is read, with a
name and a rooted path, it stays in the jar.

Main statement: `jarAfter_latest`.
-/
import PlainLink.Proofs.Cookie.Sites
import PlainLink.Proofs.Url.WellFormed

namespace PlainLink

namespace Cookie

/-! ## The place of a cookie -/

def key (c : Cookie) : Text × Text × Text :=
  (c.name, c.domain, c.path)

theorem replaces_eq (c other : Cookie) : c.replaces other = (other.key == c.key) := by
  rw [Bool.eq_iff_iff]
  simp only [replaces, key, Bool.and_eq_true, beq_iff_eq, Prod.mk.injEq, and_assoc]
  constructor
  · rintro ⟨hname, hdomain, hpath⟩
    exact ⟨hname.symm, hdomain.symm, hpath.symm⟩
  · rintro ⟨hname, hdomain, hpath⟩
    exact ⟨hname.symm, hdomain.symm, hpath.symm⟩

/-! ## Cookies that were let in -/

/-- A cookie that was let in, and when. -/
structure Arrival where
  cookie : Cookie
  now : Instant

namespace Arrival

def key (a : Arrival) : Text × Text × Text :=
  a.cookie.key

/-- The cookie was alive when it came. -/
def alive (a : Arrival) : Bool :=
  !a.cookie.isExpired a.now

end Arrival

/-- The cookie that a line sets, if the policy lets it in. -/
def arrival? (policy : CookiePolicy) (origin : Url) (now : Instant) (line : Text) :
    Option Arrival :=
  ((ofLine? line origin now).filter fun c => policy.allows c.policyDomain).map (⟨·, now⟩)

/-- The cookies that some responses set and the policy lets in, in the order of their lines. -/
def arrivals (policy : CookiePolicy) (history : List Received) : List Arrival :=
  history.flatMap fun e => e.lines.filterMap (arrival? policy e.url e.now)

/-- The last one under a key. -/
def lastUnder? (key : Text × Text × Text) (as : List Arrival) : Option Arrival :=
  (as.filter (·.key == key)).getLast?

/-- Those that no later one takes the place of. -/
def latest : List Arrival → List Arrival
  | [] => []
  | a :: later => if later.any (·.key == a.key) then latest later else a :: latest later

theorem latest_sublist (as : List Arrival) : (latest as).Sublist as := by
  induction as with
  | nil => exact .slnil
  | cons a later ih =>
      unfold latest
      split
      · exact ih.cons a
      · exact ih.cons_cons a

/-- One more takes the place of the one under its key. -/
theorem latest_concat (as : List Arrival) (a : Arrival) :
    latest (as ++ [a]) = (latest as).filter (·.key != a.key) ++ [a] := by
  induction as with
  | nil => rfl
  | cons b later ih =>
      rw [List.cons_append, latest, latest, ih, List.any_append]
      by_cases hlater : later.any (·.key == b.key)
      · simp [hlater]
      · by_cases hsame : a.key = b.key
        · simp [hlater, hsame]
        · simp [hlater, hsame, Ne.symm hsame]

theorem nodup_latest (as : List Arrival) : ((latest as).map (·.key)).Nodup := by
  induction as with
  | nil => exact .nil
  | cons a later ih =>
      unfold latest
      split
      · exact ih
      · next hnew =>
        refine List.nodup_cons.2 ⟨fun hmem => hnew ?_, ih⟩
        obtain ⟨b, hb, hkey⟩ := List.mem_map.1 hmem
        exact List.any_eq_true.2 ⟨b, (latest_sublist later).subset hb, beq_iff_eq.2 hkey⟩

theorem filter_latest (key : Text × Text × Text) (as : List Arrival) :
    (latest as).filter (·.key == key) = (lastUnder? key as).toList := by
  induction as using List.reverseRecOn with
  | nil => rfl
  | append_singleton as a ih =>
      rw [latest_concat, List.filter_append, List.filter_filter, lastUnder?, List.filter_append]
      by_cases hkey : a.key = key
      · simp [hkey]
      · have hsame : ∀ b : Arrival, (b.key == key && b.key != a.key) = (b.key == key) := by
          intro b
          by_cases hb : b.key = key
          · simp [hb, Ne.symm hkey]
          · simp [hb]
        simp only [hsame, ih]
        simp [hkey, lastUnder?]

/-! ## The jar after some arrivals -/

theorem readLine_eq (j : CookieJar) (origin : Url) (now : Instant) (line : Text) :
    j.readLine origin now line =
      match arrival? j.policy origin now line with
      | some a => j.put a.cookie a.now
      | none => j := by
  unfold CookieJar.readLine arrival?
  cases ofLine? line origin now with
  | none => rfl
  | some c =>
      by_cases hallowed : j.policy.allows c.policyDomain
      · simp [hallowed, Option.filter]
      · simp [hallowed, Option.filter]

theorem read_eq (j : CookieJar) (origin : Url) (lines : List Text) (now : Instant) :
    j.read origin lines now =
      (lines.filterMap (arrival? j.policy origin now)).foldl
        (fun j a => j.put a.cookie a.now) j := by
  induction lines generalizing j with
  | nil => rfl
  | cons line lines ih =>
      have hnext : j.read origin (line :: lines) now =
          (j.readLine origin now line).read origin lines now := rfl
      rw [hnext, ih, CookieJar.policy_readLine, readLine_eq, List.filterMap_cons]
      cases arrival? j.policy origin now line <;> rfl

theorem readAll_eq (j : CookieJar) (history : List Received) :
    j.readAll history = (arrivals j.policy history).foldl
      (fun j a => j.put a.cookie a.now) j := by
  induction history generalizing j with
  | nil => rfl
  | cons e history ih =>
      have hnext : j.readAll (e :: history) = (j.read e.url e.lines e.now).readAll history := rfl
      rw [hnext, ih, CookieJar.policy_read, read_eq, ← List.foldl_append]
      rfl

/-- The jar after some responses, when it was empty before them. -/
def jarAfter (policy : CookiePolicy) (history : List Received) : CookieJar :=
  (CookieJar.empty policy).readAll history

/-- After some arrivals the jar holds the latest ones, as far as they were alive. -/
theorem cookies_foldl_put (policy : CookiePolicy) (as : List Arrival) :
    (as.foldl (fun j a => j.put a.cookie a.now) (CookieJar.empty policy)).cookies =
      ((latest as).filter (·.alive)).map (·.cookie) := by
  induction as using List.reverseRecOn with
  | nil => rfl
  | append_singleton as a ih =>
      have hothers : ∀ b : Arrival, (!a.cookie.replaces b.cookie) = (b.key != a.key) := fun b =>
        congrArg not (replaces_eq a.cookie b.cookie)
      have hfilter :
          (((latest as).filter (·.alive)).map (·.cookie)).filter
          (fun c => !a.cookie.replaces c) =
          (((latest as).filter (·.key != a.key)).filter (·.alive)).map (·.cookie) := by
        rw [List.filter_map, List.filter_filter, List.filter_filter]
        simp only [Function.comp_def, hothers, Bool.and_comm]
      rw [List.foldl_append, List.foldl_cons, List.foldl_nil, CookieJar.put, ih, latest_concat,
        List.filter_append, List.map_append]
      dsimp only
      rw [hfilter]
      by_cases halive : a.alive
      · have hexpired : ¬ a.cookie.isExpired a.now := by simpa [Arrival.alive] using halive
        simp [halive, hexpired]
      · have hexpired : a.cookie.isExpired a.now := by simpa [Arrival.alive] using halive
        simp [halive, hexpired]

theorem cookies_jarAfter (policy : CookiePolicy) (history : List Received) :
    (jarAfter policy history).cookies =
      ((latest (arrivals policy history)).filter (·.alive)).map (·.cookie) := by
  rw [jarAfter, readAll_eq]
  exact cookies_foldl_put policy _

theorem nodup_key (policy : CookiePolicy) (history : List Received) :
    ((jarAfter policy history).cookies.map key).Nodup := by
  rw [cookies_jarAfter, List.map_map]
  exact (nodup_latest _).sublist (List.filter_sublist.map _)

/-! ## Cookies as their lines set them -/

theorem put_rooted {a : Attributes} (ha : ∀ p ∈ a.path, p.head? = some '/') (name value : Text) :
    ∀ p ∈ (a.put name value).path, p.head? = some '/' := by
  unfold Attributes.put
  split
  · split <;> exact ha
  · split
    · split
      · next hrooted =>
        intro p hp
        exact Option.some.inj hp ▸ beq_iff_eq.1 hrooted
      · exact ha
    · repeat' split
      all_goals exact ha

theorem foldl_read_rooted {a : Attributes} (ha : ∀ p ∈ a.path, p.head? = some '/')
    (attributes : List Text) :
    ∀ p ∈ (attributes.foldl Attributes.read a).path, p.head? = some '/' := by
  induction attributes generalizing a with
  | nil => exact ha
  | cons written attributes ih =>
      refine ih ?_
      unfold Attributes.read
      split <;> exact put_rooted ha _ _

theorem head?_requestPath {u : Url} (hu : u.WellFormed) : (requestPath u).head? = some '/' := by
  unfold requestPath
  split
  · rfl
  · next hsome =>
    obtain ⟨c, path, hpath⟩ := List.exists_cons_of_ne_nil (mt List.isEmpty_iff.2 hsome)
    rw [hpath, List.head?_cons, hu.path_rooted c (by rw [hpath]; rfl)]

theorem head?_defaultPath {u : Url} (hu : u.WellFormed) : (defaultPath u).head? = some '/' := by
  unfold defaultPath
  split
  · next c before after hcut =>
    obtain ⟨hpath, -⟩ := Text.splitLast?_eq_some hcut
    have hrooted := head?_requestPath hu
    rw [hpath] at hrooted
    exact hrooted
  · rfl

theorem path_of_make? {name value : Text} {a : Attributes} {origin : Url}
    {now : Instant} {c : Cookie} (h : make? name value a origin now = some c) :
    c.path = a.path.getD (defaultPath origin) := by
  unfold make? at h
  dsimp only at h
  split at h
  · cases h
    rfl
  · split at h
    · cases h
      rfl
    · cases h

/-- A line gives its cookie a name without an equals sign, and a path that
begins at the root. -/
theorem named_of_ofLine? {line : Text} {origin : Url} {now : Instant} {c : Cookie}
    (h : ofLine? line origin now = some c) :
    c.name ≠ [] ∧ '=' ∉ c.name ∧ (origin.WellFormed → c.path.head? = some '/') := by
  unfold ofLine? at h
  split at h
  · cases h
  · next pair attributes _ =>
    split at h
    · cases h
    · next name value hpair =>
      dsimp only at h
      split at h
      · cases h
      · next hname =>
        obtain ⟨hcname, -, -⟩ := make?_eq_some h
        obtain ⟨-, hfree⟩ := Text.splitFirst?_eq_some hpair
        refine ⟨hcname ▸ mt List.isEmpty_iff.2 hname, fun hmem => hfree ?_, fun horigin => ?_⟩
        · exact (Text.strip_sublist _ name).subset (hcname ▸ hmem)
        · have hrooted := foldl_read_rooted (a := {}) nofun attributes
          rw [path_of_make? h]
          cases hpath : (attributes.foldl Attributes.read {}).path with
          | none => exact head?_defaultPath horigin
          | some path => exact hrooted path hpath

theorem mem_arrivals {policy : CookiePolicy} {history : List Received} {a : Arrival} :
    a ∈ arrivals policy history ↔ ∃ e ∈ history, ∃ line ∈ e.lines,
      ofLine? line e.url a.now = some a.cookie ∧ policy.allows a.cookie.policyDomain ∧
        e.now = a.now := by
  simp only [arrivals, List.mem_flatMap, List.mem_filterMap, arrival?, Option.map_eq_some_iff,
    Option.filter_eq_some_iff]
  constructor
  · rintro ⟨e, he, line, hline, c, ⟨hset, hallowed⟩, rfl⟩
    exact ⟨e, he, line, hline, hset, hallowed, rfl⟩
  · rintro ⟨e, he, line, hline, hset, hallowed, hnow⟩
    exact ⟨e, he, line, hline, a.cookie, ⟨hnow ▸ hset, hallowed⟩, hnow ▸ rfl⟩

/-! ## The jar as a map -/

/-- After some responses an empty jar holds the latest of the cookies that were let in, as far
as they were alive when they came, in the order in which they came.  So under each key it holds
one cookie at most: the one that was let in last, if that was alive.  Each has a name, a path
that begins at the root, and a domain that the policy allows. -/
theorem jarAfter_latest {policy : CookiePolicy} {history : List Received}
    (hparsed : ∀ e ∈ history, ∃ text, Url.parse text = .ok e.url) :
    (jarAfter policy history).cookies =
      ((latest (arrivals policy history)).filter (·.alive)).map (·.cookie) ∧
    (∀ key, (jarAfter policy history).cookies.filter (·.key == key) =
      (((lastUnder? key (arrivals policy history)).filter (·.alive)).map (·.cookie)).toList) ∧
    ∀ c ∈ (jarAfter policy history).cookies,
      c.name ≠ [] ∧ c.path.head? = some '/' ∧ policy.allows c.policyDomain := by
  have hcookies := cookies_jarAfter policy history
  refine ⟨hcookies, fun key => ?_, fun c hc => ?_⟩
  · have hkey :
        ((fun c : Cookie => c.key == key) ∘ fun a : Arrival => a.cookie) = (·.key == key) := rfl
    rw [hcookies, List.filter_map, hkey, List.filter_comm, filter_latest]
    cases lastUnder? key (arrivals policy history) with
    | none => rfl
    | some a =>
        by_cases halive : a.alive
        · simp [Option.filter, halive]
        · simp [Option.filter, halive]
  · rw [hcookies] at hc
    obtain ⟨a, ha, rfl⟩ := List.mem_map.1 hc
    have harrived := (latest_sublist _).subset (List.mem_of_mem_filter ha)
    obtain ⟨e, he, line, -, hset, hallowed, -⟩ := mem_arrivals.1 harrived
    obtain ⟨text, htext⟩ := hparsed e he
    obtain ⟨hname, -, hpath⟩ := named_of_ofLine? hset
    exact ⟨hname, hpath (Url.wellFormed_of_parse htext), hallowed⟩

/-- Two responses of one page: the second sets a cookie anew, and deletes another one. -/
def resetting : List Received :=
  [⟨page "a.example", ["sid=1".toList, "old=1".toList, "lang=en; Domain=b.example".toList,
      "lang=en".toList], ⟨0, 0⟩⟩,
    ⟨page "a.example", ["sid=2; Path=/".toList, "old=; Max-Age=0".toList, "sid".toList], ⟨9, 0⟩⟩]

theorem jarAfter_latest_resetting : (∀ e ∈ resetting, ∃ text, Url.parse text = .ok e.url) ∧
    (jarAfter .allowAll resetting).cookies.map (·.text) =
      ["lang=en".toList, "sid=2".toList] := by
  have hparsed : ∀ e ∈ resetting, ∃ text, Url.parse text = .ok e.url := by
    intro e he
    refine ⟨"http://a.example/".toList, ?_⟩
    have hpage : e.url = page "a.example" := by
      rcases List.mem_cons.1 he with rfl | he
      · rfl
      · exact List.mem_singleton.1 he ▸ rfl
    rw [hpage]
    rfl
  obtain ⟨hcookies, -, -⟩ := @jarAfter_latest .allowAll resetting hparsed
  exact ⟨hparsed, by rw [hcookies]; decide⟩

end Cookie

end PlainLink
