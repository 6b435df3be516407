/-
# Cookies kept between requests

A jar keeps the cookies that its policy lets in, in the order in which they were set
last, and gives them back to the requests that they are for.

A cookie takes the place of the one of the same name, domain and path.  One whose life
is over when it comes is not kept; it only makes room.  One whose life ends later stays
in the jar until another takes its place, but is not given to requests any more.  The
policy is asked about the domain that the line names or, where it names none, about the
host.

A request gets the cookies in one header field, those with longer paths first.
-/
import PlainLink.Cookie.Line
import PlainLink.Http.Headers
import PlainLink.Rule.Domains

namespace PlainLink

inductive CookiePolicy where
  | rejectAll
  | allowAll
  | allowListed (domains : Domains)
  deriving DecidableEq, Repr

def CookiePolicy.allows (p : CookiePolicy) (domain : Text) : Bool :=
  match p with
  | rejectAll => false
  | allowAll => true
  | allowListed domains => domains.contains domain

structure CookieJar where
  policy : CookiePolicy
  cookies : List Cookie
  deriving DecidableEq, Repr

namespace CookieJar

def empty (policy : CookiePolicy) : CookieJar := ⟨policy, []⟩

/-- The jar after a cookie was set.  It takes the place of the one that it replaces, and a
cookie whose life is over only deletes. -/
def put (j : CookieJar) (c : Cookie) (now : Instant) : CookieJar :=
  let others := j.cookies.filter fun other => !c.replaces other
  { j with cookies := if c.isExpired now then others else others ++ [c] }

/-- What is kept afterwards is the cookie that was set, if it is alive, and what
it does not replace. -/
theorem mem_put {j : CookieJar} {c other : Cookie} {now : Instant} :
    other ∈ (j.put c now).cookies ↔
      other ∈ j.cookies ∧ ¬ c.replaces other ∨ other = c ∧ ¬ c.isExpired now := by
  unfold put
  by_cases hexpired : c.isExpired now <;> simp [hexpired]

@[simp] theorem policy_put (j : CookieJar) (c : Cookie) (now : Instant) :
    (j.put c now).policy = j.policy :=
  rfl

/-- The jar after one line that sets a cookie. -/
def readLine (j : CookieJar) (u : Url) (now : Instant) (line : Text) : CookieJar :=
  match Cookie.ofLine? line u now with
  | some c => if j.policy.allows c.policyDomain then j.put c now else j
  | none => j

@[simp] theorem policy_readLine (j : CookieJar) (u : Url) (now : Instant) (line : Text) :
    (j.readLine u now line).policy = j.policy := by
  unfold readLine
  split
  · split
    · exact policy_put ..
    · rfl
  · rfl

/-- What is kept after a line was kept before, or set by the line and let in. -/
theorem mem_of_mem_readLine {j : CookieJar} {u : Url} {now : Instant} {line : Text} {c : Cookie}
    (h : c ∈ (j.readLine u now line).cookies) :
    c ∈ j.cookies ∨ Cookie.ofLine? line u now = some c ∧ j.policy.allows c.policyDomain := by
  unfold readLine at h
  split at h
  · next set hset =>
    split at h
    · next hallowed =>
      rcases mem_put.1 h with ⟨hkept, -⟩ | ⟨rfl, -⟩
      · exact .inl hkept
      · exact .inr ⟨hset, hallowed⟩
    · exact .inl h
  · exact .inl h

/-- The jar after the lines of one response to a request for `u`. -/
def read (j : CookieJar) (u : Url) (lines : List Text) (now : Instant) : CookieJar :=
  lines.foldl (fun j line => j.readLine u now line) j

@[simp] theorem policy_read (j : CookieJar) (u : Url) (lines : List Text) (now : Instant) :
    (j.read u lines now).policy = j.policy := by
  unfold read
  induction lines generalizing j with
  | nil => rfl
  | cons line lines ih => exact (ih _).trans (policy_readLine j u now line)

/-- What is kept after some lines was kept before, or set by one of them and let in. -/
theorem mem_of_mem_read {j : CookieJar} {u : Url} {lines : List Text}
    {now : Instant} {c : Cookie} (h : c ∈ (j.read u lines now).cookies) :
    c ∈ j.cookies ∨ ∃ line ∈ lines, Cookie.ofLine? line u now = some c ∧
      j.policy.allows c.policyDomain := by
  induction lines generalizing j with
  | nil => exact .inl h
  | cons line lines ih =>
    rcases ih (j := j.readLine u now line) h with hkept | ⟨other, hmem, hset, hallowed⟩
    · rcases mem_of_mem_readLine hkept with hkept | hset
      · exact .inl hkept
      · exact .inr ⟨line, List.mem_cons_self, hset⟩
    · rw [policy_readLine] at hallowed
      exact .inr ⟨other, List.mem_cons_of_mem line hmem, hset, hallowed⟩

/-- Puts a cookie in front of the first one with a path that is not longer. -/
def place (c : Cookie) : List Cookie → List Cookie
  | [] => [c]
  | d :: rest =>
    if Text.byteLength d.path ≤ Text.byteLength c.path then c :: d :: rest else d :: place c rest

/-- Cookies by falling length of their paths, those of one length in their order. -/
def byPath (cookies : List Cookie) : List Cookie :=
  cookies.foldr place []

theorem byPath_perm (cookies : List Cookie) : (byPath cookies).Perm cookies := by
  have place_perm (c : Cookie) (cs : List Cookie) : (place c cs).Perm (c :: cs) := by
    induction cs with
    | nil => exact .refl _
    | cons d rest ih =>
      unfold place
      split
      · exact .refl _
      · exact (ih.cons d).trans (.swap c d rest)
  induction cookies with
  | nil => exact .refl _
  | cons c rest ih => exact (place_perm c (byPath rest)).trans (ih.cons c)

def cookiesFor (j : CookieJar) (u : Url) (now : Instant) : List Cookie :=
  byPath (j.cookies.filter (·.isFor u now))

theorem mem_cookiesFor {j : CookieJar} {u : Url} {now : Instant} {c : Cookie} :
    c ∈ j.cookiesFor u now ↔ c ∈ j.cookies ∧ c.isFor u now := by
  rw [cookiesFor, (byPath_perm _).mem_iff, List.mem_filter]

/-- What a request says about cookies; `none` if there are none for it. -/
def header? (j : CookieJar) (u : Url) (now : Instant) : Option Text :=
  match j.cookiesFor u now with
  | [] => none
  | cookies => some (Text.join "; ".toList (cookies.map (·.text)))

/-- A header with the cookies for a request in the place of others. -/
def attach (j : CookieJar) (u : Url) (now : Instant) (h : Headers) : Headers :=
  match j.header? u now with
  | some value => h.replace "Cookie".toList value
  | none => h

/-- The header stays as it is, or has a field that lists the cookies for the request. -/
theorem attach_cases (j : CookieJar) (u : Url) (now : Instant) (h : Headers) :
    j.attach u now h = h ∨
      ∃ c more, j.cookiesFor u now = c :: more ∧
        j.attach u now h =
          h.replace "Cookie".toList (Text.join "; ".toList ((c :: more).map (·.text))) := by
  unfold attach header?
  cases hcookies : j.cookiesFor u now with
  | nil => exact .inl rfl
  | cons c more => exact .inr ⟨c, more, rfl, rfl⟩

end CookieJar

end PlainLink
