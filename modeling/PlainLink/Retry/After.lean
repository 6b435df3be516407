/-
# Delays that a server asks for
-/
import PlainLink.Text.Number
import PlainLink.Time.Written

namespace PlainLink

/-- The delay that a `Retry-After` header asks for: a number of seconds, or the time until a
date.  A date that has passed asks for no delay. -/
def retryAfter? (value : Text) (now : Instant) : Option Duration :=
  let value := Text.trim value
  match Text.natUpTo? (UInt64.size - 1) value with
  | some seconds => some (.ofSeconds seconds)
  | none => (Time.mailDate? value).map fun date => ⟨(date.nanosSince now).toNat⟩

end PlainLink
