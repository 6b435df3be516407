/-
# Why an attempt is repeated

A response counts as failed if its status is in a list that the caller gives, a transfer
if its fault lies in the network or in time that ran out.  Any other fault is repeated
never, whatever is left of the budget: another attempt would meet the same one.
-/
import PlainLink.Http.Fault

namespace PlainLink

/-- Why an attempt failed, as far as it matters for repeating it. -/
inductive Cause where
  | timeout
  /-- The server asks for fewer requests. -/
  | throttled
  /-- The network failed. -/
  | connection
  /-- Another status that is repeated. -/
  | status (code : Nat)
  /-- Anything else, which is never repeated. -/
  | other
  deriving DecidableEq, Repr

namespace Cause

/-- The statuses that are repeated unless the caller names others. -/
def defaultStatuses : List Nat := [429, 500, 502, 503, 504]

/-- The cause that a status is, given the statuses that are repeated. -/
def ofStatus (repeated : List Nat) (status : Nat) : Cause :=
  if !repeated.contains status then other
  else if status = 429 ∨ status = 503 then throttled
  else .status status

@[simp] theorem ofStatus_eq_other_iff {repeated : List Nat} {status : Nat} :
    ofStatus repeated status = other ↔ status ∉ repeated := by
  unfold ofStatus
  split
  · next h => simpa using h
  · next h => split <;> simpa using h

def connectionFaults : List Fault :=
  [ .resolveProxy, .resolveHost, .connect, .brokenOff, .read, .secureConnect, .gotNothing, .send,
    .receive ]

def ofFault (f : Fault) : Cause :=
  if f = .timeout then timeout
  else if connectionFaults.contains f then connection
  else other

end Cause

end PlainLink
