/-
# Faults of a transfer

A transfer that fails is known by a number only.  The numbers that decide about a retry
have names here.
-/
import PlainLink.Text.Basic

namespace PlainLink

/-- What kept a transfer from being completed. -/
structure Fault where
  code : Nat
  deriving DecidableEq, Repr

namespace Fault

def notBuiltIn : Fault := ⟨4⟩
def resolveProxy : Fault := ⟨5⟩
def resolveHost : Fault := ⟨6⟩
def connect : Fault := ⟨7⟩
def brokenOff : Fault := ⟨18⟩
def write : Fault := ⟨23⟩
def read : Fault := ⟨26⟩
def timeout : Fault := ⟨28⟩
def secureConnect : Fault := ⟨35⟩
def unknownOption : Fault := ⟨48⟩
def gotNothing : Fault := ⟨52⟩
def send : Fault := ⟨55⟩
def receive : Fault := ⟨56⟩

end Fault

end PlainLink
