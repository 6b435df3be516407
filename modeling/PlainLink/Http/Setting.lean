/-
# Setting the options of a transfer

Before a transfer is performed its options are set, each by a call of its own that can
fail: `Setting` has a constructor for each kind of call, and `Transfer` holds what has
been set, nothing at first.  What a call fails with is not known here; `Conditions` says
it, by the number of the call and by what the call sets, so that the same call can fail
for one transfer and not for the next.

`Setup.run` makes the calls for a list of settings in their order.  The first call that
fails ends the setup, and what was set before it stays set.  One failure is put up with:
where the trust anchors that come with the program cannot be set at all, the setup goes
on without them, and the connection falls back on those of the platform.  The calls that
were made are recorded together with their outcomes.
-/
import PlainLink.Http.Fault
import PlainLink.Time.Duration

namespace PlainLink

/-! ## Settings -/

inductive HttpVersion where
  | v10
  | v11
  | v2
  | v3
  deriving DecidableEq, Repr

inductive TlsVersion where
  | v10
  | v11
  | v12
  | v13
  deriving DecidableEq, Repr

inductive TrustAnchors where
  | bundled
  | file (path : Text)
  deriving DecidableEq, Repr

/-- What one call sets. -/
inductive Setting where
  | url (text : Text)
  | followLocation (follow : Bool)
  | connectTimeout (time : Duration)
  | timeout (time : Duration)
  /-- Only the header of the answer is asked for. -/
  | headerOnly
  | customMethod (method : Text)
  | verifyPeer (verify : Bool)
  | verifyHost (verify : Bool)
  | tlsVersions (least most : TlsVersion)
  | ciphers (suites : Text)
  | anchors (source : TrustAnchors)
  | httpVersion (version : HttpVersion)
  /-- A line is put at the end of the list of header lines. -/
  | line (text : Text)
  /-- The list of header lines is handed over. -/
  | headerLines
  /-- The lines of the answer's header are collected. -/
  | headerSink
  /-- The pieces of the answer's body are collected. -/
  | bodySink
  deriving DecidableEq, Repr

/-- What has been set for a transfer. -/
structure Transfer where
  url : Option Text := none
  followLocation : Option Bool := none
  connectTimeout : Option Duration := none
  timeout : Option Duration := none
  headerOnly : Bool := false
  customMethod : Option Text := none
  verifyPeer : Option Bool := none
  verifyHost : Option Bool := none
  tlsVersions : Option (TlsVersion × TlsVersion) := none
  ciphers : Option Text := none
  anchors : Option TrustAnchors := none
  httpVersion : Option HttpVersion := none
  /-- The list of header lines, which has no effect until it is handed over. -/
  lines : List Text := []
  headerLines : List Text := []
  headerSink : Bool := false
  bodySink : Bool := false
  deriving DecidableEq, Repr

/-- The method by which a transfer asks. -/
def Transfer.method (t : Transfer) : Text :=
  t.customMethod.getD (if t.headerOnly then "HEAD".toList else "GET".toList)

namespace Setting

def apply (t : Transfer) : Setting → Transfer
  | url text => { t with url := some text }
  | followLocation follow => { t with followLocation := some follow }
  | connectTimeout time => { t with connectTimeout := some time }
  | timeout time => { t with timeout := some time }
  | headerOnly => { t with headerOnly := true }
  | customMethod method => { t with customMethod := some method }
  | verifyPeer verify => { t with verifyPeer := some verify }
  | verifyHost verify => { t with verifyHost := some verify }
  | tlsVersions least most => { t with tlsVersions := some (least, most) }
  | ciphers suites => { t with ciphers := some suites }
  | anchors source => { t with anchors := some source }
  | httpVersion version => { t with httpVersion := some version }
  | line text => { t with lines := t.lines ++ [text] }
  | headerLines => { t with headerLines := t.lines }
  | headerSink => { t with headerSink := true }
  | bodySink => { t with bodySink := true }

/-- The setup goes on although the call failed. -/
def tolerates : Setting → Fault → Bool
  | anchors .bundled, f => f = .unknownOption || f = .notBuiltIn
  | _, _ => false

end Setting

/-! ## Setups -/

/-- What the setup of one transfer meets. -/
structure Conditions where
  /-- The path leads to a file. -/
  isFile : Text → Bool := fun _ => false
  /-- What a call fails with, by its number in the setup and by what it sets. -/
  report : Nat → Setting → Option Fault := fun _ _ => none

/-- Only the bundled trust anchors can fail to be set. -/
def bundledReport (fault : Option Fault) (_ : Nat) (setting : Setting) : Option Fault :=
  if setting = .anchors .bundled then fault else none

/-- A call, and what it failed with. -/
structure Call where
  setting : Setting
  fault : Option Fault
  deriving DecidableEq, Repr

structure Setup where
  transfer : Transfer := {}
  /-- The calls that were made, in their order. -/
  calls : List Call := []
  /-- The fault that ended it. -/
  fault : Option Fault := none
  deriving DecidableEq, Repr

namespace Setup

def call (report : Nat → Setting → Option Fault) (s : Setup) (setting : Setting) : Setup :=
  let fault := report s.calls.length setting
  let calls := s.calls ++ [⟨setting, fault⟩]
  match fault with
  | none => { s with calls, transfer := setting.apply s.transfer }
  | some f => if setting.tolerates f then { s with calls } else { s with calls, fault }

/-- Makes the calls for a list of settings, up to the first that ends the setup. -/
def run (report : Nat → Setting → Option Fault) (s : Setup) : List Setting → Setup
  | [] => s
  | setting :: rest =>
    let s := s.call report setting
    if s.fault.isSome then s else s.run report rest

/-- The transfer, if nothing has ended its setup. -/
def done? (s : Setup) : Option Transfer :=
  if s.fault.isSome then none else some s.transfer

end Setup

end PlainLink
