/-
# One request and its answer

A request is sent by one transfer: all its options are set, the transfer is performed,
and what comes back is collected.  If a setting fails for good nothing is sent, and its
fault is the answer.  Redirections are not followed here.

Of a body only a given number of bytes is kept.  A longer one is cut, and this ends the
transfer with a fault of its own, which is no failure: the answer is there, with the
beginning of the body and a mark.  How long the body is decides about that, not the
pieces in which it arrives (`Exchange.answer_eq`).
-/
import PlainLink.Http.Headers
import PlainLink.Http.Tls
import PlainLink.Text.Utf8
import PlainLink.Url.Basic

namespace PlainLink

/-! ## Requests -/

structure Request where
  method : Text
  url : Url
  headers : Headers
  deriving DecidableEq, Repr

/-- A request by a method whose letters may be in any case. -/
def Request.make (method : Text) (url : Url) (headers : Headers) : Request :=
  ⟨Text.upper method, url, headers⟩

structure TransferOptions where
  /-- The time for the connection, and for the whole transfer. -/
  timeout : Duration
  tls : TlsOptions
  /-- The bytes of a body that are kept. -/
  maxBodyBytes : Nat
  deriving DecidableEq, Repr

def headerLine (field : Text × Text) : Text :=
  Text.trim field.1 ++ ": ".toList ++ Text.trim field.2

namespace Request

/-- `GET` is what a transfer asks by if nothing else is set. -/
def methodSettings (r : Request) : List Setting :=
  if r.method = "GET".toList then []
  else if r.method = "HEAD".toList then [.headerOnly]
  else [.customMethod r.method]

def schemeSettings (r : Request) (o : TransferOptions) (isFile : Text → Bool) : List Setting :=
  match r.url.scheme with
  | .https => o.tls.settings isFile
  | .http => [.httpVersion .v11]

/-- What is set for the transfer of a request. -/
def settings (r : Request) (o : TransferOptions) (isFile : Text → Bool) : List Setting :=
  [.url r.url.text, .followLocation false, .connectTimeout o.timeout, .timeout o.timeout]
    ++ r.methodSettings ++ r.schemeSettings o isFile
    ++ r.headers.map (fun field => .line (headerLine field))
    ++ [.headerLines, .headerSink, .bodySink]

/-- The setup of the transfer.  Nothing is left in it from a transfer before. -/
def setUp (r : Request) (o : TransferOptions) (c : Conditions) : Setup :=
  ({} : Setup).run c.report (r.settings o c.isFile)

end Request

/-! ## Answers -/

/-- What a server sends in answer to a request, and the fault that the
transfer then ends with. -/
structure Exchange where
  /-- It can be read once the transfer is performed. -/
  status : Nat := 200
  lines : List Bytes := []
  /-- The body, in the pieces in which it arrives. -/
  body : List Bytes := []
  fault : Option Fault := none
  deriving DecidableEq, Repr

def Exchange.refused : Exchange := { fault := some .connect }

structure Response where
  status : Nat
  headers : Headers
  body : Bytes
  /-- The body was longer than what is kept of it. -/
  truncated : Bool
  deriving DecidableEq, Repr

structure KeptBody where
  bytes : Bytes := []
  /-- The body was cut. -/
  truncated : Bool := false
  deriving DecidableEq, Repr

namespace KeptBody

/-- Takes a piece of a body, and tells how many of its bytes were accepted.  A piece that is
too long fills the room that is left, and none of it is accepted. -/
def accept (most : Nat) (kept : KeptBody) (piece : Bytes) : KeptBody × Nat :=
  let room := most - kept.bytes.length
  if room < piece.length then
    ({ bytes := kept.bytes ++ piece.take room, truncated := true }, 0)
  else ({ kept with bytes := kept.bytes ++ piece }, piece.length)

/-- Takes a body piece by piece; empty pieces are not handed over.  A piece that is not
accepted as a whole ends the transfer with a fault of its own. -/
def receive (most : Nat) : KeptBody → List Bytes → KeptBody × Option Fault
  | kept, [] => (kept, none)
  | kept, piece :: rest =>
    if piece.isEmpty then receive most kept rest
    else
      let (kept, accepted) := kept.accept most piece
      if accepted < piece.length then (kept, some .write) else receive most kept rest

/-- However a body is divided into pieces, it is kept as a whole if there is room for it, and
else its beginning is, and the transfer has failed. -/
theorem receive_eq {most : Nat} {bytes : Bytes} (pieces : List Bytes) (h : bytes.length ≤ most) :
    receive most ⟨bytes, false⟩ pieces =
      if most < (bytes ++ pieces.flatten).length then
        (⟨(bytes ++ pieces.flatten).take most, true⟩, some .write)
      else (⟨bytes ++ pieces.flatten, false⟩, none) := by
  induction pieces generalizing bytes with
  | nil =>
      rw [List.flatten_nil, List.append_nil, if_neg (Nat.not_lt.2 h)]
      rfl
  | cons piece rest ih =>
      rw [List.flatten_cons, ← List.append_assoc]
      have hroom : most = bytes.length + (most - bytes.length) := by omega
      unfold receive
      split
      · next hempty =>
        rw [List.isEmpty_iff.1 hempty, List.append_nil]
        exact ih h
      · next hpiece =>
        have hlength : 0 < piece.length := by
          rwa [List.length_pos_iff, ne_eq, ← List.isEmpty_iff]
        unfold accept
        dsimp only
        by_cases hcut : most - bytes.length < piece.length
        · have hlong : most < (bytes ++ piece ++ rest.flatten).length := by
            rw [List.length_append, List.length_append]
            omega
          have htake : (bytes ++ piece ++ rest.flatten).take most =
              bytes ++ piece.take (most - bytes.length) := by
            conv =>
              lhs
              rw [hroom]
            rw [List.append_assoc, List.take_length_add_append,
              List.take_append_of_le_length (Nat.le_of_lt hcut)]
          rw [if_pos hcut, if_pos hlong, htake]
          exact if_pos hlength
        · have hkept : (bytes ++ piece).length ≤ most := by
            rw [List.length_append]
            omega
          rw [if_neg hcut, ← ih hkept]
          exact if_neg (Nat.lt_irrefl _)

end KeptBody

/-- What is kept of the body that answers a request by the given method, and the fault that the
transfer ends with.  There is no body to take if only the header was asked for. -/
def Exchange.performed (e : Exchange) (method : Text) (maxBodyBytes : Nat) :
    KeptBody × Option Fault :=
  if method = "HEAD".toList then ({}, e.fault)
  else match KeptBody.receive maxBodyBytes {} e.body with
    | (kept, some f) => (kept, some f)
    | (kept, none) => (kept, e.fault)

/-- What arrives of an answer to a request by the given method.  The fault of a body that
was cut is no failure. -/
def Exchange.answer (e : Exchange) (method : Text) (maxBodyBytes : Nat) :
    Except Fault Response :=
  let (kept, fault) := e.performed method maxBodyBytes
  let response : Response :=
    { status := e.status, headers := .ofLines (e.lines.map Utf8.decode), body := kept.bytes,
      truncated := kept.truncated }
  match fault with
  | none => .ok response
  | some f => if f = .write ∧ kept.truncated then .ok response else .error f

/-- The body that is sent in answer to a request by the given method. -/
def Exchange.sentBody (e : Exchange) (method : Text) : Bytes :=
  if method = "HEAD".toList then [] else e.body.flatten

theorem Exchange.performed_eq (e : Exchange) (method : Text) (most : Nat) :
    e.performed method most =
      if most < (e.sentBody method).length then
        (⟨(e.sentBody method).take most, true⟩, some .write)
      else (⟨e.sentBody method, false⟩, e.fault) := by
  unfold performed sentBody
  by_cases hhead : method = "HEAD".toList
  · rw [if_pos hhead, if_pos hhead]
    rfl
  · have hreceived := @KeptBody.receive_eq most [] e.body (Nat.zero_le most)
    rw [List.nil_append] at hreceived
    rw [if_neg hhead, if_neg hhead, hreceived]
    by_cases hlong : most < e.body.flatten.length
    · rw [if_pos hlong, if_pos hlong]
    · rw [if_neg hlong, if_neg hlong]

/-- The answer depends on the length of the body that is sent: one that is too long
is cut, whatever the transfer would have ended with, and with any other the
transfer ends as it does. -/
theorem Exchange.answer_eq (e : Exchange) (method : Text) (most : Nat) :
    e.answer method most =
      if most < (e.sentBody method).length then
        .ok { status := e.status, headers := .ofLines (e.lines.map Utf8.decode),
              body := (e.sentBody method).take most, truncated := true }
      else match e.fault with
        | some f => .error f
        | none => .ok { status := e.status, headers := .ofLines (e.lines.map Utf8.decode),
                        body := e.sentBody method, truncated := false } := by
  unfold answer
  rw [performed_eq]
  by_cases hlong : most < (e.sentBody method).length
  · rw [if_pos hlong, if_pos hlong]
    rfl
  · rw [if_neg hlong, if_neg hlong]
    cases e.fault with
    | none => rfl
    | some f => exact if_neg fun hcut => Bool.false_ne_true hcut.2

/-! ## Requests and their answers -/

/-- Sends a request, and collects the response from what comes back. -/
def Request.fetch (r : Request) (o : TransferOptions) (c : Conditions) (e : Exchange) :
    Except Fault Response :=
  match (r.setUp o c).fault with
  | some f => .error f
  | none => e.answer r.method o.maxBodyBytes

end PlainLink
