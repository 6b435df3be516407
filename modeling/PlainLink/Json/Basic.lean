/-
# JSON documents

The values of a document, as far as rule documents need them.  Numbers keep their
spelling.  Members of an object keep their order, repeated keys included; what a
repetition means is for the reader of the object to say.
-/
import PlainLink.Text.Basic

namespace PlainLink

/-- A value of a JSON document.  A text is missing where it is spelled with half of a surrogate
pair, which is no character. -/
inductive Json where
  | null
  | bool (b : Bool)
  | number (spelling : Text)
  | string (t : Option Text)
  | array (items : List Json)
  | object (members : List (Option Text × Json))

namespace Json

/-! ## Numbers -/

/-- A spelled number: its digits as one number, and the power of ten to multiply it with. -/
def scientific (spelling : Text) : Nat × Int :=
  let spelling := if spelling.head? = some '-' then spelling.tail else spelling
  let (mantissa, rest) := Text.cutBefore (fun c => c == 'e' || c == 'E') spelling
  let (whole, fraction) := (Text.splitFirst? '.' mantissa).getD (mantissa, [])
  let exponent : Int := match rest.tail with
    | '-' :: digits => -(Text.decimalValue digits : Int)
    | '+' :: digits => Text.decimalValue digits
    | digits => Text.decimalValue digits
  (Text.decimalValue (whole ++ fraction), exponent - fraction.length)

/-- The least number that is too large for a binary floating-point number of 64 bits: half a
step above the largest one. -/
def firstTooLarge : Nat := Nat.pow 2 1024 - Nat.pow 2 970

/-- The spelled number lies in the range of floating-point numbers.  Whole numbers of more than
400 digits and powers beyond 10^400 are judged without being computed. -/
def inRange (spelling : Text) : Bool :=
  let (digits, exponent) := scientific spelling
  if digits = 0 then true
  else
    let size : Int := (Text.ofNat digits).length + exponent
    if 400 < size then false
    else if size < 0 then true
    else if exponent ≥ 0 then digits * Nat.pow 10 exponent.toNat < firstTooLarge
    else digits < firstTooLarge * Nat.pow 10 (-exponent).toNat

/-! ## Reading values -/

/-- The value nests arrays and objects at most `room` deep, and all its
texts and numbers exist. -/
def isSound : (room : Nat) → Json → Bool
  | _, null => true
  | _, bool _ => true
  | _, number spelling => inRange spelling
  | _, string t => t.isSome
  | 0, array _ => false
  | 0, object _ => false
  | room + 1, array items => items.all (isSound room)
  | room + 1, object members => members.all fun (key, value) => key.isSome && isSound room value

def text? : Json → Option Text
  | string t => t
  | _ => none

/-- The truth value that a value is. -/
def flag? : Json → Option Bool
  | bool b => some b
  | _ => none

def texts? : Json → Option (List Text)
  | array items => items.mapM text?
  | _ => none

/-- Puts a member into a list in which each key stands once: a known key keeps its place and
takes the new value. -/
def putMember {α : Type} (key : Text) (value : α) : List (Text × α) → List (Text × α)
  | [] => [(key, value)]
  | (k, v) :: rest =>
    if k = key then (key, value) :: rest else (k, v) :: putMember key value rest

/-- The members of an object as a map: a repeated key has its first place
and its last value. -/
def entries? : Json → Option (List (Text × Json))
  | object members => do
    let named ← members.mapM fun (key, value) => key.map (·, value)
    return named.foldl (fun map (key, value) => putMember key value map) []
  | _ => none

end Json

end PlainLink
