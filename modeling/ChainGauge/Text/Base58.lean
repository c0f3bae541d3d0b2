import ChainGauge.Text.Utf8
import ChainGauge.Text.Message

/-!
# Base-58 text

The bytes are read as one big-endian number and written in base 58; each zero byte in front is
written as one zero digit of its own, so that no byte string shares its text with another.
-/

namespace ChainGauge

/-- The number that big-endian bytes spell. -/
def Bytes.toNat (bs : Bytes) : Nat :=
  bs.foldl (fun acc b => 256 * acc + b.toNat) 0

/-- The digits of `n` in base `base + 2`, most significant first, in front of `acc`; none for
zero. -/
def digitsBefore (base n : Nat) (acc : List Nat) : List Nat :=
  if h : n = 0 then acc
  else
    have : n / (base + 2) < n := Nat.div_lt_self (Nat.pos_of_ne_zero h) (by omega)
    digitsBefore base (n / (base + 2)) (n % (base + 2) :: acc)
termination_by n

/-- The fewest big-endian bytes that spell a number; none for zero. -/
def Bytes.ofNat (n : Nat) : Bytes :=
  (digitsBefore 254 n []).map UInt8.ofNat

namespace Base58

/-- The digits in the order of their values: no zero, capital o, capital i or small l. -/
def alphabet : List Char :=
  "123456789ABCDEFGHJKLMNPQRSTUVWXYZabcdefghijkmnopqrstuvwxyz".toList

/-- The digit of a value below fifty-eight. -/
def digit (n : Nat) : Char :=
  alphabet.getD n '1'

/-- The value of a digit. -/
def digitValue? (c : Char) : Option Nat :=
  alphabet.findIdx? (· == c)

/-- Writes bytes as digits. -/
def encode (bs : Bytes) : String :=
  let zeros := bs.takeWhile (· == 0)
  String.ofList (zeros.map (fun _ => '1') ++ (digitsBefore 56 (Bytes.toNat bs) []).map digit)

/-- Why a text is no base-58 text. -/
inductive Error where
  /-- The character at byte `index` is ASCII but no digit. -/
  | invalid (char : Char) (index : Nat)
  /-- A character beyond ASCII starts at byte `index`. -/
  | nonAscii (index : Nat)
  deriving DecidableEq, Repr

/-- The wording of an error. -/
def Error.message : Error → String
  | .invalid c i => s!"provided string contained invalid character {Quoted.char c} at byte {i}"
  | .nonAscii i => s!"provided string contained non-ascii character starting at byte {i}"

/-- The values of the digits, the first of which stands at `index`. -/
def digitValues (index : Nat) : List Char → Except Error (List Nat)
  | [] => .ok []
  | c :: cs =>
    if 128 ≤ c.toNat then .error (.nonAscii index)
    else match digitValue? c with
      | none => .error (.invalid c index)
      | some v => (digitValues (index + 1) cs).map (v :: ·)

/-- Reads a text of digits. -/
def decode (s : String) : Except Error Bytes :=
  (digitValues 0 s.toList).map fun vs =>
    List.replicate (vs.takeWhile (· == 0)).length 0
      ++ Bytes.ofNat (vs.foldl (fun acc v => 58 * acc + v) 0)

end Base58

end ChainGauge
