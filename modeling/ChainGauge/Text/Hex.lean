import ChainGauge.Text.Utf8
import ChainGauge.Text.Message

/-!
# Hexadecimal text

Each byte is written as two digits, high half first. Writing uses lower case; reading takes either
case and names the first character that is no digit by its place among the text's bytes.
-/

namespace ChainGauge.Hex

/-- The digit of a value below sixteen. -/
def digit (n : Nat) : Char :=
  if n < 10 then Char.ofNat (48 + n) else Char.ofNat (87 + n)

/-- The value of a digit of either case. -/
def digitValue? (b : UInt8) : Option Nat :=
  if 48 ≤ b ∧ b ≤ 57 then some (b.toNat - 48)
  else if 97 ≤ b ∧ b ≤ 102 then some (b.toNat - 87)
  else if 65 ≤ b ∧ b ≤ 70 then some (b.toNat - 55)
  else none

/-- The two digits of a byte. -/
def pair (b : UInt8) : List Char :=
  [digit (b.toNat / 16), digit (b.toNat % 16)]

/-- Writes bytes as digits. -/
def encode (bs : Bytes) : String :=
  String.ofList (bs.flatMap pair)

/-- Why a text is no hexadecimal text. -/
inductive Error where
  | oddLength
  /-- The byte at `index` is no digit. -/
  | invalid (byte : UInt8) (index : Nat)
  deriving DecidableEq, Repr

/-- The wording of an error; the byte is shown as the character of its number. -/
def Error.message : Error → String
  | .oddLength => "Odd number of digits"
  | .invalid b i => s!"Invalid character {Quoted.char (Char.ofNat b.toNat)} at position {i}"

/-- Reads pairs of digits, the first of which stands at `index`. -/
def decodePairs (index : Nat) : Bytes → Except Error Bytes
  | [] => .ok []
  | [_] => .error .oddLength
  | a :: b :: rest =>
    match digitValue? a, digitValue? b with
    | none, _ => .error (.invalid a index)
    | some _, none => .error (.invalid b (index + 1))
    | some x, some y => (decodePairs (index + 2) rest).map (UInt8.ofNat (16 * x + y) :: ·)

/-- Reads the bytes that pairs of digits spell; an odd count is refused before any digit is looked
at. -/
def decodeBytes (bs : Bytes) : Except Error Bytes :=
  -- The length is looked at first, so `decodePairs` never meets a single digit.
  if bs.length % 2 = 1 then .error .oddLength else decodePairs 0 bs

/-- Reads a text of digits. -/
def decode (s : String) : Except Error Bytes :=
  decodeBytes (Utf8.encode s)

/-- A text without the marker in front of its digits, if it has one. -/
def unmarked (s : String) : String :=
  match s.toList with
  | '0' :: 'x' :: rest => String.ofList rest
  | _ => s

/-- The digits of a number, at least `width` of them. -/
def ofNat (width n : Nat) : String :=
  let ds := Nat.toDigits 16 n
  String.ofList (List.replicate (width - ds.length) '0' ++ ds)

end ChainGauge.Hex
