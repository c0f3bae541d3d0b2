import ChainGauge.Text.Utf8

/-!
# Base-64 text

Three bytes are written as four digits of six bits; a last group of one or two bytes is filled up
with padding marks. Reading accepts the written form only: the padding must be there, and the bits
of the last digit that no byte uses must be zero.
-/

namespace ChainGauge.Base64

/-- The digits in the order of their values. -/
def alphabet : List UInt8 :=
  Utf8.encode "ABCDEFGHIJKLMNOPQRSTUVWXYZabcdefghijklmnopqrstuvwxyz0123456789+/"

/-- The byte of the padding mark. -/
def pad : UInt8 := 61

/-- The digit of a value below sixty-four. -/
def digit (n : Nat) : UInt8 :=
  alphabet.getD n pad

/-- The value of a digit. -/
def digitValue? (b : UInt8) : Option Nat :=
  if 65 ≤ b ∧ b ≤ 90 then some (b.toNat - 65)
  else if 97 ≤ b ∧ b ≤ 122 then some (b.toNat - 71)
  else if 48 ≤ b ∧ b ≤ 57 then some (b.toNat + 4)
  else if b = 43 then some 62
  else if b = 47 then some 63
  else none

/-- The digits of a byte string, with padding. -/
def digits : Bytes → List UInt8
  | [] => []
  | [a] => [digit (a.toNat / 4), digit (a.toNat % 4 * 16), pad, pad]
  | [a, b] =>
    [digit (a.toNat / 4), digit (a.toNat % 4 * 16 + b.toNat / 16), digit (b.toNat % 16 * 4), pad]
  | a :: b :: c :: rest =>
    digit (a.toNat / 4) :: digit (a.toNat % 4 * 16 + b.toNat / 16)
      :: digit (b.toNat % 16 * 4 + c.toNat / 64) :: digit (c.toNat % 64) :: digits rest

/-- Writes bytes as digits. -/
def encode (bs : Bytes) : String :=
  String.ofList ((digits bs).map fun b => Char.ofNat b.toNat)

/-- Why a text is no base-64 text. -/
inductive Error where
  /-- The byte at `index` stands where no such byte may stand. -/
  | invalidByte (byte : UInt8) (index : Nat)
  /-- The text ends after the first digit of a group. -/
  | invalidLength (length : Nat)
  /-- The last digit, at `index`, sets bits that no byte uses. -/
  | invalidLast (byte : UInt8) (index : Nat)
  | invalidPadding
  deriving DecidableEq, Repr

/-- The wording of an error. -/
def Error.message : Error → String
  | .invalidByte b i => s!"Invalid symbol {b.toNat}, offset {i}."
  | .invalidLength n => s!"Invalid input length: {n}"
  | .invalidLast b i => s!"Invalid last symbol {b.toNat}, offset {i}."
  | .invalidPadding => "Invalid padding"

/-- The value of the digit at `index`. -/
def valueAt (index : Nat) (b : UInt8) : Except Error Nat :=
  match digitValue? b with
  | some v => .ok v
  | none => .error (.invalidByte b index)

/-- The values of the digits of the last group, up to its padding. `first?` is the place of the
first padding mark met, `place` the place in the group. -/
def lastValues (index place : Nat) (first? : Option Nat) : Bytes → Except Error (List Nat)
  | [] => .ok []
  | b :: rest =>
    if b = pad then
      if place < 2 then .error (.invalidByte b (index + place))
      else lastValues index (place + 1) (first?.or (some place)) rest
    else match first? with
      | some p => .error (.invalidByte pad (index + p))
      | none => do
        let v ← valueAt (index + place) b
        let vs ← lastValues index (place + 1) none rest
        .ok (v :: vs)

/-- Reads the last group, which starts at `index`: the only one that may hold padding. -/
def decodeLast (index : Nat) (group : Bytes) : Except Error Bytes := do
  let vs ← lastValues index 0 none group
  let pads := (group.filter (· == pad)).length
  if group ≠ [] ∧ vs.length < 2 then .error (.invalidLength (index + vs.length))
  else if (pads + vs.length) % 4 ≠ 0 then .error .invalidPadding
  else
    let last := (group.getD (vs.length - 1) 0)
    match vs with
    | [x, y] =>
      if y % 16 = 0 then .ok [UInt8.ofNat (x * 4 + y / 16)]
      else .error (.invalidLast last (index + 1))
    | [x, y, z] =>
      if z % 4 = 0 then .ok [UInt8.ofNat (x * 4 + y / 16), UInt8.ofNat (y % 16 * 16 + z / 4)]
      else .error (.invalidLast last (index + 2))
    | [x, y, z, w] =>
      .ok [UInt8.ofNat (x * 4 + y / 16), UInt8.ofNat (y % 16 * 16 + z / 4), UInt8.ofNat (z % 4 * 64 + w)]
    | _ => .ok []

/-- Reads the groups of a text that starts at `index`. A group with more text behind it holds four
digits; the last one is left to `decodeLast`. -/
def decodeGroups (index : Nat) : Bytes → Except Error Bytes
  -- A fifth byte shows that this group is not the last one.
  | a :: b :: c :: d :: e :: rest => do
    let x ← valueAt index a
    let y ← valueAt (index + 1) b
    let z ← valueAt (index + 2) c
    let w ← valueAt (index + 3) d
    let bs ← decodeGroups (index + 4) (e :: rest)
    .ok (UInt8.ofNat (x * 4 + y / 16) :: UInt8.ofNat (y % 16 * 16 + z / 4)
      :: UInt8.ofNat (z % 4 * 64 + w) :: bs)
  | group => decodeLast index group

/-- Reads a text of digits. A single byte after whole groups that is neither digit nor padding is
reported before anything else. -/
def decode (s : String) : Except Error Bytes :=
  let bs := Utf8.encode s
  match bs.getLast? with
  | none => .ok []
  | some last =>
    if bs.length % 4 = 1 ∧ last ≠ pad ∧ digitValue? last = none then
      .error (.invalidByte last (bs.length - 1))
    else decodeGroups 0 bs

end ChainGauge.Base64
