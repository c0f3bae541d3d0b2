import ChainGauge.Text.Utf8

/-!
# Whole numbers of 256 bits

The integers of the virtual machine lie between `-2 ^ 255` and `2 ^ 255 - 1`. Their decimal text
may carry a sign; underscores between digits are skipped and no digit at all stands for zero.
-/

namespace ChainGauge.Int256

/-- Why a text is no such number. -/
inductive Error where
  /-- The byte, shown as the character of its number, is no digit. -/
  | digit (byte : UInt8)
  | overflow
  deriving DecidableEq, Repr

/-- The wording of an error. -/
def Error.message : Error → String
  | .digit b => s!"invalid digit: {Char.ofNat b.toNat}"
  | .overflow => "number does not fit in the integer size"

/-- The number of numbers that are not negative: `2 ^ 255`. -/
def bound : Nat := Nat.pow 2 255

/-- Whether a number is in range. -/
def InRange (n : Int) : Prop :=
  -(bound : Int) ≤ n ∧ n < (bound : Int)

instance (n : Int) : Decidable (InRange n) :=
  inferInstanceAs (Decidable (_ ∧ _))

/-- How many digits are read before a number that has grown too large is noticed. -/
def digitGroup : Nat := 19

/-- Appends digits to `acc`, which stands for `count` digits already. The number must stay below
`2 ^ 256`, which is looked at behind every group of digits and at the end; so a byte that is no digit
comes first if it stands in the group that makes the number too large. -/
def magnitude (acc count : Nat) : Bytes → Except Error Nat
  | [] => if acc < 2 * bound then .ok acc else .error .overflow
  | b :: rest =>
    if b = 95 then magnitude acc count rest
    else if 48 ≤ b ∧ b ≤ 57 then
      let acc := 10 * acc + (b.toNat - 48)
      -- The magnitude has one bit more than a number with a sign; `signed` looks at the range.
      if (count + 1) % digitGroup = 0 ∧ 2 * bound ≤ acc then .error .overflow
      else magnitude acc (count + 1) rest
    else .error (.digit b)

/-- A number from its sign and magnitude. -/
def signed (negative : Bool) (n : Nat) : Except Error Int :=
  let v : Int := if negative then -(n : Int) else n
  if InRange v then .ok v else .error .overflow

/-- Reads decimal text. -/
def ofDecimal (s : String) : Except Error Int :=
  match Utf8.encode s with
  | 43 :: rest => (magnitude 0 0 rest).bind (signed false)
  | 45 :: rest => (magnitude 0 0 rest).bind (signed true)
  | bs => (magnitude 0 0 bs).bind (signed false)

/-- The number that little-endian bytes spell, without a sign. -/
def unsignedOfLe (bs : Bytes) : Nat :=
  bs.foldr (fun b acc => b.toNat + 256 * acc) 0

/-- Whether the highest bit of the last byte is set, which stands for the sign. -/
def isNegative (bs : Bytes) : Bool :=
  bs.getLast?.any fun b => b &&& 0x80 != 0

/-- The byte that repeats the sign of bytes. -/
def signByte (bs : Bytes) : UInt8 :=
  if isNegative bs then 0xff else 0

/-- Bytes in the full width; those that are missing repeat the sign. -/
def extended (bs : Bytes) : Bytes :=
  bs ++ List.replicate (32 - bs.length) (signByte bs)

/-- The number that up to thirty-two little-endian bytes spell: the full width as a word with a
sign. -/
def ofLeBytes (bs : Bytes) : Int :=
  (BitVec.ofNat 256 (unsignedOfLe (extended bs))).toInt

end ChainGauge.Int256
