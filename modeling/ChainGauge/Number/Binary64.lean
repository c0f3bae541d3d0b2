/-!
# Doubles

A finite double is a whole number times a power of two. Exact work on it, such as finding its
decimal digits, starts from this pair. The other way round, a natural number becomes the nearest
double: its highest fifty-three bits, rounded by those behind them.

A token counts in units of a power of ten of its smallest part. The amount in units is the nearest
double of the count, divided by that power as repeated squaring gives it.
-/

namespace ChainGauge.Binary64

/-- What a double stands for. -/
inductive Value where
  | nan
  | infinite (negative : Bool)
  /-- `± m · 2 ^ q`. `lowest` holds when the doubles below are as far away as those above. -/
  | finite (negative : Bool) (m : Nat) (q : Int) (even spacing : Bool)
  deriving DecidableEq, Repr

/-- Reads the sixty-four bits of a double. -/
def Value.ofBits (bits : UInt64) : Value :=
  let n : Nat := bits.toNat
  let negative := 0x8000000000000000 ≤ n
  let exponent : Nat := n / 0x10000000000000 % 0x800
  let fraction : Nat := n % 0x10000000000000
  if exponent = 2047 then
    if fraction = 0 then .infinite negative else .nan
  else if exponent = 0 then .finite negative fraction (-1074) (fraction % 2 = 0) true
  else
    .finite negative (0x10000000000000 + fraction) ((exponent : Int) - 1075) (fraction % 2 = 0)
      (fraction ≠ 0 ∨ exponent = 1)

/-- What a double stands for. -/
def Value.ofFloat (x : Float) : Value :=
  .ofBits x.toBits

/-! ## Natural numbers -/

/-- `n / 2 ^ k` as a whole number; a half goes to the even neighbour. -/
def roundShift (n k : Nat) : Nat :=
  let unit := Nat.pow 2 k
  let rest := n % unit
  if 2 * rest < unit then n / unit
  else if unit < 2 * rest then n / unit + 1
  else n / unit + n / unit % 2

/-- The bits of positive infinity. -/
def infinityBits : Nat := 0x7ff0000000000000

/-- The bits of the double that is nearest to a natural number. -/
def nearestBits (n : Nat) : Nat :=
  if n = 0 then 0
  else
    -- A significand that is rounded up to `2 ^ 53` goes on into the exponent, as it should.
    min (0x10000000000000 * (n.log2 + 1022) + roundShift (0x10000000000000 * n) n.log2) infinityBits

theorem nearestBits_le (n : Nat) : nearestBits n ≤ infinityBits := by
  rw [nearestBits]
  split
  · exact Nat.zero_le _
  · exact Nat.min_le_right ..

open Float.Model Float.Model.UnpackedFloat in
/-- Bits up to those of infinity are no other form of a value that is not a number. -/
theorem valid_of_le {bits : Nat} (h : bits ≤ infinityBits) :
    Format.binary64.Valid (UInt64.ofNat bits).toBitVec where
  eq_packedNaN hexponent hmantissa := by
    rw [infinityBits] at h
    have hbits : (UInt64.ofNat bits).toBitVec.toNat = bits := by
      rw [UInt64.toNat_toBitVec, UInt64.toNat_ofNat', Nat.mod_eq_of_lt (by omega)]
    have hhighest : bits / 2 ^ 52 % 2048 = 2047 := by
      simpa [unpackExponent, hbits, Nat.shiftRight_eq_div_pow] using
        congrArg BitVec.toNat hexponent
    -- With all exponent bits set there is only room for infinity, which has no other bits.
    have hlow : bits % 2 ^ 52 = 0 := by omega
    exact absurd (BitVec.eq_of_toNat_eq (by simpa [unpackMantissa, hbits] using hlow)) hmantissa

/-- The nearest double of a natural number. -/
def nearestNat (n : Nat) : Float :=
  .ofModel ⟨.ofNat (nearestBits n), valid_of_le (nearestBits_le n)⟩

end ChainGauge.Binary64

/-! ## Amounts of tokens -/

namespace ChainGauge.Amount

open Binary64 (nearestNat)

/-- Multiplies `r` by `a ^ n`, from the low bit of `n` up; `fuel` bounds the number of bits. -/
def powerFrom (r a : Float) (n : Nat) : Nat → Float
  | 0 => r
  | fuel + 1 =>
    let r := if n % 2 = 1 then r * a else r
    if n / 2 = 0 then r else powerFrom r (a * a) (n / 2) fuel

/-- A power of ten; a negative one is the reciprocal of the positive one. -/
def powerOfTen (n : Int) : Float :=
  let p := powerFrom 1 10 n.natAbs 33
  if n < 0 then 1 / p else p

/-- A number of decimals as its thirty-two bits read it, where the highest stands for the sign. -/
def signedDecimals (decimals : Nat) : Int :=
  if decimals < 0x80000000 then decimals else (decimals : Int) - 0x100000000

/-- The nearest double of a whole number. -/
def nearest (n : Int) : Float :=
  if n < 0 then -nearestNat n.natAbs else nearestNat n.natAbs

/-- The amount in units of a count. -/
def scale (count : Int) (decimals : Nat) : Float :=
  nearest count / powerOfTen (signedDecimals decimals)

end ChainGauge.Amount
