import ChainGauge.Number.Int256
import Mathlib.Data.Nat.Digits.Lemmas

/-!
# Bytes as numbers with a sign

What little-endian bytes stand for in two's complement is said by their sum alone
(`twosComplement`). The reader goes another way: it fills the bytes up to the full width with their
sign and takes the result for one word. Both agree, because bytes that repeat the sign change nothing
(`twosComplement_extend`) and a word of the full width lies in the range of its sign
(`toInt_ofNat_unsignedOfLe`).

## Key results

- `ofLeBytes_eq`: the number that is read from up to thirty-two bytes
- `twosComplement_eq_zero_iff`: only zeros spell zero
-/

namespace ChainGauge.Int256

variable {bs : Bytes} {b : UInt8}

/-- The number of little-endian bytes in two's complement: their sum, less the weight of the byte
behind the last one if the top bit of the last one is set. -/
def twosComplement (bs : Bytes) : Int :=
  ((bs.mapIdx fun i b => b.toNat * 256 ^ i).sum : Nat) -
    if bs.getLast?.any (·.toNat.testBit 7) then (256 ^ bs.length : Nat) else 0

/-! ## Sums of bytes -/

/-- The bytes are digits in base 256, the lowest one first. -/
private theorem unsignedOfLe_eq (bs : Bytes) :
    unsignedOfLe bs = Nat.ofDigits 256 (bs.map UInt8.toNat) := by
  induction bs with
  | nil => rfl
  | cons b bs ih =>
    rw [List.map_cons, Nat.ofDigits_cons, ← ih]
    rfl

/-- The number as a sum over the places. -/
private theorem sum_mapIdx (bs : Bytes) :
    (bs.mapIdx fun i b => b.toNat * 256 ^ i).sum = unsignedOfLe bs := by
  rw [unsignedOfLe_eq, Nat.ofDigits_eq_sum_mapIdx]
  congr 1
  apply List.ext_getElem
  · simp
  · simp

/-- Bytes behind others count for more, by the places in front. -/
private theorem unsignedOfLe_append (bs cs : Bytes) :
    unsignedOfLe (bs ++ cs) = unsignedOfLe bs + 256 ^ bs.length * unsignedOfLe cs := by
  simp only [unsignedOfLe_eq, List.map_append, Nat.ofDigits_append, List.length_map]

/-- A number is below the power of 256 by its bytes. -/
private theorem unsignedOfLe_lt (bs : Bytes) : unsignedOfLe bs < 256 ^ bs.length := by
  have hlt := Nat.ofDigits_lt_base_pow_length (b := 256) (l := bs.map UInt8.toNat) (by decide)
  rw [List.length_map] at hlt
  rw [unsignedOfLe_eq]
  apply hlt
  intro x hx
  obtain ⟨b, -, rfl⟩ := List.mem_map.mp hx
  exact b.toNat_lt

/-- Zeros count for nothing. -/
private theorem unsignedOfLe_zeros (k : Nat) : unsignedOfLe (List.replicate k 0) = 0 := by
  rw [unsignedOfLe_eq, List.map_replicate]
  exact Nat.ofDigits_replicate_zero

/-- Bytes with all bits set fall short of the next power by one. -/
private theorem unsignedOfLe_ones (k : Nat) :
    unsignedOfLe (List.replicate k 0xff) + 1 = 256 ^ k := by
  induction k with
  | zero => rfl
  | succ k ih =>
    show 255 + 256 * unsignedOfLe (List.replicate k 0xff) + 1 = 256 ^ (k + 1)
    rw [Nat.pow_succ]
    omega

/-- Only zeros do. -/
private theorem unsignedOfLe_eq_zero_iff : unsignedOfLe bs = 0 ↔ ∀ b ∈ bs, b = 0 := by
  induction bs with
  | nil => exact ⟨fun _ => nofun, fun _ => rfl⟩
  | cons b bs ih =>
    have hb : b.toNat = 0 ↔ b = 0 := UInt8.toNat_inj (b := 0)
    rw [List.forall_mem_cons, ← ih, ← hb]
    show b.toNat + 256 * unsignedOfLe bs = 0 ↔ _
    omega

/-! ## Signs -/

/-- The reader looks at the top bit of the last byte. -/
private theorem isNegative_eq (bs : Bytes) :
    isNegative bs = bs.getLast?.any (·.toNat.testBit 7) := by
  have htop : ∀ n < 256, (UInt8.ofNat n &&& 0x80 != 0) = n.testBit 7 := by decide +kernel
  have hbyte (b : UInt8) : (b &&& 0x80 != 0) = b.toNat.testBit 7 := by
    rw [← htop b.toNat b.toNat_lt, UInt8.ofNat_toNat]
  unfold isNegative
  simp only [hbyte]

/-- The sign bit of a byte is its highest one. -/
private theorem testBit_seven_iff (b : UInt8) : b.toNat.testBit 7 = true ↔ 128 ≤ b.toNat := by
  have htop : ∀ n < 256, n.testBit 7 = true ↔ 128 ≤ n := by decide +kernel
  exact htop b.toNat b.toNat_lt

/-- Where the sign is negative, the power by all bytes is taken off. -/
private theorem twosComplement_eq (bs : Bytes) :
    twosComplement bs =
      unsignedOfLe bs - if isNegative bs then (256 ^ bs.length : Nat) else 0 := by
  rw [twosComplement, sum_mapIdx, isNegative_eq]

/-- The last byte has the sign. -/
private theorem isNegative_concat (bs : Bytes) (b : UInt8) :
    isNegative (bs ++ [b]) = true ↔ 128 ≤ b.toNat := by
  rw [isNegative_eq, List.getLast?_concat, ← testBit_seven_iff]
  rfl

/-- The sum of negative bytes is in the upper half of what their number allows, and that of others in
the lower half. -/
private theorem isNegative_iff (h : bs ≠ []) :
    isNegative bs = true ↔ 128 * 256 ^ (bs.length - 1) ≤ unsignedOfLe bs := by
  obtain ⟨front, last, rfl⟩ := bs.eq_nil_or_concat'.resolve_left h
  rw [isNegative_concat, unsignedOfLe_append, List.length_append, List.length_singleton,
    Nat.add_sub_cancel]
  have hfront := unsignedOfLe_lt front
  show _ ↔ _ ≤ unsignedOfLe front + 256 ^ front.length * (last.toNat + 256 * 0)
  generalize 256 ^ front.length = weight at hfront ⊢
  constructor
  · intro hlast
    have hmul : weight * 128 ≤ weight * (last.toNat + 256 * 0) := Nat.mul_le_mul_left weight hlast
    omega
  -- Below the top bit even the largest front does not reach the upper half.
  · intro hle
    by_contra hlast
    have hmul : weight * (last.toNat + 256 * 0 + 1) ≤ weight * 128 :=
      Nat.mul_le_mul_left weight (by omega)
    rw [Nat.mul_add] at hmul
    omega

/-- The number of bytes lies in the range of their width. -/
private theorem twosComplement_bounds (h : bs ≠ []) :
    -(128 * 256 ^ (bs.length - 1) : Nat) ≤ twosComplement bs ∧
      twosComplement bs < (128 * 256 ^ (bs.length - 1) : Nat) := by
  have hlen := List.length_pos_iff.mpr h
  -- Half of the range is `128 * 256 ^ (length - 1)`: the top byte's highest bit decides the side.
  have hpow : 256 ^ bs.length = 2 * (128 * 256 ^ (bs.length - 1)) := by
    rw [← Nat.mul_assoc, ← Nat.pow_succ']
    congr 1
    omega
  have hlt := unsignedOfLe_lt bs
  have hsign := isNegative_iff h
  rw [twosComplement_eq]
  split
  · rename_i hneg
    have := hsign.mp hneg
    omega
  · rename_i hpos
    have := mt hsign.mpr hpos
    omega

/-- Only zeros spell zero. -/
theorem twosComplement_eq_zero_iff : twosComplement bs = 0 ↔ ∀ b ∈ bs, b = 0 := by
  have hlt := unsignedOfLe_lt bs
  rw [← unsignedOfLe_eq_zero_iff, twosComplement_eq]
  split
  -- A negative number is not zero, and its bytes are not either.
  · rename_i hneg
    have hne : bs ≠ [] := by
      rintro rfl
      cases hneg
    have hupper := (isNegative_iff hne).mp hneg
    have hpos : 0 < 256 ^ (bs.length - 1) := Nat.pow_pos (by decide)
    omega
  · omega

/-! ## Sign extension -/

/-- Bytes of the sign behind a number keep it. -/
private theorem isNegative_extend (bs : Bytes) (k : Nat) :
    isNegative (bs ++ List.replicate k (signByte bs)) = isNegative bs := by
  cases k with
  | zero => rw [List.replicate_zero, List.append_nil]
  | succ k =>
    rw [List.replicate_succ', ← List.append_assoc, Bool.eq_iff_iff, isNegative_concat, signByte]
    cases isNegative bs with
    | true => decide
    | false => decide

/-- Bytes that repeat the sign do not change the number. -/
theorem twosComplement_extend (bs : Bytes) (k : Nat) :
    twosComplement (bs ++ List.replicate k (signByte bs)) = twosComplement bs := by
  rw [twosComplement_eq, isNegative_extend, twosComplement_eq, unsignedOfLe_append, signByte,
    List.length_append, List.length_replicate, Nat.pow_add]
  -- Zeros add nothing; ones add what the larger power of 256 takes away.
  cases isNegative bs with
  | false =>
    show ((unsignedOfLe bs + 256 ^ bs.length * unsignedOfLe (List.replicate k 0) : Nat) : Int) - 0 = _
    rw [unsignedOfLe_zeros, Nat.mul_zero, Nat.add_zero]
    rfl
  | true =>
    show ((unsignedOfLe bs + 256 ^ bs.length * unsignedOfLe (List.replicate k 0xff) : Nat) : Int) -
      (256 ^ bs.length * 256 ^ k : Nat) = unsignedOfLe bs - (256 ^ bs.length : Nat)
    rw [← unsignedOfLe_ones k, Nat.mul_add]
    omega

/-- A word of the full width. -/
theorem toInt_ofNat_unsignedOfLe (h : bs.length = 32) :
    (BitVec.ofNat 256 (unsignedOfLe bs)).toInt = twosComplement bs := by
  have hne : bs ≠ [] := by
    rintro rfl
    cases h
  obtain ⟨hlo, hhi⟩ := twosComplement_bounds hne
  rw [h] at hlo hhi
  -- The sum and the number differ by nothing or by one turn of the word.
  have hturn : (unsignedOfLe bs : Int).bmod (2 ^ 256) = (twosComplement bs).bmod (2 ^ 256) := by
    rw [twosComplement_eq, h]
    split
    · exact (Int.sub_bmod_right _ _).symm
    · rw [Int.natCast_zero, Int.sub_zero]
  rw [BitVec.toInt_ofNat', hturn]
  apply Int.bmod_eq_of_le
  · exact hlo
  · exact hhi

/-- Up to thirty-two bytes are read as their number in two's complement. -/
theorem ofLeBytes_eq (h : bs.length ≤ 32) : ofLeBytes bs = twosComplement bs := by
  have hlength : (extended bs).length = 32 := by
    rw [extended, List.length_append, List.length_replicate]
    omega
  rw [ofLeBytes, toInt_ofNat_unsignedOfLe hlength, extended, twosComplement_extend]

end ChainGauge.Int256
