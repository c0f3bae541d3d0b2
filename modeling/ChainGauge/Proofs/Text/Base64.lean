import ChainGauge.Proofs.Text.Utf8
import ChainGauge.Text.Base64

/-!
# Base-64 texts

What is written is read back (`decode_encode`). A group of three bytes and its four digits are the same
twenty-four bits, which is arithmetic on the parts of each digit; the last group has zeros where bytes
are missing, and as many padding marks as fill it up.
-/

namespace ChainGauge.Base64

variable {bs : Bytes} {n index : Nat}

/-! ## Digits -/

/-- The character of a digit is read as it. -/
theorem digitValue?_digit (h : n < 64) : digitValue? (digit n) = some n := by
  revert n
  decide +kernel

private theorem digit_ne_pad (h : n < 64) : digit n ≠ pad := by
  revert n
  decide +kernel

private theorem digit_ascii (h : n < 64) : (digit n).toNat < 128 := by
  revert n
  decide +kernel

private theorem valueAt_digit (index : Nat) (h : n < 64) : valueAt index (digit n) = .ok n := by
  rw [valueAt, digitValue?_digit h]

/-! ## The last group -/

section Group

variable {x y z w : Nat} (hx : x < 64) (hy : y < 64)
include hx hy

/-- Two digits and two fillers are one byte, if no bits are left. -/
private theorem decodeLast_two (index : Nat) :
    decodeLast index [digit x, digit y, pad, pad] =
      if y % 16 = 0 then .ok [UInt8.ofNat (x * 4 + y / 16)]
      else .error (.invalidLast (digit y) (index + 1)) := by
  have hvalues : lastValues index 0 none [digit x, digit y, pad, pad] = .ok [x, y] := by
    simp [lastValues, digit_ne_pad, valueAt_digit, hx, hy, bind, Except.bind]
  simp [decodeLast, hvalues, digit_ne_pad, hx, hy, bind, Except.bind]

/-- Three digits and a filler are two bytes, if no bits are left. -/
private theorem decodeLast_three (hz : z < 64) (index : Nat) :
    decodeLast index [digit x, digit y, digit z, pad] =
      if z % 4 = 0 then .ok [UInt8.ofNat (x * 4 + y / 16), UInt8.ofNat (y % 16 * 16 + z / 4)]
      else .error (.invalidLast (digit z) (index + 2)) := by
  have hvalues : lastValues index 0 none [digit x, digit y, digit z, pad] = .ok [x, y, z] := by
    simp [lastValues, digit_ne_pad, valueAt_digit, hx, hy, hz, bind, Except.bind]
  simp [decodeLast, hvalues, digit_ne_pad, hx, hy, hz, bind, Except.bind]

/-- Four digits are three bytes. -/
private theorem decodeLast_four (hz : z < 64) (hw : w < 64) (index : Nat) :
    decodeLast index [digit x, digit y, digit z, digit w] =
      .ok [UInt8.ofNat (x * 4 + y / 16), UInt8.ofNat (y % 16 * 16 + z / 4),
        UInt8.ofNat (z % 4 * 64 + w)] := by
  have hvalues : lastValues index 0 none [digit x, digit y, digit z, digit w] =
      .ok [x, y, z, w] := by
    simp [lastValues, digit_ne_pad, valueAt_digit, hx, hy, hz, hw, bind, Except.bind]
  simp [decodeLast, hvalues, digit_ne_pad, hx, hy, hz, hw, bind, Except.bind]

end Group

/-! ## All groups -/

/-- Four digits are read as three bytes, in front of others or at the end. -/
private theorem decodeGroups_four {x y z w : Nat} (hx : x < 64) (hy : y < 64) (hz : z < 64)
    (hw : w < 64)
    {rest : Bytes} (hrest : decodeGroups (index + 4) rest = .ok bs) :
    decodeGroups index (digit x :: digit y :: digit z :: digit w :: rest) =
      .ok (UInt8.ofNat (x * 4 + y / 16) :: UInt8.ofNat (y % 16 * 16 + z / 4) ::
        UInt8.ofNat (z % 4 * 64 + w) :: bs) := by
  -- The last group is read apart, since padding is allowed there only.
  cases rest with
  | nil =>
    have hbs : [] = bs := Except.ok.inj hrest
    subst hbs
    exact decodeLast_four hx hy hz hw index
  | cons e rest =>
    simp [decodeGroups, valueAt_digit, hx, hy, hz, hw, hrest, bind, Except.bind]

/-! ## Bytes and their digits -/

section Bytes

variable (a b c : UInt8)

private theorem first_lt : a.toNat / 4 < 64 := by
  have := a.toNat_lt
  omega

private theorem second_lt : a.toNat % 4 * 16 + b.toNat / 16 < 64 := by
  have := b.toNat_lt
  omega

private theorem third_lt : b.toNat % 16 * 4 + c.toNat / 64 < 64 := by
  have := c.toNat_lt
  omega

private theorem fourth_lt : c.toNat % 64 < 64 :=
  Nat.mod_lt _ (by decide)

/-- The first byte is put together from two digits. -/
private theorem first_byte :
    UInt8.ofNat (a.toNat / 4 * 4 + (a.toNat % 4 * 16 + b.toNat / 16) / 16) = a := by
  have hb := b.toNat_lt
  have hbits : a.toNat / 4 * 4 + (a.toNat % 4 * 16 + b.toNat / 16) / 16 = a.toNat := by omega
  rw [hbits, UInt8.ofNat_toNat]

/-- So is the second one. -/
private theorem second_byte :
    UInt8.ofNat ((a.toNat % 4 * 16 + b.toNat / 16) % 16 * 16 +
      (b.toNat % 16 * 4 + c.toNat / 64) / 4) = b := by
  have hb := b.toNat_lt
  have hc := c.toNat_lt
  have hbits : (a.toNat % 4 * 16 + b.toNat / 16) % 16 * 16 +
      (b.toNat % 16 * 4 + c.toNat / 64) / 4 = b.toNat := by omega
  rw [hbits, UInt8.ofNat_toNat]

/-- So is the third one. -/
private theorem third_byte :
    UInt8.ofNat ((b.toNat % 16 * 4 + c.toNat / 64) % 4 * 64 + c.toNat % 64) = c := by
  have hc := c.toNat_lt
  have hbits : (b.toNat % 16 * 4 + c.toNat / 64) % 4 * 64 + c.toNat % 64 = c.toNat := by omega
  rw [hbits, UInt8.ofNat_toNat]

end Bytes

/-- The digits of bytes are read as the bytes. Where the last group lacks bytes, its digits are those
of a group with zeros there. -/
private theorem decodeGroups_digits (bs : Bytes) (index : Nat) :
    decodeGroups index (digits bs) = .ok bs := by
  fun_induction digits bs generalizing index with
  | case1 => rfl
  -- One byte left: its two digits, the rest of the bits zero.
  | case2 a =>
    have hy : a.toNat % 4 * 16 < 64 := second_lt a 0
    have hbyte := first_byte a 0
    refine (decodeLast_two (first_lt a) hy index).trans ?_
    rw [if_pos (Nat.mul_mod_left _ 16)]
    exact congrArg (fun byte => Except.ok [byte]) hbyte
  -- Two bytes left: three digits.
  | case3 a b =>
    have hz : b.toNat % 16 * 4 < 64 := third_lt b 0
    have hbyte := second_byte a b 0
    refine (decodeLast_three (first_lt a) (second_lt a b) hz index).trans ?_
    rw [if_pos (Nat.mul_mod_left _ 4), first_byte]
    exact congrArg (fun byte => Except.ok [a, byte]) hbyte
  | case4 a b c rest ih =>
    rw [decodeGroups_four (first_lt a) (second_lt a b) (third_lt b c) (fourth_lt c) (ih _),
      first_byte, second_byte, third_byte]

/-! ## Texts -/

/-- Digits and fillers are ASCII. -/
private theorem digits_ascii (bs : Bytes) : ∀ d ∈ digits bs, d.toNat < 128 := by
  -- Every character is a digit or the padding.
  have hpad : pad.toNat < 128 := by decide
  fun_induction digits bs with
  | case1 => simp
  | case2 a =>
    have hy : a.toNat % 4 * 16 < 64 := second_lt a 0
    simp [digit_ascii, first_lt, hy, hpad]
  | case3 a b =>
    have hz : b.toNat % 16 * 4 < 64 := third_lt b 0
    simp [digit_ascii, first_lt, second_lt, hz, hpad]
  | case4 a b c rest ih =>
    simpa [digit_ascii, first_lt, second_lt, third_lt, fourth_lt] using ih

/-- They stand in groups of four. -/
private theorem length_digits_mod (bs : Bytes) : (digits bs).length % 4 = 0 := by
  fun_induction digits bs with
  | case1 => rfl
  | case2 a => simp
  | case3 a b => simp
  | case4 a b c rest ih =>
    simp only [List.length_cons]
    omega

/-- The text of bytes is made of them. -/
private theorem utf8_encode (bs : Bytes) : Utf8.encode (encode bs) = digits bs := by
  have hchar {d : UInt8} (hd : d ∈ digits bs) : (Char.ofNat d.toNat).toNat = d.toNat :=
    Utf8.toNat_charOfNat (digits_ascii bs d hd)
  rw [encode, Utf8.encode_ofList_ascii, List.map_map]
  · refine (List.map_congr_left fun d hd => ?_).trans (List.map_id _)
    rw [Function.comp_apply, hchar hd, UInt8.ofNat_toNat, id]
  · intro c hc
    obtain ⟨d, hd, rfl⟩ := List.mem_map.mp hc
    rw [hchar hd]
    exact digits_ascii bs d hd

/-- What is written is read back. -/
theorem decode_encode (bs : Bytes) : decode (encode bs) = .ok bs := by
  have hgroups := decodeGroups_digits bs 0
  rw [decode, utf8_encode]
  cases hlast : (digits bs).getLast? with
  | none =>
    rw [List.getLast?_eq_none_iff.mp hlast] at hgroups
    exact hgroups
  | some last =>
    dsimp only
    rw [if_neg (by simp [length_digits_mod]), hgroups]

end ChainGauge.Base64
