import ChainGauge.Proofs.Text.Utf8
import ChainGauge.Text.Base58
import Mathlib.Data.Nat.Digits.Lemmas

/-!
# Base-58 texts

Bytes are digits of base 256, and a text has digits of base 58. Both ways a list of digits is turned
into the digits of its number in the other base, and the zeros in front, which the number does not
show, are put in front again (`rebase`). That loses nothing: going back gives the digits one started
from, with all zeros (`rebase_rebase`). So bytes have exactly one text, and every text that is read is
the one of its bytes.

## Key results

- `rebase_rebase`: a change of base and back
- `Base58.decode_eq_ok_iff`: a text is read as some bytes exactly if it is what they are written as
- `Base58.length_encode_eq`: how long a text is, where the first byte tells it
-/

namespace ChainGauge

/-! ## Digits of a number -/

/-- How many zeros stand in front of digits. -/
def zerosOf (ds : List Nat) : Nat :=
  (ds.takeWhile (· == 0)).length

/-- The number that digits spell, most significant first. -/
def numberOf (base : Nat) (ds : List Nat) : Nat :=
  Nat.ofDigits base ds.reverse

/-- The digits in base `c` of the number that digits in base `b` spell, with as many zeros in front. -/
def rebase (b c : Nat) (ds : List Nat) : List Nat :=
  List.replicate (zerosOf ds) 0 ++ (Nat.digits c (numberOf b ds)).reverse

variable {b c : Nat} {ds : List Nat}

/-- The digits of a number, the highest one first, in front of what there is. -/
private theorem digitsBefore_eq (base n : Nat) (acc : List Nat) :
    digitsBefore base n acc = (Nat.digits (base + 2) n).reverse ++ acc := by
  fun_induction digitsBefore base n acc with
  | case1 => simp
  | case2 n acc hn _ ih =>
    rw [ih, Nat.digits_def' (by omega) (Nat.pos_of_ne_zero hn), List.reverse_cons,
      List.append_assoc]
    rfl

/-- The fold over digits gives their number. -/
private theorem foldl_eq_numberOf (base : Nat) (ds : List Nat) :
    ds.foldl (fun acc d => base * acc + d) 0 = numberOf base ds := by
  simp [numberOf, Nat.ofDigits_eq_foldr, List.foldr_reverse, Nat.add_comm]

/-- Digits are their zeros in front and the digits of their number. -/
private theorem replicate_append_digits (hb : 1 < b) (h : ∀ d ∈ ds, d < b) :
    List.replicate (zerosOf ds) 0 ++ (Nat.digits b (numberOf b ds)).reverse = ds := by
  induction ds with
  | nil => simp [zerosOf, numberOf]
  | cons d ds ih =>
    obtain ⟨-, hds⟩ := List.forall_mem_cons.mp h
    by_cases hd : d = 0
    · subst hd
      have hzeros : zerosOf (0 :: ds) = zerosOf ds + 1 := by simp [zerosOf]
      have hnumber : numberOf b (0 :: ds) = numberOf b ds := by
        rw [numberOf, Nat.ofDigits_reverse_zero_cons, numberOf]
      rw [hzeros, hnumber, List.replicate_succ, List.cons_append, ih hds]
    -- The first digit is the last one of the number, so the number shows all of them.
    · have hzeros : zerosOf (d :: ds) = 0 := by simp [zerosOf, hd]
      have hdigits : Nat.digits b (numberOf b (d :: ds)) = (d :: ds).reverse :=
        Nat.digits_ofDigits b hb _ (fun l hl => h l (List.mem_reverse.mp hl)) (by simp [hd])
      rw [hzeros, hdigits, List.reverse_reverse]
      rfl

/-- The first digit of a number is not zero. -/
private theorem takeWhile_digits (b n : Nat) :
    (Nat.digits b n).reverse.takeWhile (· == 0) = [] := by
  by_cases hn : n = 0
  · simp [hn]
  · have hlast := Nat.getLast_digit_ne_zero b hn
    have hne : Nat.digits b n ≠ [] := Nat.digits_ne_nil_iff_ne_zero.mpr hn
    obtain ⟨d, rest, hrev⟩ := List.exists_cons_of_ne_nil (List.reverse_ne_nil_iff.mpr hne)
    have hd : d ≠ 0 := by
      rw [← List.head_reverse (List.reverse_ne_nil_iff.mpr hne)] at hlast
      simpa [hrev] using hlast
    rw [hrev, List.takeWhile_cons_of_neg (by simpa using hd)]

/-- Another base keeps the zeros in front. -/
private theorem zerosOf_rebase (b c : Nat) (ds : List Nat) :
    zerosOf (rebase b c ds) = zerosOf ds := by
  rw [zerosOf, rebase, List.takeWhile_append_of_pos (by simp), takeWhile_digits, List.append_nil,
    List.length_replicate]

/-- It keeps the number. -/
private theorem numberOf_rebase (b c : Nat) (ds : List Nat) :
    numberOf c (rebase b c ds) = numberOf b ds := by
  rw [rebase, numberOf, List.reverse_append, List.reverse_reverse, List.reverse_replicate,
    Nat.ofDigits_append_replicate_zero, Nat.ofDigits_digits]

/-- A change of base and back. -/
theorem rebase_rebase (hb : 1 < b) (h : ∀ d ∈ ds, d < b) : rebase c b (rebase b c ds) = ds := by
  rw [rebase, zerosOf_rebase, numberOf_rebase, replicate_append_digits hb h]

/-- Its digits are below it. -/
private theorem lt_of_mem_rebase (hc : 1 < c) : ∀ d ∈ rebase b c ds, d < c := by
  intro d hd
  rcases List.mem_append.mp hd with hzero | hdigit
  · rw [List.eq_of_mem_replicate hzero]
    omega
  · exact Nat.digits_lt_base hc (List.mem_reverse.mp hdigit)

/-! ## Bytes as digits -/

namespace Bytes

/-- The number of bytes in the base 256. -/
private theorem toNat_eq (bs : Bytes) : toNat bs = numberOf 256 (bs.map UInt8.toNat) := by
  rw [toNat, ← foldl_eq_numberOf, List.foldl_map]

/-- The bytes of a number. -/
private theorem ofNat_eq (n : Nat) : ofNat n = (Nat.digits 256 n).reverse.map UInt8.ofNat := by
  rw [ofNat, digitsBefore_eq, List.append_nil]

/-- Bytes are digits in the base 256. -/
private theorem lt_of_mem_map (bs : Bytes) : ∀ d ∈ bs.map UInt8.toNat, d < 256 := by
  intro d hd
  obtain ⟨byte, -, rfl⟩ := List.mem_map.mp hd
  exact byte.toNat_lt

/-- Bytes are read back from their digits. -/
private theorem map_ofNat_map_toNat (bs : Bytes) : (bs.map UInt8.toNat).map UInt8.ofNat = bs := by
  rw [List.map_map]
  exact (List.map_congr_left fun byte _ => UInt8.ofNat_toNat).trans (List.map_id bs)

/-- So are digits from their bytes. -/
private theorem map_toNat_map_ofNat (h : ∀ d ∈ ds, d < 256) :
    (ds.map UInt8.ofNat).map UInt8.toNat = ds := by
  rw [List.map_map]
  refine (List.map_congr_left fun d hd => ?_).trans (List.map_id ds)
  exact Utf8.toNat_ofNat_of_lt (h d hd)

/-- The zeros in front of bytes. -/
private theorem zerosOf_eq (bs : Bytes) :
    zerosOf (bs.map UInt8.toNat) = (bs.takeWhile (· == 0)).length := by
  have hzero : ((· == 0) ∘ UInt8.toNat : UInt8 → Bool) = (· == 0) := by
    funext byte
    simp [← UInt8.toNat_inj]
  rw [zerosOf, List.takeWhile_map, List.length_map, hzero]

end Bytes

/-! ## Texts -/

namespace Base58

variable {s : String} {bs : Bytes} {n index : Nat} {char : Char} {cs : List Char} {vs : List Nat}

/-- The character of a digit is read as it. -/
theorem digitValue?_digit (h : n < 58) : digitValue? (digit n) = some n := by
  have hall : ∀ n < 58, digitValue? (digit n) = some n := by decide +kernel
  exact hall n h

private theorem digit_lt (h : n < 58) : (digit n).toNat < 128 := by
  have hall : ∀ n < 58, (digit n).toNat < 128 := by decide +kernel
  exact hall n h

/-- A character that is read is that of the digit. -/
private theorem digit_of_digitValue? (h : digitValue? char = some n) : digit n = char ∧ n < 58 := by
  rw [digitValue?, List.findIdx?_eq_some_iff_getElem] at h
  obtain ⟨hlt, hchar, -⟩ := h
  have hlength : alphabet.length = 58 := by decide +kernel
  refine ⟨?_, hlength ▸ hlt⟩
  rw [digit, List.getD_eq_getElem?_getD, List.getElem?_eq_getElem hlt]
  simpa using hchar

/-- The values that are read are those whose digits the characters are. -/
private theorem digitValues_eq_ok_iff :
    digitValues index cs = .ok vs ↔ cs = vs.map digit ∧ ∀ v ∈ vs, v < 58 := by
  constructor
  · intro h
    induction cs generalizing index vs with
    | nil =>
      cases h
      simp
    | cons c cs ih =>
      rw [digitValues] at h
      split at h
      · cases h
      split at h
      · cases h
      · rename_i v hv
        cases hrest : digitValues (index + 1) cs with
        | error e =>
          rw [hrest] at h
          cases h
        | ok rest =>
          rw [hrest] at h
          cases h
          obtain ⟨rfl, hrange⟩ := ih hrest
          obtain ⟨rfl, hlt⟩ := digit_of_digitValue? hv
          exact ⟨rfl, List.forall_mem_cons.mpr ⟨hlt, hrange⟩⟩
  · rintro ⟨rfl, hrange⟩
    induction vs generalizing index with
    | nil => rfl
    | cons v vs ih =>
      obtain ⟨hv, hvs⟩ := List.forall_mem_cons.mp hrange
      -- A digit is ASCII, so the first check lets it pass.
      have hascii : ¬ 128 ≤ (digit v).toNat := Nat.not_le.mpr (digit_lt hv)
      simp only [List.map_cons, digitValues, hascii, ↓reduceIte, digitValue?_digit hv, ih hvs]
      rfl

/-- Bytes are written as the digits of another base. -/
private theorem encode_eq (bs : Bytes) :
    encode bs = String.ofList ((rebase 256 58 (bs.map UInt8.toNat)).map digit) := by
  have hzero : digit 0 = '1' := by decide +kernel
  rw [encode, digitsBefore_eq, List.append_nil, Bytes.toNat_eq, rebase, Bytes.zerosOf_eq,
    List.map_append, List.map_replicate, hzero, List.map_const']

/-- Written digits are read as the bytes that they are in the base 256. -/
private theorem decode_ofList_digits (h : ∀ v ∈ vs, v < 58) :
    decode (String.ofList (vs.map digit)) = .ok ((rebase 58 256 vs).map UInt8.ofNat) := by
  have hzero : UInt8.ofNat 0 = 0 := rfl
  rw [decode, String.toList_ofList, digitValues_eq_ok_iff.mpr ⟨rfl, h⟩, rebase, List.map_append,
    List.map_replicate, hzero, ← Bytes.ofNat_eq, ← foldl_eq_numberOf]
  rfl

/-- Written bytes are read back. -/
theorem decode_encode (bs : Bytes) : decode (encode bs) = .ok bs := by
  rw [encode_eq, decode_ofList_digits (lt_of_mem_rebase (by omega)),
    rebase_rebase (by omega) (Bytes.lt_of_mem_map bs), Bytes.map_ofNat_map_toNat]

/-- A text is read as some bytes exactly if it is what they are written as. -/
theorem decode_eq_ok_iff : decode s = .ok bs ↔ s = encode bs := by
  constructor
  · intro h
    cases hvs : digitValues 0 s.toList with
    | error e =>
      rw [decode, hvs] at h
      cases h
    | ok vs =>
      obtain ⟨hchars, hrange⟩ := digitValues_eq_ok_iff.mp hvs
      have hs : s = String.ofList (vs.map digit) := by rw [← hchars, String.ofList_toList]
      rw [hs, decode_ofList_digits hrange] at h
      cases h
      -- Changing the base to bytes and back gives the digits that were read, leading zeros
      -- included.
      rw [encode_eq, Bytes.map_toNat_map_ofNat (lt_of_mem_rebase (by omega)),
        rebase_rebase (by omega) hrange, hs]
  · rintro rfl
    exact decode_encode bs

/-- No two byte strings have the same text. -/
theorem encode_injective : Function.Injective encode :=
  injective_of_read decode_encode

/-- The characters of a written text are digits. -/
theorem mem_alphabet_of_mem_encode (h : char ∈ (encode bs).toList) : char ∈ alphabet := by
  rw [encode_eq, String.toList_ofList] at h
  obtain ⟨v, hv, rfl⟩ := List.mem_map.mp h
  have hall : ∀ n < 58, digit n ∈ alphabet := by decide +kernel
  exact hall v (lt_of_mem_rebase (by omega) v hv)

/-- Bytes stand for a number below the power of 256 by their length. -/
private theorem numberOf_lt (bs : Bytes) : numberOf 256 (bs.map UInt8.toNat) < 256 ^ bs.length := by
  have hlt := Nat.ofDigits_lt_base_pow_length (b := 256) (l := (bs.map UInt8.toNat).reverse)
    (by omega) fun d hd => Bytes.lt_of_mem_map _ d (List.mem_reverse.mp hd)
  simpa [numberOf] using hlt

/-- The byte in front counts for most. -/
private theorem numberOf_cons (byte : UInt8) (bs : Bytes) :
    numberOf 256 ((byte :: bs).map UInt8.toNat) =
      numberOf 256 (bs.map UInt8.toNat) + byte.toNat * 256 ^ bs.length := by
  simp [numberOf, Nat.ofDigits_append, Nat.mul_comm]

/-- A text has a digit for each of the number of its bytes, unless zeros stand in front. -/
private theorem length_encode_cons (bs : Bytes) {byte : UInt8} (hbyte : byte ≠ 0) :
    (encode (byte :: bs)).toList.length =
      (Nat.digits 58 (numberOf 256 ((byte :: bs).map UInt8.toNat))).length := by
  have hzeros : zerosOf ((byte :: bs).map UInt8.toNat) = 0 := by
    rw [Bytes.zerosOf_eq, List.takeWhile_cons_of_neg (by simpa using hbyte)]
    rfl
  rw [encode_eq, String.toList_ofList, List.length_map, rebase, hzeros, List.replicate_zero,
    List.nil_append, List.length_reverse]

/-- The first byte tells the length of a text if the bytes behind it cannot. -/
theorem length_encode_eq (bs : Bytes) {byte : UInt8} {width : Nat} (hbyte : byte ≠ 0)
    (hleast : 58 ^ width ≤ byte.toNat * 256 ^ bs.length)
    (hmost : (byte.toNat + 1) * 256 ^ bs.length ≤ 58 ^ (width + 1)) :
    (encode (byte :: bs)).toList.length = width + 1 := by
  have hrest := numberOf_lt bs
  rw [Nat.add_one_mul] at hmost
  rw [length_encode_cons bs hbyte, numberOf_cons]
  -- The number lies between two powers of 58, which fixes how many digits it has.
  apply Nat.le_antisymm
  · rw [Nat.digits_length_le_iff (by omega)]
    omega
  · rw [Nat.succ_le_iff, Nat.lt_digits_length_iff (by omega)]
    omega

end Base58

end ChainGauge
