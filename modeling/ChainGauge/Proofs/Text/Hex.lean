import ChainGauge.Proofs.Text.Utf8
import ChainGauge.Text.Hex

/-!
# Hexadecimal texts

Which texts spell which bytes is a relation of its own (`Hex.Spells`): two digits a byte, high half
first, in either case. The reader accepts exactly these (`Hex.decode_eq_ok_iff`), and what is written
is one of them (`Hex.spells_encode`), so nothing is lost by writing bytes as digits. The digits are in
the order of their values as characters too, so texts are in the order of their bytes.

The reader looks at the bytes of a text and not at its characters. That makes no difference: a digit
is below 128, and a text whose bytes are all below 128 is its own bytes.

## Key results

- `Hex.decode_eq_ok_iff`: the texts that are read, and what they are read as
- `Hex.decode_encode`, `Hex.encode_injective`: writing loses nothing
- `Hex.encode_lt_iff`: writing keeps the order
-/

namespace ChainGauge.Hex

/-- The digits in the order of their values, in lower case. -/
def lowerDigits : List Char :=
  ['0', '1', '2', '3', '4', '5', '6', '7', '8', '9', 'a', 'b', 'c', 'd', 'e', 'f']

/-- The digits in the order of their values, in upper case. -/
def upperDigits : List Char :=
  ['0', '1', '2', '3', '4', '5', '6', '7', '8', '9', 'A', 'B', 'C', 'D', 'E', 'F']

/-- A character is the digit of a value, in either case. -/
def Digit (c : Char) (n : Nat) : Prop :=
  lowerDigits[n]? = some c ∨ upperDigits[n]? = some c

instance (c : Char) (n : Nat) : Decidable (Digit c n) :=
  inferInstanceAs (Decidable (_ ∨ _))

/-- Characters spell bytes: two digits for each, high half first. -/
inductive Spells : List Char → Bytes → Prop where
  | nil : Spells [] []
  | cons {c d : Char} {x y : Nat} {cs : List Char} {bs : Bytes} :
    Digit c x → Digit d y → Spells cs bs → Spells (c :: d :: cs) (UInt8.ofNat (16 * x + y) :: bs)

variable {c : Char} {n index : Nat} {cs : List Char} {bs raw : Bytes} {s : String}

/-! ## Digits -/

/-- A digit is below sixteen. -/
theorem Digit.lt (h : Digit c n) : n < 16 := by
  rcases h with h | h
  · exact (List.getElem?_eq_some_iff.mp h).1
  · exact (List.getElem?_eq_some_iff.mp h).1

/-- Its character is ASCII. -/
theorem Digit.ascii (h : Digit c n) : c.toNat < 128 := by
  have hall : (lowerDigits ++ upperDigits).all (fun d => d.toNat < 128) = true := by decide
  have hmem : c ∈ lowerDigits ++ upperDigits :=
    List.mem_append.mpr (h.imp List.mem_of_getElem? List.mem_of_getElem?)
  exact of_decide_eq_true (List.all_eq_true.mp hall c hmem)

/-- The reader takes bytes below 128 for digits only, and values below sixteen. -/
private theorem bounds_of_digitValue? {b : UInt8} (h : digitValue? b = some n) :
    b.toNat < 128 ∧ n < 16 := by
  simp only [digitValue?, UInt8.le_iff_toNat_le, UInt8.reduceToNat] at h
  split at h
  · cases h
    omega
  split at h
  · cases h
    omega
  split at h
  · cases h
    omega
  · cases h

/-- The reader takes a byte for a digit if it is that of one. -/
private theorem digitValue?_eq_some_iff (h : c.toNat < 128) :
    digitValue? (UInt8.ofNat c.toNat) = some n ↔ Digit c n := by
  have hall : ∀ v < 128, ∀ n < 16,
      (digitValue? (UInt8.ofNat v) = some n ↔ Digit (Char.ofNat v) n) := by
    decide +kernel
  by_cases hn : n < 16
  · rw [hall c.toNat h n hn, Char.ofNat_toNat]
  · exact iff_of_false (fun hvalue => hn (bounds_of_digitValue? hvalue).2) fun hdigit => hn hdigit.lt

/-- The written digit is one. -/
private theorem digit_digit (h : n < 16) : Digit (digit n) n := by
  have hall : ∀ n < 16, Digit (digit n) n := by decide
  exact hall n h

/-! ## Pairs of digits -/

/-- What spells bytes is ASCII. -/
theorem Spells.ascii (h : Spells cs bs) : ∀ c ∈ cs, c.toNat < 128 := by
  induction h with
  | nil => simp
  | cons hc hd _ ih =>
    exact List.forall_mem_cons.mpr ⟨hc.ascii, List.forall_mem_cons.mpr ⟨hd.ascii, ih⟩⟩

/-- Digits do not begin with the marker. -/
theorem Spells.ne_marked {digits : List Char} (h : Spells cs bs) : cs ≠ '0' :: 'x' :: digits := by
  rintro rfl
  have hno : ∀ n < 16, ¬ Digit 'x' n := by decide
  obtain _ | ⟨-, hx, -⟩ := h
  exact hno _ hx.lt hx

/-- It takes two digits for each byte. -/
theorem Spells.length_eq (h : Spells cs bs) : cs.length = 2 * bs.length := by
  induction h with
  | nil => rfl
  | cons _ _ _ ih =>
    simp only [List.length_cons, ih]
    omega

/-- What is read in pairs consists of digits. -/
private theorem lt_of_decodePairs (h : decodePairs index raw = .ok bs) :
    ∀ b ∈ raw, b.toNat < 128 := by
  fun_induction decodePairs index raw generalizing bs with
  | case1 => simp
  | case2 => cases h
  | case3 => cases h
  | case4 => cases h
  | case5 index a b rest x y hy hx ih =>
    -- A pair that was read is two digits, and digits are ASCII.
    cases hrest : decodePairs (index + 2) rest with
    | error e =>
      rw [hrest] at h
      cases h
    | ok bs =>
      exact List.forall_mem_cons.mpr ⟨(bounds_of_digitValue? hx).1,
        List.forall_mem_cons.mpr ⟨(bounds_of_digitValue? hy).1, ih hrest⟩⟩

/-- Digits that are read in pairs spell what they are read as. -/
private theorem spells_of_decodePairs {index : Nat} {bs : Bytes} : ∀ {cs : List Char},
    (∀ c ∈ cs, c.toNat < 128) →
      decodePairs index (cs.map fun c => UInt8.ofNat c.toNat) = .ok bs → Spells cs bs
  | [], _, h => by
    cases h
    exact .nil
  | [_], _, h => nomatch h
  | c :: d :: cs, hascii, h => by
    obtain ⟨hc, hd, hcs⟩ : c.toNat < 128 ∧ d.toNat < 128 ∧ ∀ c ∈ cs, c.toNat < 128 := by
      simpa using hascii
    -- Two characters for each byte; the bytes behind them are the recursion's.
    simp only [List.map_cons, decodePairs] at h
    split at h
    · cases h
    · cases h
    · rename_i x y hx hy
      cases hrest : decodePairs (index + 2) (cs.map fun c => UInt8.ofNat c.toNat) with
      | error e =>
        rw [hrest] at h
        cases h
      | ok rest =>
        rw [hrest] at h
        cases h
        exact .cons ((digitValue?_eq_some_iff hc).mp hx) ((digitValue?_eq_some_iff hd).mp hy)
          (spells_of_decodePairs hcs hrest)

/-- It is read as the bytes. -/
theorem Spells.decodePairs (h : Spells cs bs) (index : Nat) :
    decodePairs index (cs.map fun c => UInt8.ofNat c.toNat) = .ok bs := by
  induction h generalizing index with
  | nil => rfl
  | cons hc hd _ ih =>
    have hx := (digitValue?_eq_some_iff hc.ascii).mpr hc
    have hy := (digitValue?_eq_some_iff hd.ascii).mpr hd
    simp only [List.map_cons, Hex.decodePairs, hx, hy, ih]
    rfl

/-! ## Texts -/

/-- The texts that are read are those that spell bytes. -/
theorem decode_eq_ok_iff : decode s = .ok bs ↔ Spells s.toList bs := by
  constructor
  · intro h
    rw [decode, decodeBytes] at h
    split at h
    · cases h
    -- Only digits were read, so each byte of the text is a character of it.
    · have hascii := Utf8.toNat_lt_of_encode (lt_of_decodePairs h)
      rw [← String.ofList_toList (s := s), Utf8.encode_ofList_ascii hascii] at h
      exact spells_of_decodePairs hascii h
  · intro h
    have hlength := h.length_eq
    rw [decode, ← String.ofList_toList (s := s), Utf8.encode_ofList_ascii h.ascii, decodeBytes,
      if_neg (by rw [List.length_map]; omega)]
    exact h.decodePairs 0

/-- What is written spells the bytes. -/
theorem spells_encode (bs : Bytes) : Spells (encode bs).toList bs := by
  rw [encode, String.toList_ofList]
  induction bs with
  | nil => exact .nil
  | cons b bs ih =>
    have hlt := b.toNat_lt
    -- The two digits make up the byte again.
    have hbyte : UInt8.ofNat (16 * (b.toNat / 16) + b.toNat % 16) = b := by
      rw [Nat.div_add_mod, UInt8.ofNat_toNat]
    have hcons := Spells.cons (digit_digit (n := b.toNat / 16) (by omega))
      (digit_digit (n := b.toNat % 16) (by omega)) ih
    rw [hbyte] at hcons
    exact hcons

/-- Written bytes are read back. -/
theorem decode_encode (bs : Bytes) : decode (encode bs) = .ok bs :=
  decode_eq_ok_iff.mpr (spells_encode bs)

/-- Written bytes have two digits each. -/
theorem length_encode (bs : Bytes) : (encode bs).toList.length = 2 * bs.length :=
  (spells_encode bs).length_eq

/-- No two byte strings have the same digits. -/
theorem encode_injective : Function.Injective encode :=
  injective_of_read decode_encode

/-! ## Order -/

/-- Digits are in the order of their numbers. -/
private theorem digit_lt_iff {m n : Nat} (hm : m < 16) (hn : n < 16) :
    digit m < digit n ↔ m < n := by
  have hall : ∀ m < 16, ∀ n < 16, (digit m < digit n ↔ m < n) := by decide
  exact hall m hm n hn

/-- No two have the same character. -/
private theorem digit_inj {m n : Nat} (hm : m < 16) (hn : n < 16) : digit m = digit n ↔ m = n := by
  have hall : ∀ m < 16, ∀ n < 16, (digit m = digit n ↔ m = n) := by decide
  exact hall m hm n hn

/-- Two digits are in the order of their bytes: the high ones tell it, or else the low ones. -/
private theorem pair_append_lt_iff {b c : UInt8} {ds es : List Char} :
    pair b ++ ds < pair c ++ es ↔ b < c ∨ b = c ∧ ds < es := by
  have hb := b.toNat_lt
  have hc := c.toNat_lt
  -- Bytes are ordered as their pairs of digits are: by the higher one first.
  have hlt : b < c ↔ b.toNat / 16 < c.toNat / 16 ∨
      b.toNat / 16 = c.toNat / 16 ∧ b.toNat % 16 < c.toNat % 16 := by
    rw [UInt8.lt_iff_toNat_lt]
    omega
  have heq : b = c ↔ b.toNat / 16 = c.toNat / 16 ∧ b.toNat % 16 = c.toNat % 16 := by
    rw [← UInt8.toNat_inj]
    omega
  simp only [pair, List.cons_append, List.nil_append, List.cons_lt_cons_iff]
  rw [digit_lt_iff (by omega) (by omega), digit_lt_iff (by omega) (by omega),
    digit_inj (by omega) (by omega), digit_inj (by omega) (by omega), hlt, heq, and_or_left,
    or_assoc, and_assoc]

/-- The digits of bytes are in the order of the bytes. -/
private theorem flatMap_pair_lt_iff {cs : Bytes} : bs.flatMap pair < cs.flatMap pair ↔ bs < cs := by
  induction bs generalizing cs with
  | nil => cases cs <;> simp [pair]
  | cons b bs ih =>
    cases cs with
    | nil => simp
    | cons c cs =>
      rw [List.flatMap_cons, List.flatMap_cons, pair_append_lt_iff, ih, List.cons_lt_cons_iff]

/-- The texts of bytes are in the order of the bytes, whatever their lengths. -/
theorem encode_lt_iff {cs : Bytes} : encode bs < encode cs ↔ bs < cs := by
  rw [String.lt_iff, encode, encode, String.toList_ofList, String.toList_ofList,
    flatMap_pair_lt_iff]

/-- So are their texts. -/
theorem encode_le_iff {cs : Bytes} : encode bs ≤ encode cs ↔ bs ≤ cs := by
  rw [← String.not_lt, ← List.not_lt, encode_lt_iff]

end ChainGauge.Hex
