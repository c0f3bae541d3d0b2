import ChainGauge.Text.Utf8

/-!
# Texts and their bytes

Reading the bytes of a text gives the text back (`Utf8.decode_encode`). The reader looks at the
leading byte of a character for the number of bytes behind it and for the bounds of the second one;
so there is one lemma for each number of bytes, and the bounds only matter for three and four.

A character below 128 is one byte of its own number, and all other bytes are at least 128
(`Utf8.lt_of_mem_encodeChar`), so a text whose bytes are all below 128 is read byte by byte.

## Key results

- `Utf8.decode_encode`: what is written is read back
- `Utf8.encode_ofList_ascii`, `Utf8.toNat_lt_of_encode`: characters below 128 are their own bytes
-/

namespace ChainGauge

/-- What can be read back is written differently for different things. -/
theorem injective_of_read {α β ε : Type} {write : α → β} {read : β → Except ε α}
    (h : ∀ a, read (write a) = .ok a) : Function.Injective write := by
  intro a b hab
  have hread := h a
  rw [hab, h b] at hread
  exact (Except.ok.inj hread).symm

namespace Utf8

variable {b : UInt8} {c : Char} {index : Nat}

/-- A number below 256 is a byte. -/
theorem toNat_ofNat_of_lt {n : Nat} (h : n < 256) : (UInt8.ofNat n).toNat = n := by
  rw [UInt8.toNat_ofNat']
  omega

/-! ## Leading bytes -/

/-- An ASCII byte stands alone. -/
private theorem continuation_one (h : b.toNat < 0x80) : continuation b = some (0, 0x80, 0xBF) := by
  have : b < 0x80 := UInt8.lt_iff_toNat_lt.mpr h
  simp only [continuation, this, ↓reduceIte]

/-- Behind the lead byte of two there is one more. -/
private theorem continuation_two (h : 0xC2 ≤ b.toNat) (h' : b.toNat < 0xE0) :
    continuation b = some (1, 0x80, 0xBF) := by
  simp only [continuation, UInt8.lt_iff_toNat_lt, UInt8.reduceToNat]
  rw [if_neg (by omega), if_neg (by omega), if_pos h']

/-- Of three bytes the second has bounds of its own behind `0xE0` and `0xED`. -/
private theorem continuation_three (h : 0xE0 ≤ b.toNat) (h' : b.toNat < 0xF0) :
    ∃ lo hi, continuation b = some (2, lo, hi) ∧
      lo.toNat = (if b.toNat = 0xE0 then 0xA0 else 0x80) ∧
      hi.toNat = if b.toNat = 0xED then 0x9F else 0xBF := by
  simp only [continuation, UInt8.lt_iff_toNat_lt, ← UInt8.toNat_inj, UInt8.reduceToNat]
  rw [if_neg (by omega), if_neg (by omega), if_neg (by omega)]
  by_cases hfirst : b.toNat = 0xE0
  · exact ⟨0xA0, 0xBF, by simp [hfirst]⟩
  · by_cases hlast : b.toNat = 0xED
    · exact ⟨0x80, 0x9F, by simp [hlast]⟩
    · exact ⟨0x80, 0xBF, by simp [hfirst, hlast, h']⟩

/-- Of four bytes the second has bounds of its own behind `0xF0` and `0xF4`. -/
private theorem continuation_four (h : 0xF0 ≤ b.toNat) (h' : b.toNat < 0xF5) :
    ∃ lo hi, continuation b = some (3, lo, hi) ∧
      lo.toNat = (if b.toNat = 0xF0 then 0x90 else 0x80) ∧
      hi.toNat = if b.toNat = 0xF4 then 0x8F else 0xBF := by
  simp only [continuation, UInt8.lt_iff_toNat_lt, ← UInt8.toNat_inj, UInt8.reduceToNat]
  rw [if_neg (by omega), if_neg (by omega), if_neg (by omega), if_neg (by omega),
    if_neg (by omega), if_neg (by omega)]
  -- The first and the last lead byte leave a smaller range to what follows.
  by_cases hfirst : b.toNat = 0xF0
  · exact ⟨0x90, 0xBF, by simp [hfirst]⟩
  · by_cases hlast : b.toNat = 0xF4
    · exact ⟨0x80, 0x8F, by simp [hlast]⟩
    · exact ⟨0x80, 0xBF, by simp [hfirst, hlast, show b.toNat < 0xF4 by omega]⟩

/-! ## Continuation bytes -/

/-- A continuation byte within its bounds adds six bits. -/
private theorem tail_succ {acc seen more : Nat} {lo hi : UInt8} {rest : Bytes}
    (hlo : lo.toNat ≤ b.toNat) (hhi : b.toNat ≤ hi.toNat) :
    tail acc seen index (more + 1) lo hi (b :: rest) =
      tail (acc * 64 + b.toNat % 64) (seen + 1) index more 0x80 0xBF rest := by
  have : lo ≤ b ∧ b ≤ hi := ⟨UInt8.le_iff_toNat_le.mpr hlo, UInt8.le_iff_toNat_le.mpr hhi⟩
  rw [tail, if_pos this]

/-- Behind the second byte every byte that writes six bits is within the bounds. -/
private theorem tail_succ_ofNat {acc seen more n : Nat} {rest : Bytes} :
    tail acc seen index (more + 1) 0x80 0xBF (UInt8.ofNat (n % 64 + 128) :: rest) =
      tail (acc * 64 + n % 64) (seen + 1) index more 0x80 0xBF rest := by
  have hb : (UInt8.ofNat (n % 64 + 128)).toNat = n % 64 + 128 := toNat_ofNat_of_lt (by omega)
  have hmod : (n % 64 + 128) % 64 = n % 64 := by omega
  have hlo : (0x80 : UInt8).toNat = 128 := rfl
  have hhi : (0xBF : UInt8).toNat = 191 := rfl
  rw [tail_succ (by omega) (by omega), hb, hmod]

/-! ## Characters -/

section Lengths

variable {v : Nat} {rest : Bytes}

/-- A character of one byte is read. -/
private theorem next_one (h : v < 0x80) :
    next index (UInt8.ofNat v) rest = .ok (Char.ofNat v, rest) := by
  have hb : (UInt8.ofNat v).toNat = v := toNat_ofNat_of_lt (by omega)
  rw [next, continuation_one (by omega)]
  simp only [leadBits, tail, hb]

/-- So is one of two bytes. -/
private theorem next_two (h : 0x80 ≤ v) (h' : v < 0x800) :
    next index (UInt8.ofNat (v / 64 % 32 + 192)) (UInt8.ofNat (v % 64 + 128) :: rest) =
      .ok (Char.ofNat v, rest) := by
  have hb : (UInt8.ofNat (v / 64 % 32 + 192)).toNat = v / 64 % 32 + 192 :=
    toNat_ofNat_of_lt (by omega)
  have hbits : (v / 64 % 32 + 192) % 32 * 64 + v % 64 = v := by omega
  rw [next, continuation_two (by omega) (by omega)]
  dsimp only
  rw [tail_succ_ofNat]
  simp only [leadBits, tail, hb, hbits]

/-- So is one of three bytes that is no half of a surrogate pair. -/
private theorem next_three (h : 0x800 ≤ v) (h' : v < 0x10000) (hvalid : v < 0xD800 ∨ 0xDFFF < v) :
    next index (UInt8.ofNat (v / 4096 % 16 + 224))
      (UInt8.ofNat (v / 64 % 64 + 128) :: UInt8.ofNat (v % 64 + 128) :: rest) =
        .ok (Char.ofNat v, rest) := by
  have hb : (UInt8.ofNat (v / 4096 % 16 + 224)).toNat = v / 4096 % 16 + 224 :=
    toNat_ofNat_of_lt (by omega)
  have hb' : (UInt8.ofNat (v / 64 % 64 + 128)).toNat = v / 64 % 64 + 128 :=
    toNat_ofNat_of_lt (by omega)
  have hbits : ((v / 4096 % 16 + 224) % 16 * 64 + (v / 64 % 64 + 128) % 64) * 64 + v % 64 = v := by
    omega
  obtain ⟨lo, hi, hcont, hlo, hhi⟩ := continuation_three
    (b := UInt8.ofNat (v / 4096 % 16 + 224)) (by omega) (by omega)
  -- The bounds of the second byte keep out longer spellings and surrogates.
  rw [hb] at hlo hhi
  have hlow : lo.toNat ≤ v / 64 % 64 + 128 := by rw [hlo]; split <;> omega
  have hhigh : v / 64 % 64 + 128 ≤ hi.toNat := by rw [hhi]; split <;> omega
  rw [next, hcont]
  dsimp only
  rw [tail_succ (by rw [hb']; exact hlow) (by rw [hb']; exact hhigh), tail_succ_ofNat]
  simp only [leadBits, tail, hb, hb', hbits]

/-- So is one of four bytes. -/
private theorem next_four (h : 0x10000 ≤ v) (h' : v < 0x110000) :
    next index (UInt8.ofNat (v / 262144 % 8 + 240))
      (UInt8.ofNat (v / 4096 % 64 + 128) :: UInt8.ofNat (v / 64 % 64 + 128) ::
        UInt8.ofNat (v % 64 + 128) :: rest) = .ok (Char.ofNat v, rest) := by
  have hb : (UInt8.ofNat (v / 262144 % 8 + 240)).toNat = v / 262144 % 8 + 240 :=
    toNat_ofNat_of_lt (by omega)
  have hb' : (UInt8.ofNat (v / 4096 % 64 + 128)).toNat = v / 4096 % 64 + 128 :=
    toNat_ofNat_of_lt (by omega)
  have hbits : (((v / 262144 % 8 + 240) % 8 * 64 + (v / 4096 % 64 + 128) % 64) * 64 +
      v / 64 % 64) * 64 + v % 64 = v := by
    omega
  obtain ⟨lo, hi, hcont, hlo, hhi⟩ := continuation_four
    (b := UInt8.ofNat (v / 262144 % 8 + 240)) (by omega) (by omega)
  -- Here they keep out longer spellings and numbers beyond the last character.
  rw [hb] at hlo hhi
  have hlow : lo.toNat ≤ v / 4096 % 64 + 128 := by rw [hlo]; split <;> omega
  have hhigh : v / 4096 % 64 + 128 ≤ hi.toNat := by rw [hhi]; split <;> omega
  rw [next, hcont]
  dsimp only
  rw [tail_succ (by rw [hb']; exact hlow) (by rw [hb']; exact hhigh), tail_succ_ofNat,
    tail_succ_ofNat]
  simp only [leadBits, tail, hb, hb', hbits]

end Lengths

/-- A character's bytes are read as the character, whatever follows them. -/
private theorem next_encodeChar (index : Nat) (c : Char) (rest : Bytes) :
    ∃ lead more, String.utf8EncodeChar c = lead :: more ∧
      next index lead (more ++ rest) = .ok (c, rest) := by
  have hvalid : c.toNat < 0xD800 ∨ 0xDFFF < c.toNat ∧ c.toNat < 0x110000 := c.valid
  have hc : Char.ofNat c.toNat = c := Char.ofNat_toNat c
  have hval : c.val.toNat = c.toNat := rfl
  simp only [String.utf8EncodeChar, hval]
  -- By the number of bytes that the character takes.
  by_cases h₁ : c.toNat ≤ 0x7F
  · refine ⟨_, [], by rw [if_pos h₁], ?_⟩
    rw [List.nil_append, next_one (by omega), hc]
  by_cases h₂ : c.toNat ≤ 0x7FF
  · refine ⟨_, [_], by rw [if_neg h₁, if_pos h₂], ?_⟩
    rw [List.cons_append, List.nil_append, next_two (by omega) (by omega), hc]
  by_cases h₃ : c.toNat ≤ 0xFFFF
  · refine ⟨_, [_, _], by rw [if_neg h₁, if_neg h₂, if_pos h₃], ?_⟩
    rw [List.cons_append, List.cons_append, List.nil_append,
      next_three (by omega) (by omega) (by omega), hc]
  · refine ⟨_, [_, _, _], by rw [if_neg h₁, if_neg h₂, if_neg h₃], ?_⟩
    rw [List.cons_append, List.cons_append, List.cons_append, List.nil_append,
      next_four (by omega) (by omega), hc]

/-- A written character is read in front of the rest. -/
private theorem decodeFrom_encodeChar (index : Nat) (c : Char) (rest : Bytes) :
    decodeFrom index (String.utf8EncodeChar c ++ rest) =
      (decodeFrom (index + c.utf8Size) rest).map (c :: ·) := by
  obtain ⟨lead, more, hchar, hnext⟩ := next_encodeChar index c rest
  rw [hchar, List.cons_append, decodeFrom]
  -- The first character is decoded, so only the rest can fail.
  split
  · rename_i e he
    rw [hnext] at he
    cases he
  · rename_i d rest' hd
    rw [hnext] at hd
    cases hd
    cases decodeFrom (index + c.utf8Size) rest <;> rfl

/-- What is written is read back. -/
theorem decode_encode (s : String) : decode (encode s) = .ok s := by
  have hfrom (cs : List Char) (index : Nat) :
      decodeFrom index (cs.flatMap String.utf8EncodeChar) = .ok cs := by
    induction cs generalizing index with
    | nil => rw [List.flatMap_nil, decodeFrom]
    | cons c cs ih =>
      rw [List.flatMap_cons, decodeFrom_encodeChar, ih]
      rfl
  rw [decode, encode, hfrom]
  exact congrArg Except.ok String.ofList_toList

/-! ## Characters below 128 -/

/-- An ASCII number is that of its character. -/
theorem toNat_charOfNat {n : Nat} (h : n < 128) : (Char.ofNat n).toNat = n := by
  have hvalid : n.isValidChar := .inl (by omega)
  rw [Char.ofNat, dif_pos hvalid]
  rfl

/-- An ASCII character is one byte. -/
private theorem encodeChar_of_lt (h : c.toNat < 128) :
    String.utf8EncodeChar c = [UInt8.ofNat c.toNat] := by
  have hval : c.val.toNat = c.toNat := rfl
  simp only [String.utf8EncodeChar, hval]
  rw [if_pos (by omega)]

/-- Only a character below 128 has a byte below 128. -/
theorem lt_of_mem_encodeChar (hb : b ∈ String.utf8EncodeChar c) (h : b.toNat < 128) :
    c.toNat < 128 := by
  have hval : c.val.toNat = c.toNat := rfl
  -- All bytes of a longer encoding have their highest bit set.
  refine Nat.lt_of_not_le fun hge => ?_
  simp only [String.utf8EncodeChar, hval] at hb
  rw [if_neg (by omega)] at hb
  split at hb
  · simp only [List.mem_cons, List.not_mem_nil, or_false] at hb
    rcases hb with rfl | rfl <;> rw [toNat_ofNat_of_lt (by omega)] at h <;> omega
  split at hb
  · simp only [List.mem_cons, List.not_mem_nil, or_false] at hb
    rcases hb with rfl | rfl | rfl <;> rw [toNat_ofNat_of_lt (by omega)] at h <;> omega
  · simp only [List.mem_cons, List.not_mem_nil, or_false] at hb
    rcases hb with rfl | rfl | rfl | rfl <;> rw [toNat_ofNat_of_lt (by omega)] at h <;> omega

/-- Characters below 128 are their own bytes. -/
theorem encode_ofList_ascii {cs : List Char} (h : ∀ c ∈ cs, c.toNat < 128) :
    encode (String.ofList cs) = cs.map fun c => UInt8.ofNat c.toNat := by
  rw [encode, String.toList_ofList]
  induction cs with
  | nil => rfl
  | cons c cs ih =>
    obtain ⟨hc, hcs⟩ := List.forall_mem_cons.mp h
    rw [List.flatMap_cons, encodeChar_of_lt hc, ih hcs]
    rfl

/-- Bytes below 128 write characters below 128 only. -/
theorem toNat_lt_of_encode {s : String} (h : ∀ b ∈ encode s, b.toNat < 128) :
    ∀ c ∈ s.toList, c.toNat < 128 := by
  intro c hc
  obtain ⟨b, more, hchar, -⟩ := next_encodeChar 0 c []
  have hb : b ∈ String.utf8EncodeChar c := hchar ▸ List.mem_cons_self
  exact lt_of_mem_encodeChar hb (h b (List.mem_flatMap.mpr ⟨c, hc, hb⟩))

end Utf8

end ChainGauge
