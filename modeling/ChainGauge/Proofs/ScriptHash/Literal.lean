import ChainGauge.Proofs.Except
import ChainGauge.Proofs.ScriptHash.Forms
import ChainGauge.Text.Split

/-!
# Literals of script hashes

A literal is read by an index that runs along its bytes, two digits a step, and puts each byte in front
of those before. The reader of the display form reads the digits as a byte string and turns that around
afterwards. Both accept the same texts, forty digits in either case, and read them as the same hash
(`ScriptHash.ofLiteral_eq_ok_iff`). Only a marker in front of the digits is none of a literal.

## Key results

- `ScriptHash.literalBytes_eq`: the index reads what the reader of pairs reads, in reverse
- `ScriptHash.ofLiteral_eq_ok_iff`: the texts that are literals
- `ScriptHash.literal_agrees`: a literal is what the reader of the display form makes of it
-/

namespace ChainGauge

namespace Hex

variable {c : Char} {n x y : Nat} {cs : List Char} {bs : Bytes}

/-- A digit in lower case is the one that is written. -/
theorem Digit.toLower (h : Digit c n) : c.toLower = digit n := by
  have hlower : ∀ n < 16, lowerDigits[n]?.map Char.toLower = some (digit n) := by decide
  have hupper : ∀ n < 16, upperDigits[n]?.map Char.toLower = some (digit n) := by decide
  have hn := h.lt
  rcases h with hc | hc
  · simpa [hc] using hlower n hn
  · simpa [hc] using hupper n hn

/-- The digits of a byte from its halves. -/
private theorem pair_ofNat (hx : x < 16) (hy : y < 16) :
    pair (UInt8.ofNat (16 * x + y)) = [digit x, digit y] := by
  have hhigh : (16 * x + y) / 16 = x := by omega
  have hlow : (16 * x + y) % 16 = y := by omega
  rw [pair, Utf8.toNat_ofNat_of_lt (by omega), hhigh, hlow]

/-- Of the texts that spell some bytes, the one in lower case is written. -/
private theorem Spells.map_toLower (h : Spells cs bs) : cs.map Char.toLower = bs.flatMap pair := by
  induction h with
  | nil => rfl
  | cons hc hd _ ih =>
    rw [List.map_cons, List.map_cons, List.flatMap_cons, pair_ofNat hc.lt hd.lt, hc.toLower,
      hd.toLower, ih]
    rfl

end Hex

namespace ScriptHash

variable {s : String} {h : ScriptHash} {front pairs done : Bytes} {n i : Nat}

/-! ## Digits by their index -/

/-- Two digits that stand at an index. -/
private theorem literalByte_eq {a b : UInt8} (hi : front.length = 2 * i) :
    literalByte (front ++ a :: b :: pairs) i =
      match Hex.digitValue? a, Hex.digitValue? b with
      | some x, some y => .ok (UInt8.ofNat (16 * x + y))
      | _, _ => .error .digit := by
  have ha : (front ++ a :: b :: pairs).getD (2 * i) 0 = a := by
    simp [List.getD_eq_getElem?_getD, ← hi]
  have hb : (front ++ a :: b :: pairs).getD (2 * i + 1) 0 = b := by
    simp [List.getD_eq_getElem?_getD, ← hi]
  -- Stated with the two reads spelled out, so that both can be rewritten.
  have hread : literalByte (front ++ a :: b :: pairs) i =
      match Hex.digitValue? ((front ++ a :: b :: pairs).getD (2 * i) 0),
        Hex.digitValue? ((front ++ a :: b :: pairs).getD (2 * i + 1) 0) with
      | some x, some y => .ok (UInt8.ofNat (16 * x + y))
      | _, _ => .error .digit := rfl
  rw [hread, ha, hb]

/-- The pairs of digits from an index on are read as they are behind each other, but the bytes come in
reverse. -/
theorem literalBytes_eq (front : Bytes) (index : Nat) (hi : front.length = 2 * i)
    (hn : pairs.length = 2 * n) :
    literalBytes (front ++ pairs) i done n =
      ((Hex.decodePairs index pairs).map fun bs => bs.reverse ++ done).mapError
        fun _ => .digit := by
  induction n generalizing front pairs done i index with
  | zero =>
    obtain rfl := List.length_eq_zero_iff.mp hn
    rfl
  | succ n ih =>
    -- Each byte read moves one pair of digits from `pairs` to the end of `front`.
    match pairs, hn with
    | a :: b :: pairs, hn =>
      have hstep : front ++ a :: b :: pairs = (front ++ [a, b]) ++ pairs := by simp
      have hfront : (front ++ [a, b]).length = 2 * (i + 1) := by
        rw [List.length_append, hi]
        rfl
      have hpairs : pairs.length = 2 * n := by
        simp only [List.length_cons] at hn
        omega
      rw [literalBytes, literalByte_eq hi, Hex.decodePairs]
      cases Hex.digitValue? a with
      | none => rfl
      | some x =>
        cases Hex.digitValue? b with
        | none => rfl
        | some y =>
          dsimp only
          rw [hstep, ih _ (index + 2) hfront hpairs]
          cases Hex.decodePairs (index + 2) pairs with
          | error e => rfl
          | ok bs => simp [Except.map, Except.mapError]

/-! ## Literals -/

/-- What spells the bytes of a hash are forty characters of one byte each. -/
private theorem length_encode_of_spells {bs : Bytes} (hs : Hex.Spells s.toList bs) :
    (Utf8.encode s).length = 2 * bs.length := by
  rw [← String.ofList_toList (s := s), Utf8.encode_ofList_ascii hs.ascii, List.length_map,
    hs.length_eq]

/-- A literal is read as digits are, if it has forty bytes. -/
private theorem ofLiteral_eq (hlength : (Utf8.encode s).length = 40) :
    ofLiteral s = ((Hex.decode s).map fun bs => (ofLe? bs.reverse).getD zero).mapError
      fun _ => .digit := by
  have hbytes : literalBytes (Utf8.encode s) 0 [] 20 =
      ((Hex.decodePairs 0 (Utf8.encode s)).map fun bs => bs.reverse ++ []).mapError
        fun _ => .digit :=
    literalBytes_eq [] 0 rfl hlength
  rw [ofLiteral, Hex.decode, Hex.decodeBytes, if_neg (by omega), if_neg (by omega), hbytes]
  cases Hex.decodePairs 0 (Utf8.encode s) with
  | error e => rfl
  | ok bs => simp [Except.map, Except.mapError]

/-- The literals of a hash are the texts that spell its bytes, high byte first. -/
theorem ofLiteral_eq_ok_iff : ofLiteral s = .ok h ↔ Hex.Spells s.toList h.bytes.reverse := by
  by_cases hlength : (Utf8.encode s).length = 40
  · rw [ofLiteral_eq hlength, Except.mapError_eq_ok_iff, Except.map_eq_ok_iff]
    constructor
    · rintro ⟨bs, hread, hhash⟩
      have hs : Hex.Spells s.toList bs := Hex.decode_eq_ok_iff.mp hread
      have hwidth : bs.reverse.length = 20 := by
        have := length_encode_of_spells hs
        rw [List.length_reverse]
        omega
      rw [ofLe?, dif_pos hwidth, Option.getD_some] at hhash
      subst hhash
      simpa using hs
    · intro hs
      refine ⟨h.bytes.reverse, Hex.decode_eq_ok_iff.mpr hs, ?_⟩
      rw [List.reverse_reverse, ofLe?_eq_some_iff.mpr rfl, Option.getD_some]
  -- A text of another length is no literal, and has not the digits of a hash either.
  · have hno : ¬ Hex.Spells s.toList h.bytes.reverse := fun hs => hlength <| by
      rw [length_encode_of_spells hs, List.length_reverse, h.bytes_length]
    refine iff_of_false (fun hread => ?_) hno
    rw [ofLiteral, if_pos hlength] at hread
    cases hread

/-- Without a marker a text is a literal of a hash exactly if the display form is read so. -/
private theorem ofLiteral_eq_ok_iff_ofHex (hs : ∀ digits, s.toList ≠ '0' :: 'x' :: digits) :
    ofLiteral s = .ok h ↔ ofHex s = .ok h := by
  rw [ofLiteral_eq_ok_iff, ofHex_eq_ok_iff_of_unmarked hs]

/-- The hash of a literal is written as the literal in lower case. -/
private theorem toHex_of_ofLiteral (hread : ofLiteral s = .ok h) : h.toHex = Text.lower s := by
  rw [toHex, Hex.encode, ← (ofLiteral_eq_ok_iff.mp hread).map_toLower, Text.lower]

/-- A literal that is read is read as the hash that it stands for. -/
private theorem ofHex_literal (hread : ∃ k, ofLiteral s = .ok k) : ofHex s = .ok (literal s) := by
  obtain ⟨k, hk⟩ := hread
  have hs := ofLiteral_eq_ok_iff.mp hk
  rw [ofHex_eq_ok_iff_of_unmarked fun digits => hs.ne_marked, literal, hk]
  exact hs

/-- A text without a marker is the literal of a hash exactly if it is read as this hash in the display
form, and is refused exactly if it is refused there; the hash is written as the text in lower case. So
the hashes of the native contracts are those that their literals are read as. -/
theorem literal_agrees :
    (∀ s : String, (∀ digits, s.toList ≠ '0' :: 'x' :: digits) →
      (∀ h, ofLiteral s = .ok h ↔ ofHex s = .ok h) ∧
      ((∃ e, ofLiteral s = .error e) ↔ ∃ e, ofHex s = .error e) ∧
      ∀ h, ofLiteral s = .ok h → h.toHex = Text.lower s) ∧
    ofHex "d2a4cff31913016155e38e474a2c06d08be276cf" = .ok gas ∧
    ofHex "ef4073a0f2b305a38ec4050e4d3d28bc40ea63f5" = .ok neo ∧
    ofHex "c1e14f19c3e60d0b9244d06dd7ba9b113135ec3b" = .ok notary ∧
    ofHex "49cf4e5378ffcd4dec034fd98a174c5491e395e2" = .ok roleManagement := by
  refine ⟨fun s hs => ⟨fun h => ofLiteral_eq_ok_iff_ofHex hs, ?_, fun h => toHex_of_ofLiteral⟩,
    ofHex_literal ⟨_, rfl⟩, ofHex_literal ⟨_, rfl⟩, ofHex_literal ⟨_, rfl⟩, ofHex_literal ⟨_, rfl⟩⟩
  rw [Except.exists_eq_error_iff, Except.exists_eq_error_iff]
  exact forall_congr' fun h => not_congr (ofLiteral_eq_ok_iff_ofHex hs)

/-- The hash of the fee token with its digits in mixed case. -/
def mixedText : String := "D2a4CFF31913016155E38e474a2c06d08be276cf"

/-- Digits of mixed case are a literal. -/
theorem literal_agrees_mixed :
    (∀ digits, mixedText.toList ≠ '0' :: 'x' :: digits) ∧
      ((∃ e, ofLiteral mixedText = .error e) ↔ ∃ e, ofHex mixedText = .error e) ∧
      ofHex mixedText = .ok gas ∧ gas.toHex = Text.lower mixedText := by
  have hs : ∀ digits, mixedText.toList ≠ '0' :: 'x' :: digits := by
    intro digits hmarked
    have hhead : mixedText.toList.head? = some 'D' := rfl
    rw [hmarked] at hhead
    simp at hhead
  have hread : ofLiteral mixedText = .ok gas := rfl
  obtain ⟨hok, herror, hlower⟩ := literal_agrees.1 mixedText hs
  exact ⟨hs, herror, (hok gas).mp hread, hlower gas hread⟩

end ScriptHash

end ChainGauge
