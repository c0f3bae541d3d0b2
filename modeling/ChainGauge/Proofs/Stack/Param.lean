import ChainGauge.Proofs.Curve.P256
import ChainGauge.Proofs.ScriptHash.Forms
import ChainGauge.Proofs.Stack.Json
import ChainGauge.Proofs.Stack.Views
import ChainGauge.Stack.Param

/-!
# Parameters are sent without loss

The record of a parameter names its type, and the program's own readers get the payload back from the
text of its value: an integer and bytes as those of a stack item, a hash and a key from their digits. So
no two parameters are sent as the same record.

## Key results

- `PublicKey.ofBytes_bytes`: the compressed form of a key that was read is read as the key
- `Param.readFrom_value`: the text of a value is read as the payload
- `Param.params_recovered`: the record of a parameter determines it
-/

namespace ChainGauge

/-! ## Keys -/

namespace PublicKey

variable {k : PublicKey} {bs : Bytes}

/-- The compressed form of a key that was read, in whatever form, is read as the key. -/
theorem ofBytes_bytes (h : ofBytes bs = .ok k) : ofBytes k.bytes = .ok k := by
  rw [ofBytes] at h
  cases hpoint : P256.Point.decode? bs with
  | none =>
    rw [hpoint] at h
    cases h
  | some q =>
    rw [hpoint] at h
    cases h
    -- The point may decode to another representative, but one that encodes to the same bytes.
    obtain ⟨q', hdecode, hencode⟩ := P256.exists_decode?_encode hpoint
    have hbytes : (ofPoint q).bytes = q.encode := rfl
    have hsame : ofPoint q' = ofPoint q := by
      rw [PublicKey.mk.injEq]
      exact hencode
    rw [ofBytes, hbytes, hdecode, ← hsame]

/-- The digits of a key are read as the key. -/
private theorem ofHex_toHex (h : ofBytes bs = .ok k) : ofHex k.toHex = .ok k := by
  have hunmarked : Hex.unmarked k.toHex = k.toHex := by
    rw [Hex.unmarked]
    split
    · rename_i digits hmarked
      exact absurd hmarked (Hex.spells_encode k.bytes).ne_marked
    · rfl
  rw [ofHex, hunmarked, toHex, Hex.decode_encode]
  exact ofBytes_bytes h

end PublicKey

/-! ## Parameters -/

namespace Param

variable {p q : Param} {text : String}

/-- The payloads that there are: words of sixty-four bits, and keys that were read. -/
def Valid : Param → Prop
  | .integer n => -2 ^ 63 ≤ n ∧ n < 2 ^ 63
  | .key k => ∃ bs, PublicKey.ofBytes bs = .ok k
  | .string _ | .hash _ | .bytes _ => True

/-- A text is read as the payload of a parameter. -/
def ReadFrom (text : String) : Param → Prop
  | .integer n => ∃ item, StackItem.ofJson (StackItem.record "Integer" (.string text)) = .ok item ∧
      item.int64? = .ok n
  | .bytes bs => ∃ item, StackItem.ofJson (StackItem.record "ByteString" (.string text)) = .ok item ∧
      item.bytes? = .ok bs
  | .hash h => ScriptHash.ofHex text = .ok h
  | .key k => PublicKey.ofHex text = .ok k
  | .string s => text = s

/-- A word of sixty-four bits with a sign is in range. -/
private theorem inRange_of_word {n : Int} (h : -2 ^ 63 ≤ n ∧ n < 2 ^ 63) : Int256.InRange n := by
  have hbound : (2 ^ 63 : Int) ≤ Int256.bound := by decide
  obtain ⟨hlo, hhi⟩ := h
  constructor <;> omega

/-- The text of a value is read as the payload. -/
theorem readFrom_value (h : p.Valid) : p.ReadFrom p.value := by
  -- Each kind of parameter is read back by its own reader.
  cases p with
  | integer n =>
    have hitem : StackItem.InRange (.integer n) := .integer (inRange_of_word h)
    exact ⟨_, StackItem.ofJson_of_spells (StackItem.spells_toJson _) hitem,
      StackItem.int64?_eq_ok_iff.mpr ⟨rfl, h⟩⟩
  | string s => exact rfl
  | hash hash =>
    obtain ⟨digits, hmarked, hdigits⟩ := hash.writes_display
    exact (ScriptHash.ofHex_eq_ok_iff_of_marked hmarked).mpr hdigits
  | key k =>
    obtain ⟨bs, hread⟩ := h
    exact PublicKey.ofHex_toHex hread
  | bytes bs =>
    exact ⟨_, StackItem.ofJson_of_spells (StackItem.spells_toJson (.byteString bs)) .byteString, rfl⟩

/-- A text has one payload of each type. -/
private theorem eq_of_readFrom (hp : p.ReadFrom text) (hq : q.ReadFrom text)
    (htype : p.type = q.type) :
    p = q := by
  -- Each type has one reader, and no two constructors have one type.
  cases p with
  | integer n =>
    cases q with
    | integer m =>
      obtain ⟨item, hitem, hn⟩ := hp
      obtain ⟨item', hitem', hm⟩ := hq
      have hsame : item = item' := Except.ok.inj (hitem.symm.trans hitem')
      subst hsame
      rw [Except.ok.inj (hn.symm.trans hm)]
    | _ => simp [type] at htype
  | string s =>
    cases q with
    | string t => rw [← show text = s from hp, ← show text = t from hq]
    | _ => simp [type] at htype
  | hash h =>
    cases q with
    | hash k =>
      have hread : ScriptHash.ofHex text = .ok h := hp
      rw [Except.ok.inj (hread.symm.trans hq)]
    | _ => simp [type] at htype
  | key k =>
    cases q with
    | key l =>
      have hread : PublicKey.ofHex text = .ok k := hp
      rw [Except.ok.inj (hread.symm.trans hq)]
    | _ => simp [type] at htype
  | bytes bs =>
    cases q with
    | bytes cs =>
      obtain ⟨item, hitem, hbs⟩ := hp
      obtain ⟨item', hitem', hcs⟩ := hq
      have hsame : item = item' := Except.ok.inj (hitem.symm.trans hitem')
      subst hsame
      rw [Except.ok.inj (hbs.symm.trans hcs)]
    | _ => simp [type] at htype

/-- The record of a parameter holds its type and a text that the program's own readers read as its
payload, and no other parameter is sent as this record. -/
theorem params_recovered (h : p.Valid) :
    (∃ text, p.toJson = .object [("type", .string p.type), ("value", .string text)] ∧
      p.ReadFrom text) ∧
    ∀ q : Param, q.Valid → q.toJson = p.toJson → q = p := by
  refine ⟨⟨p.value, rfl, readFrom_value h⟩, fun q hq hjson => ?_⟩
  have hmembers : q.type = p.type ∧ q.value = p.value := by
    simpa [toJson] using hjson
  have hread : q.ReadFrom p.value := hmembers.2 ▸ readFrom_value hq
  exact eq_of_readFrom hread (readFrom_value h) hmembers.1

/-- A point of the curve. -/
def samplePoint : P256.Point where
  x := 0x6b17d1f2e12c4247f8bce6e563a440f277037d812deb33a0f4a13945d898c296
  y := 0x4fe342e2fe1a7f9b8ee7eb4a7c0f9e162bce33576b315ececbb6406837bf51f5

/-- The point as it is written in full. -/
def sampleBytes : Bytes :=
  0x04 :: (P256.field samplePoint.x ++ P256.field samplePoint.y)

/-- A key that was read from a point in full is sent in its compressed form and recovered from it. -/
theorem params_recovered_key :
    PublicKey.ofBytes sampleBytes = .ok (PublicKey.ofPoint samplePoint) ∧
      (Param.key (PublicKey.ofPoint samplePoint)).Valid ∧
      PublicKey.ofHex (Param.key (PublicKey.ofPoint samplePoint)).value =
        .ok (PublicKey.ofPoint samplePoint) := by
  have hread : PublicKey.ofBytes sampleBytes = .ok (PublicKey.ofPoint samplePoint) := by
    decide +kernel
  have hvalid : (Param.key (PublicKey.ofPoint samplePoint)).Valid := ⟨sampleBytes, hread⟩
  obtain ⟨⟨text, hjson, htext⟩, -⟩ := params_recovered hvalid
  have hvalue : (Param.key (PublicKey.ofPoint samplePoint)).value = text := by
    simpa [toJson] using hjson
  exact ⟨hread, hvalid, hvalue ▸ htext⟩

end Param

end ChainGauge
