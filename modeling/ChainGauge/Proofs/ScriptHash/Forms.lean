import ChainGauge.Proofs.Text.Base58
import ChainGauge.Proofs.Text.Hex
import ChainGauge.ScriptHash
import Mathlib.Logic.ExistsUnique
import Mathlib.Tactic.NormNum

/-!
# The written forms of a script hash

A text is a script hash in a form (`ScriptHash.Form.Writes`) if it is forty digits behind the marker,
forty digits without it, or an address. The parser reads exactly these texts, and since the forms
differ in length it does not matter in which order it tries them: forty-two characters, forty, or at
most thirty-five. Of an address the parser checks length, checksum and version, so that it is
determined by the hash in it; no other text than the one that is written has that hash in it, because
base 58 has one text for each byte string.

Of the digest only its length is used.

## Key results

- `ScriptHash.ofAddress_eq_ok_iff`: the only address of a hash is the one that is written
- `ScriptHash.parse_eq_ok_iff`: what is parsed as which hash
- `ScriptHash.forms_parsed`: each text has at most one form, and the parser inverts each of them
-/

namespace ChainGauge

/-- A digest has thirty-two bytes. -/
private theorem Sha256.length_hash (message : Bytes) : (Sha256.hash message).length = 32 := by
  simp [Sha256.hash, Sha256.bigEndian]

namespace ScriptHash

/-- A written form. -/
inductive Form where
  /-- Behind the marker, high byte first. -/
  | display
  /-- Without the marker, low byte first. -/
  | bare
  | address
  deriving DecidableEq

/-- A text is a hash in a form; digits may have either case. -/
def Form.Writes : Form → ScriptHash → String → Prop
  | .display, h, s =>
    ∃ digits, s.toList = '0' :: 'x' :: digits ∧ Hex.Spells digits h.bytes.reverse
  | .bare, h, s => Hex.Spells s.toList h.bytes
  | .address, h, s => s = h.toAddress

variable {s : String} {h k : ScriptHash} {f g : Form} {bs : Bytes} {digits : List Char}

/-! ## Reading digits -/

/-- Bytes are a script hash exactly if they are its own. -/
theorem ofLe?_eq_some_iff : ofLe? bs = some h ↔ bs = h.bytes := by
  rw [ofLe?]
  constructor
  · intro hread
    split at hread
    · cases hread
      rfl
    · cases hread
  · rintro rfl
    rw [dif_pos h.bytes_length]

/-- They are read as it in the same case. -/
theorem ofLe_eq_ok_iff : ofLe bs = .ok h ↔ bs = h.bytes := by
  rw [ofLe, ← ofLe?_eq_some_iff]
  cases ofLe? bs <;> simp

/-- Digits are read as the hash whose bytes they spell. -/
private theorem ofLeHex_eq_ok_iff : ofLeHex s = .ok h ↔ Hex.Spells s.toList h.bytes := by
  rw [ofLeHex, ← Hex.decode_eq_ok_iff]
  cases Hex.decode s with
  | error e => simp
  | ok bs => simp [ofLe_eq_ok_iff]

/-- In the display form they spell the bytes the other way round, with a marker or without. -/
private theorem ofHex_eq_ok_iff :
    ofHex s = .ok h ↔ Hex.Spells (Hex.unmarked s).toList h.bytes.reverse := by
  rw [ofHex, ← Hex.decode_eq_ok_iff]
  cases Hex.decode (Hex.unmarked s) with
  | error e => simp
  | ok bs =>
    rw [Except.ok.injEq, ← List.reverse_eq_iff, ← ofLe?_eq_some_iff]
    cases hbytes : ofLe? bs.reverse <;> simp [hbytes]

/-- Behind a marker the digits spell them. -/
theorem ofHex_eq_ok_iff_of_marked (hs : s.toList = '0' :: 'x' :: digits) :
    ofHex s = .ok h ↔ Hex.Spells digits h.bytes.reverse := by
  rw [ofHex_eq_ok_iff]
  simp only [Hex.unmarked, hs, String.toList_ofList]

/-- Without one all characters do. -/
theorem ofHex_eq_ok_iff_of_unmarked (hs : ∀ digits, s.toList ≠ '0' :: 'x' :: digits) :
    ofHex s = .ok h ↔ Hex.Spells s.toList h.bytes.reverse := by
  have hunmarked : Hex.unmarked s = s := by
    rw [Hex.unmarked]
    split
    · rename_i digits hmarked
      exact absurd hmarked (hs digits)
    · rfl
  rw [ofHex_eq_ok_iff, hunmarked]

/-! ## Addresses -/

/-- A checksum has four bytes. -/
private theorem length_checksum (bs : Bytes) : (checksum bs).length = 4 := by
  rw [checksum, List.length_take, Sha256.length_hash]
  rfl

/-- What the text of an address holds. -/
def addressBytes (h : ScriptHash) : Bytes :=
  addressVersion :: (h.bytes ++ checksum (addressVersion :: h.bytes))

/-- The address of a hash is the text of its bytes between a version and a checksum. -/
theorem toAddress_eq (h : ScriptHash) : h.toAddress = Base58.encode h.addressBytes := rfl

/-- The reader checks everything but the hash, so the hash tells all bytes. -/
private theorem eq_addressBytes (hraw : Base58.decode s = .ok bs) (hread : ofAddress s = .ok h) :
    bs = h.addressBytes := by
  simp only [ofAddress, hraw] at hread
  split at hread
  · cases hread
  rename_i hlength
  split at hread
  · cases hread
  rename_i hsum
  split at hread
  · cases hread
  rename_i hversion
  cases bs with
  | nil => simp at hlength
  | cons version rest =>
    -- The checks have fixed the version and the checksum; the twenty bytes between them are the
    -- hash.
    simp only [List.take_succ_cons, List.drop_succ_cons, List.headD_cons, List.drop_zero,
      Decidable.not_not] at hsum hversion hread
    have hhash : rest.take 20 = h.bytes := ofLe_eq_ok_iff.mp hread
    rw [addressBytes, ← hhash, ← hversion, ← hsum, List.take_append_drop]

/-- An address is read as the hash that it is the address of. -/
private theorem ofAddress_toAddress (h : ScriptHash) : ofAddress h.toAddress = .ok h := by
  have hbytes := h.bytes_length
  have hlength : h.addressBytes.length = 25 := by
    simp [addressBytes, length_checksum, hbytes]
  have htake : h.addressBytes.take 21 = addressVersion :: h.bytes := by
    rw [addressBytes, List.take_succ_cons, List.take_left' hbytes]
  have hdrop : h.addressBytes.drop 21 = checksum (addressVersion :: h.bytes) := by
    rw [addressBytes, List.drop_succ_cons, List.drop_left' hbytes]
  simp only [ofAddress, toAddress_eq, Base58.decode_encode, hlength, htake, hdrop, ne_eq,
    not_true_eq_false, ↓reduceIte, List.headD_cons, List.drop_succ_cons, List.drop_zero]
  exact ofLe_eq_ok_iff.mpr rfl

/-- The address of a hash is read as the hash, and no other text is. -/
theorem ofAddress_eq_ok_iff : ofAddress s = .ok h ↔ s = h.toAddress := by
  constructor
  · intro hread
    cases hraw : Base58.decode s with
    | error e =>
      rw [ofAddress, hraw] at hread
      cases hread
    | ok bs =>
      -- The bytes of the text are those of the hash, and a text has only one Base58 spelling.
      rw [toAddress_eq, ← eq_addressBytes hraw hread]
      exact Base58.decode_eq_ok_iff.mp hraw
  · rintro rfl
    exact ofAddress_toAddress h

/-! ## Forms differ in length -/

/-- The version byte tells how long addresses are. -/
theorem length_toAddress (h : ScriptHash) : h.toAddress.toList.length = 34 := by
  have hrest : (h.bytes ++ checksum (addressVersion :: h.bytes)).length = 24 := by
    rw [List.length_append, h.bytes_length, length_checksum]
  have hversion : addressVersion.toNat = 53 := rfl
  refine Base58.length_encode_eq (h.bytes ++ checksum (addressVersion :: h.bytes)) (by decide) ?_ ?_
  · rw [hrest, hversion]
    norm_num
  · rw [hrest, hversion]
    norm_num

/-- The lengths that a form's texts have. -/
theorem Form.Writes.length_eq (hs : f.Writes h s) :
    match f with
    | .display => s.toList.length = 42
    | .bare => s.toList.length = 40
    | .address => s.toList.length = 34 := by
  have hbytes := h.bytes_length
  cases f with
  | display =>
    obtain ⟨digits, htext, hdigits⟩ := hs
    have hlength := hdigits.length_eq
    rw [List.length_reverse] at hlength
    simp only [htext, List.length_cons]
    omega
  | bare =>
    have hlength := Hex.Spells.length_eq hs
    simp only
    omega
  | address =>
    cases hs
    exact h.length_toAddress

/-- No text has two forms. -/
private theorem Form.Writes.form_unique (hf : f.Writes h s) (hg : g.Writes k s) : f = g := by
  have hlength := hf.length_eq
  have hlength' := hg.length_eq
  cases f <;> cases g <;> simp only at hlength hlength' <;> first | rfl | omega

/-! ## What the parser reads -/

/-- Only the display form begins with the marker. -/
theorem Form.Writes.unmarked (hs : f.Writes h s) (hf : f ≠ .display) :
    s.toList ≠ '0' :: 'x' :: digits := by
  intro hmarked
  cases f with
  | display => exact hf rfl
  | bare => exact Hex.Spells.ne_marked hs hmarked
  | address =>
    have hzero : '0' ∈ (Base58.encode h.addressBytes).toList := by
      rw [← toAddress_eq, ← show s = h.toAddress from hs, hmarked]
      exact List.mem_cons_self
    -- An address cannot begin with a zero digit: Base58 has none.
    have hno : '0' ∉ Base58.alphabet := by decide +kernel
    exact hno (Base58.mem_alphabet_of_mem_encode hzero)

/-- Without a marker a text is read as bare digits first, and then as an address. -/
private theorem parse_of_unmarked (hs : ∀ digits, s.toList ≠ '0' :: 'x' :: digits) :
    parse s = match ofLeHex s with
      | .ok h => .ok h
      | .error _ => ofAddress s := by
  rw [parse]
  split
  · rename_i digits hmarked
    exact absurd hmarked (hs digits)
  · rfl

/-- Every form of a hash is read as the hash. -/
theorem Form.Writes.parse_eq (hs : f.Writes h s) : parse s = .ok h := by
  cases f with
  | display =>
    obtain ⟨digits, hmarked, hdigits⟩ := hs
    simp only [parse, hmarked]
    exact (ofHex_eq_ok_iff_of_marked hmarked).mpr hdigits
  | bare =>
    rw [parse_of_unmarked fun digits => hs.unmarked (by decide), ofLeHex_eq_ok_iff.mpr hs]
  | address =>
    rw [parse_of_unmarked fun digits => hs.unmarked (by decide)]
    split
    · rename_i k hbare
      -- An address is too short for the digits of a hash.
      exact nomatch Form.Writes.form_unique (f := .bare) (ofLeHex_eq_ok_iff.mp hbare) hs
    · exact ofAddress_eq_ok_iff.mpr hs

/-- What is read as a hash has one of the forms. -/
theorem exists_writes_of_parse (hs : parse s = .ok h) : ∃ f : Form, f.Writes h s := by
  rw [parse] at hs
  split at hs
  · rename_i digits hmarked
    exact ⟨.display, digits, hmarked, (ofHex_eq_ok_iff_of_marked hmarked).mp hs⟩
  · split at hs
    · rename_i k hbare
      cases hs
      exact ⟨.bare, ofLeHex_eq_ok_iff.mp hbare⟩
    · exact ⟨.address, ofAddress_eq_ok_iff.mp hs⟩

/-- What is parsed as a hash has exactly one form and is the hash in this form. -/
theorem parse_eq_ok_iff : parse s = .ok h ↔ ∃! f : Form, f.Writes h s := by
  constructor
  · intro hs
    obtain ⟨f, hf⟩ := exists_writes_of_parse hs
    exact ⟨f, hf, fun g hg => hg.form_unique hf⟩
  · rintro ⟨f, hf, -⟩
    exact hf.parse_eq

/-- The display form behind the marker is one. -/
theorem writes_display (h : ScriptHash) : Form.display.Writes h ("0x" ++ h.toHex) :=
  ⟨h.toHex.toList, by simp, Hex.spells_encode _⟩

private theorem writes_bare (h : ScriptHash) : Form.bare.Writes h h.toLeHex :=
  Hex.spells_encode _

/-- No two script hashes have the same address. -/
private theorem toAddress_injective : Function.Injective toAddress :=
  injective_of_read ofAddress_toAddress

/-- The three forms share no text; the parser reads exactly the texts that have a form, as the hash
that they are in this form, so it inverts all three; only what is written is read as an address, and
different hashes have different addresses. -/
theorem forms_parsed :
    (∀ (s : String) (h : ScriptHash), parse s = .ok h ↔ ∃! f : Form, f.Writes h s) ∧
    (∀ (f g : Form) (h k : ScriptHash) (s : String), f.Writes h s → g.Writes k s → f = g) ∧
    (∀ h : ScriptHash, parse ("0x" ++ h.toHex) = .ok h ∧ parse h.toLeHex = .ok h ∧
      parse h.toAddress = .ok h) ∧
    (∀ (s : String) (h : ScriptHash), ofAddress s = .ok h ↔ s = h.toAddress) ∧
    Function.Injective toAddress := by
  refine ⟨fun s h => parse_eq_ok_iff, fun f g h k s hf hg => hf.form_unique hg, fun h => ?_,
    fun s h => ofAddress_eq_ok_iff, toAddress_injective⟩
  have haddress : Form.address.Writes h h.toAddress := rfl
  exact ⟨h.writes_display.parse_eq, h.writes_bare.parse_eq, haddress.parse_eq⟩

end ScriptHash

end ChainGauge
