import ChainGauge.Proofs.Number.TwosComplement
import ChainGauge.Stack.Item

/-!
# Numbers and truth values of stack items

The integer view of bytes is their number in two's complement (`integer_of_bytes`). The boolean view
is written apart from it: it looks for a byte that is not zero. Still both tell the same, because only
zeros spell zero (`views_agree`); only bytes that are too many for an integer have a boolean view alone.
The views as bytes and as a list convert nothing (`bytes?_eq_ok_iff`, `list?_eq_ok_iff`).
-/

namespace ChainGauge.StackItem

open Int256 (twosComplement signByte)

/-- An item is a byte string or a buffer of these bytes. -/
def HasBytes (item : StackItem) (bs : Bytes) : Prop :=
  item = .byteString bs ∨ item = .buffer bs

/-- An item is an array or a struct of these items. -/
def HasItems (item : StackItem) (items : List StackItem) : Prop :=
  item = .array items ∨ item = .struct items

variable {item : StackItem} {items : List StackItem} {bs : Bytes} {v : Int}

/-- An item is viewed as bytes exactly if it has them. -/
theorem bytes?_eq_ok_iff : item.bytes? = .ok bs ↔ item.HasBytes bs := by
  cases item <;> simp [bytes?, HasBytes]

/-- It is viewed as a list exactly if it has items. -/
theorem list?_eq_ok_iff : item.list? = .ok items ↔ item.HasItems items := by
  cases item <;> simp [list?, HasItems]

/-- An item has its bytes only. -/
theorem HasBytes.unique {bs' : Bytes} (h : item.HasBytes bs) (h' : item.HasBytes bs') : bs = bs' :=
  Except.ok.inj ((bytes?_eq_ok_iff.mpr h).symm.trans (bytes?_eq_ok_iff.mpr h'))

/-- It has its items only. -/
theorem HasItems.unique {items' : List StackItem} (h : item.HasItems items)
    (h' : item.HasItems items') : items = items' :=
  Except.ok.inj ((list?_eq_ok_iff.mpr h).symm.trans (list?_eq_ok_iff.mpr h'))

/-- Bytes are viewed as the number that they are. -/
private theorem HasBytes.integer?_eq (h : item.HasBytes bs) :
    item.integer? = integerOfBytes bs := by
  rcases h with rfl | rfl
  · rfl
  · rfl

/-- They are viewed as true if one of them is not zero. -/
private theorem HasBytes.bool?_eq (h : item.HasBytes bs) : item.bool? = .ok (bs.any (· != 0)) := by
  rcases h with rfl | rfl
  · rfl
  · rfl

/-- Bytes that fit have an integer view. -/
private theorem integerOfBytes_of_le (h : bs.length ≤ 32) :
    integerOfBytes bs = .ok (twosComplement bs) := by
  rw [integerOfBytes, if_neg (by omega), Int256.ofLeBytes_eq h]

/-- More than thirty-two bytes are no number. -/
private theorem integerOfBytes_of_lt (h : 32 < bs.length) :
    integerOfBytes bs = .error (.tooWide bs.length) :=
  if_pos h

/-- The words of sixty-four bits are the integers in their range. -/
theorem int64?_eq_ok_iff :
    item.int64? = .ok v ↔ item.integer? = .ok v ∧ -2 ^ 63 ≤ v ∧ v < 2 ^ 63 := by
  unfold int64?
  cases item.integer? with
  | error e => simp
  | ok n =>
    -- The view is the whole integer where it fits.
    show (if -2 ^ 63 ≤ n ∧ n < 2 ^ 63 then Except.ok n else .error (Fault.overflow n)) = .ok v ↔ _
    constructor
    · intro h
      split at h
      · rename_i hrange
        cases h
        exact ⟨rfl, hrange⟩
      · cases h
    · rintro ⟨h, hrange⟩
      cases h
      exact if_pos hrange

/-- Items with one number have one word. -/
private theorem int64?_congr {other : StackItem} (h : other.integer? = item.integer?) :
    other.int64? = item.int64? := by
  rw [int64?, int64?, h]

/-- The integer view of bytes is their number in two's complement, if there are at most thirty-two,
and it is a word of sixty-four bits exactly if it is in the range of one. Bytes behind them that only
repeat the sign make no difference. -/
theorem integer_of_bytes (h : item.HasBytes bs) :
    (bs.length ≤ 32 → item.integer? = .ok (twosComplement bs)) ∧
    (32 < bs.length → item.integer? = .error (.tooWide bs.length)) ∧
    (∀ v, item.int64? = .ok v ↔ item.integer? = .ok v ∧ -2 ^ 63 ≤ v ∧ v < 2 ^ 63) ∧
    ∀ k other, bs.length + k ≤ 32 → HasBytes other (bs ++ List.replicate k (signByte bs)) →
      other.integer? = item.integer? ∧ other.int64? = item.int64? := by
  refine ⟨fun hle => ?_, fun hlt => ?_, fun v => int64?_eq_ok_iff, fun k other hle hother => ?_⟩
  · rw [h.integer?_eq, integerOfBytes_of_le hle]
  · rw [h.integer?_eq, integerOfBytes_of_lt hlt]
  · have hlength : (bs ++ List.replicate k (signByte bs)).length ≤ 32 := by
      rw [List.length_append, List.length_replicate]
      exact hle
    -- Extending by the sign keeps the number, and the bound is on the extended bytes.
    have hsame : other.integer? = item.integer? := by
      rw [hother.integer?_eq, h.integer?_eq, integerOfBytes_of_le hlength,
        integerOfBytes_of_le (by omega), Int256.twosComplement_extend]
    exact ⟨hsame, int64?_congr hsame⟩

/-- The least word of sixty-four bits, in eight bytes and sign-extended to the full width. -/
theorem integer_of_bytes_least :
    let least : Bytes := [0, 0, 0, 0, 0, 0, 0, 0x80]
    HasBytes (.buffer least) least ∧ (buffer least).int64? = .ok (-2 ^ 63) ∧
      (byteString (least ++ List.replicate 24 0xff)).int64? = .ok (-2 ^ 63) := by
  intro least
  have hbytes : HasBytes (.buffer least) least := .inr rfl
  obtain ⟨hnumber, -, hword, hextended⟩ := integer_of_bytes hbytes
  have hleast : (buffer least).int64? = .ok (-2 ^ 63) :=
    (hword _).mpr ⟨hnumber (by decide), by decide, by decide⟩
  have hwide := (hextended 24 (byteString (least ++ List.replicate 24 0xff)) (by decide) (.inl rfl)).2
  exact ⟨hbytes, hleast, hwide.trans hleast⟩

/-- Some byte is not zero exactly if the number of the bytes is not. -/
private theorem any_ne_zero (bs : Bytes) : bs.any (· != 0) = (twosComplement bs != 0) := by
  rw [Bool.eq_iff_iff, List.any_eq_true, bne_iff_ne, ne_eq, Int256.twosComplement_eq_zero_iff]
  simp

/-- On bytes the boolean view tells whether the integer view is zero. -/
private theorem HasBytes.bool?_of_integer? (h : item.HasBytes bs) (hv : item.integer? = .ok v) :
    item.bool? = .ok (v != 0) := by
  rw [h.integer?_eq] at hv
  rw [h.bool?_eq, any_ne_zero]
  by_cases hle : bs.length ≤ 32
  · rw [integerOfBytes_of_le hle] at hv
    cases hv
    rfl
  · rw [integerOfBytes_of_lt (by omega)] at hv
    cases hv

/-- Bytes, numbers and truth values apart, items have neither of the two views. -/
private theorem view_cases (item : StackItem) :
    (∃ bs, item.HasBytes bs) ∨ (∃ n, item = .integer n) ∨ (∃ b, item = .boolean b) ∨
      (∃ e, item.integer? = .error e) ∧ ∃ e, item.bool? = .error e := by
  cases item with
  | byteString bs => exact .inl ⟨bs, .inl rfl⟩
  | buffer bs => exact .inl ⟨bs, .inr rfl⟩
  | integer n => exact .inr (.inl ⟨n, rfl⟩)
  | boolean b => exact .inr (.inr (.inl ⟨b, rfl⟩))
  | any | pointer | array | struct | map | interop =>
    exact .inr (.inr (.inr ⟨⟨_, rfl⟩, ⟨_, rfl⟩⟩))

/-- An item with an integer view has the boolean view that goes with it, and only byte strings and
buffers of more than thirty-two bytes have a boolean view and no integer view. -/
theorem views_agree (item : StackItem) :
    (∀ v, item.integer? = .ok v → item.bool? = .ok (v != 0)) ∧
    (∀ e, item.bool? = .error e → ∃ e', item.integer? = .error e') ∧
    ((∃ b e, item.bool? = .ok b ∧ item.integer? = .error e) ↔
      ∃ bs, item.HasBytes bs ∧ 32 < bs.length) := by
  rcases item.view_cases with ⟨bs, hbytes⟩ | ⟨n, rfl⟩ | ⟨b, rfl⟩ | ⟨⟨e, hinteger⟩, e', hbool⟩
  · refine ⟨fun v hv => hbytes.bool?_of_integer? hv, fun e he => ?_, ?_, ?_⟩
    · rw [hbytes.bool?_eq] at he
      cases he
    · rintro ⟨b, e, -, he⟩
      refine ⟨bs, hbytes, ?_⟩
      -- Up to thirty-two bytes there is an integer view.
      by_contra hle
      rw [hbytes.integer?_eq, integerOfBytes_of_le (by omega)] at he
      cases he
    · rintro ⟨cs, hcs, hlt⟩
      exact ⟨_, _, hcs.bool?_eq, hcs.integer?_eq.trans (integerOfBytes_of_lt hlt)⟩
  · refine ⟨fun v hv => ?_, nofun, nofun, nofun⟩
    cases hv
    rfl
  · refine ⟨fun v hv => ?_, nofun, nofun, nofun⟩
    cases hv
    cases b <;> rfl
  · refine ⟨fun v hv => ?_, fun _ _ => ⟨e, hinteger⟩, ?_, ?_⟩
    · rw [hinteger] at hv
      cases hv
    · rintro ⟨b, _, hb, -⟩
      rw [hbool] at hb
      cases hb
    · rintro ⟨cs, hcs, -⟩
      rw [hcs.bool?_eq] at hbool
      cases hbool

end ChainGauge.StackItem
