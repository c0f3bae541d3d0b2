import ChainGauge.Proofs.Text.Utf8
import ChainGauge.Wire.Field

/-!
# Fields that are written are read

Each part of a field is read back from what is written of it, whatever follows: a varint, a key, bytes
and text behind their length, a whole number. A message is then a row of fields, each of which changes
the message that is read so far (`Wire.Fields`), and reading the row makes all of these changes
(`Wire.readFields_of_fields`). The reader's fuel is the number of bytes, and every field has at least
one, so it never runs out.

A varint has sixty-four bits. That is the only bound: on a length, or on a number.

## Key results

- `Wire.takeVarint_putVarint`, `Wire.takeKey_putKey`, `Wire.takeInt32_putVarint`: the parts of a field
- `Wire.Fields`: bytes that are a row of fields
- `Wire.readMessage_of_fields`, `Wire.takeMessage_of_fields`: messages, also nested ones
-/

namespace ChainGauge.Wire

/-! ## Varints -/

/-- Seven bits take one byte. -/
private theorem putVarint_of_lt {n : Nat} (h : n < 128) : putVarint n = [UInt8.ofNat n] := by
  rw [putVarint, if_pos h]

/-- More bits take a byte with the mark, and those behind it. -/
private theorem putVarint_of_le {n : Nat} (h : 128 ≤ n) :
    putVarint n = UInt8.ofNat (n % 128 + 128) :: putVarint (n / 128) := by
  rw [putVarint, if_neg (by omega)]

/-- From place `i` on there is room for one bit and seven more for each place up to the tenth. -/
private theorem takeVarintFrom_putVarint {i k n : Nat} (hi : i + k = 9) (hn : n < 2 * Nat.pow 128 k)
    (rest : Bytes) : takeVarintFrom i (putVarint n ++ rest) = some (n, rest) := by
  induction k generalizing i n with
  | zero =>
    -- The tenth place has room for one bit, so the number fits it without another place.
    have hone : n < 2 := hn
    have hb : (UInt8.ofNat n).toNat = n := Utf8.toNat_ofNat_of_lt (by omega)
    rw [putVarint_of_lt (by omega), List.singleton_append, takeVarintFrom]
    simp only [UInt8.le_iff_toNat_le, UInt8.lt_iff_toNat_lt, UInt8.reduceToNat, hb]
    rw [if_neg (by omega), if_pos (by omega)]
  | succ k ih =>
    by_cases hsmall : n < 128
    · have hb : (UInt8.ofNat n).toNat = n := Utf8.toNat_ofNat_of_lt (by omega)
      rw [putVarint_of_lt hsmall, List.singleton_append, takeVarintFrom]
      simp only [UInt8.le_iff_toNat_le, UInt8.lt_iff_toNat_lt, UInt8.reduceToNat, hb]
      rw [if_neg (by omega), if_pos hsmall]
    · have hb : (UInt8.ofNat (n % 128 + 128)).toNat = n % 128 + 128 :=
        Utf8.toNat_ofNat_of_lt (by omega)
      have hpow : Nat.pow 128 (k + 1) = Nat.pow 128 k * 128 := rfl
      have hrest : n / 128 < 2 * Nat.pow 128 k := by omega
      rw [putVarint_of_le (by omega), List.cons_append, takeVarintFrom]
      simp only [UInt8.le_iff_toNat_le, UInt8.lt_iff_toNat_lt, UInt8.reduceToNat, hb]
      rw [if_neg (by omega), if_neg (by omega), ih (by omega) hrest, Option.map_some]
      have hvalue : n % 128 + 128 - 128 + 128 * (n / 128) = n := by omega
      rw [hvalue]

/-- A varint is read back, whatever follows. -/
theorem takeVarint_putVarint {n : Nat} (h : n < 0x10000000000000000) (rest : Bytes) :
    takeVarint (putVarint n ++ rest) = .ok (n, rest) := by
  have hpow : 2 * Nat.pow 128 9 = 0x10000000000000000 := rfl
  rw [takeVarint, takeVarintFrom_putVarint (k := 9) rfl (by omega)]

/-! ## The parts of a field -/

/-- So is the key of a field. -/
theorem takeKey_putKey {tag : Nat} (layout : Layout) (hpos : 0 < tag) (htag : tag < 0x20000000)
    (rest : Bytes) : takeKey (putKey tag layout ++ rest) = .ok (tag, layout, rest) := by
  have hnumber : layout.number < 8 := by cases layout <;> decide
  have hlayout : Layout.ofNumber? layout.number = some layout := by cases layout <;> rfl
  have hmod : (8 * tag + layout.number) % 8 = layout.number := by omega
  have hdiv : (8 * tag + layout.number) / 8 = tag := by omega
  simp only [takeKey, putKey, takeVarint_putVarint (n := 8 * tag + layout.number) (by omega), hmod,
    hdiv, hlayout]
  rw [if_neg (by omega), if_neg (by omega)]

/-- Bytes behind their length. -/
def putDelimited (bs : Bytes) : Bytes :=
  putVarint bs.length ++ bs

/-- A field of bytes is its key and the bytes behind their length. -/
theorem putBytes_eq (tag : Nat) (bs : Bytes) :
    putBytes tag bs = putKey tag .delimited ++ putDelimited bs := by
  rw [putBytes, putDelimited, List.append_assoc]

section Delimited

variable {bs : Bytes} (h : bs.length < 0x10000000000000000) (rest : Bytes)
include h

/-- Bytes behind their length are read back. -/
theorem takeBytes_putDelimited :
    takeBytes .delimited (putDelimited bs ++ rest) = .ok (bs, rest) := by
  rw [putDelimited, List.append_assoc]
  simp only [takeBytes, expect, ↓reduceIte, bind, Except.bind, takeVarint_putVarint h, takeExact,
    List.length_append, List.take_left', List.drop_left']
  rw [if_neg (by omega)]

/-- So is text. -/
theorem takeText_putDelimited {s : String} (hs : Utf8.encode s = bs) :
    takeText .delimited (putDelimited bs ++ rest) = .ok (s, rest) := by
  subst hs
  simp only [takeText, bind, Except.bind, takeBytes_putDelimited h, Utf8.decode_encode]

end Delimited

/-- A negative number is written with all sixty-four bits, of which thirty-two are read. -/
theorem takeInt32_putVarint {n : Int} (hlow : -0x80000000 ≤ n) (hhigh : n < 0x80000000)
    (rest : Bytes) :
    takeInt32 .varint (putVarint (n % 0x10000000000000000).toNat ++ rest) = .ok (n, rest) := by
  have hfit : (n % 0x10000000000000000).toNat < 0x10000000000000000 := by omega
  simp only [takeInt32, expect, ↓reduceIte, bind, Except.bind, takeVarint_putVarint hfit]
  -- A negative number is written with all sixty-four bits and read from the lower half of them.
  by_cases hneg : n < 0
  · have hbits : (n % 0x10000000000000000).toNat % 0x100000000 = (n + 0x100000000).toNat := by omega
    have hvalue : ((n + 0x100000000).toNat : Int) - 0x100000000 = n := by omega
    rw [hbits, if_neg (by omega), hvalue]
  · have hbits : (n % 0x10000000000000000).toNat % 0x100000000 = n.toNat := by omega
    have hvalue : (n.toNat : Int) = n := by omega
    rw [hbits, if_pos (by omega), hvalue]

/-! ## Rows of fields -/

/-- Bytes are one field, which turns a message into another, whatever follows them. -/
def Reads {α : Type} (field : FieldReader α) (a : α) (bs : Bytes) (b : α) : Prop :=
  ∀ rest, ∃ tag layout value,
    takeKey (bs ++ rest) = .ok (tag, layout, value) ∧ field a tag layout value = .ok (b, rest)

/-- Bytes are a row of fields, which turn a message into another. -/
inductive Fields {α : Type} (field : FieldReader α) : α → Bytes → α → Prop where
  | nil (a : α) : Fields field a [] a
  | cons {a b c : α} {bs more : Bytes} :
    Reads field a bs b → Fields field b more c → Fields field a (bs ++ more) c

section Rows

variable {α β : Type} {field : FieldReader α} {a b c : α} {bs more value : Bytes} {tag : Nat}
  {layout : Layout}

/-- A field is read if its value is read behind the key. -/
theorem reads_of_value (hpos : 0 < tag) (htag : tag < 0x20000000)
    (h : ∀ rest, field a tag layout (value ++ rest) = .ok (b, rest)) :
    Reads field a (putKey tag layout ++ value) b := by
  intro rest
  refine ⟨tag, layout, value ++ rest, ?_, h rest⟩
  rw [List.append_assoc, takeKey_putKey layout hpos htag]

/-- A field has at least one byte. -/
theorem Reads.length_pos (h : Reads field a bs b) : 0 < bs.length := by
  refine List.length_pos_iff.mpr fun hnil => ?_
  subst hnil
  obtain ⟨tag, layout, value, hkey, -⟩ := h []
  cases hkey

/-- One field is a row of fields. -/
theorem Reads.fields (h : Reads field a bs b) : Fields field a bs b := by
  have hone := Fields.cons h (.nil b)
  rwa [List.append_nil] at hone

/-- Rows in turn are a row. -/
theorem Fields.append (h : Fields field a bs b) (h' : Fields field b more c) :
    Fields field a (bs ++ more) c := by
  induction h with
  | nil => exact h'
  | cons hread _ ih =>
    rw [List.append_assoc]
    exact .cons hread (ih h')

/-- A field without content is not written, and changes nothing. -/
theorem fields_unless {p : Prop} [Decidable p] (hp : p → a = b) (h : ¬ p → Reads field a bs b) :
    Fields field a (if p then [] else bs) b := by
  split
  · rename_i hempty
    rw [hp hempty]
    exact .nil b
  · rename_i hcontent
    exact (h hcontent).fields

/-- A repeated field adds its entries in turn. -/
theorem fields_flatMap (put : List β → α) {write : β → Bytes} {entries : List β}
    (h : ∀ done, ∀ x ∈ entries, Reads field (put done) (write x) (put (done ++ [x])))
    (done : List β) : Fields field (put done) (entries.flatMap write) (put (done ++ entries)) := by
  induction entries generalizing done with
  | nil =>
    rw [List.append_nil]
    exact .nil _
  | cons x entries ih =>
    obtain ⟨hx, hentries⟩ : Reads field (put done) (write x) (put (done ++ [x])) ∧
        ∀ done, ∀ y ∈ entries, Reads field (put done) (write y) (put (done ++ [y])) :=
      ⟨h done x List.mem_cons_self, fun done y hy => h done y (List.mem_cons_of_mem x hy)⟩
    -- What has been read so far is an argument of the message, so it grows from entry to entry.
    have hrest := ih hentries (done ++ [x])
    rw [List.append_assoc, List.singleton_append] at hrest
    exact .cons hx hrest

/-- Reading a row makes all of its changes and stops behind it. -/
theorem readFields_of_fields (h : Fields field a bs b) {fuel : Nat} (hfuel : bs.length ≤ fuel)
    (rest : Bytes) : readFields field rest.length fuel a (bs ++ rest) = .ok (b, rest) := by
  -- Along the row every field uses up a byte, so the fuel never ends before the row does.
  induction h generalizing fuel with
  | nil a =>
    cases fuel with
    | zero => rfl
    | succ fuel => rw [readFields, List.nil_append, if_pos (Nat.le_refl _)]
  | cons hread _ ih =>
    rename_i bs more _
    have hpos := hread.length_pos
    rw [List.length_append] at hfuel
    cases fuel with
    | zero => omega
    | succ fuel =>
      obtain ⟨tag, layout, value, hkey, hfield⟩ := hread (more ++ rest)
      rw [readFields, if_neg (by simp only [List.length_append]; omega), List.append_assoc]
      simp only [bind, Except.bind, hkey, hfield]
      exact ih (by omega)

/-- A message is read as the row of its fields. -/
theorem readMessage_of_fields (h : Fields field a bs b) : readMessage field a bs = .ok b := by
  have hread := readFields_of_fields h (Nat.le_refl _) []
  rw [List.append_nil, List.length_nil] at hread
  rw [readMessage, hread]
  rfl

/-- A nested message is read from behind its length, and it ends where its length says. -/
theorem takeMessage_of_fields (h : Fields field a bs b) (hlength : bs.length < 0x10000000000000000)
    (rest : Bytes) :
    takeMessage field a .delimited (putDelimited bs ++ rest) = .ok (b, rest) := by
  have hlimit : (bs ++ rest).length - bs.length = rest.length := by
    rw [List.length_append]
    omega
  -- Every field takes a byte at least, so the length is fuel enough.
  have hfuel : bs.length ≤ (bs ++ rest).length := by
    rw [List.length_append]
    omega
  have hread := readFields_of_fields h hfuel rest
  have hfits : ¬ (bs ++ rest).length < bs.length := by
    rw [List.length_append]
    omega
  rw [putDelimited, List.append_assoc]
  simp only [takeMessage, expect, ↓reduceIte, bind, Except.bind, takeVarint_putVarint hlength, hfits,
    hlimit, hread]

end Rows

end ChainGauge.Wire
