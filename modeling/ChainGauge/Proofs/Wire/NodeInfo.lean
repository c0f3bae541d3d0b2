import ChainGauge.Proofs.Wire.Field
import ChainGauge.Wire.NodeInfo

/-!
# Descriptors that are written are read

What is written of a descriptor is a row of fields, one for each part that has content, and each field
adds its part to the empty descriptor; an attribute is such a row within a field. So the descriptor is
read back (`NodeInfo.decode_encode`), whatever its texts are and however often a key of an attribute
stands in it. The state may be any number of thirty-two bits.
-/

namespace ChainGauge

namespace Wire

variable {α β : Type} {field : FieldReader α} {a : α} {tag : Nat} {name : String}

/-- A field of text sets what its reader makes of the text. -/
private theorem reads_putText (set : String → α) {s : String} (hpos : 0 < tag)
    (htag : tag < 0x20000000)
    (hfield : ∀ layout bs, field a tag layout bs =
      within name (do
        let (s, rest) ← takeText layout bs
        .ok (set s, rest)))
    (h : (Utf8.encode s).length < 0x10000000000000000) :
    Reads field a (putText tag s) (set s) := by
  rw [putText, putBytes_eq]
  -- The reader of the field is known only up to the text that it sets.
  refine reads_of_value hpos htag fun rest => ?_
  rw [hfield, takeText_putDelimited h rest rfl]
  rfl

/-- What is written behind a length is no longer than the field. -/
private theorem length_le_putBytes (tag : Nat) (bs : Bytes) :
    bs.length ≤ (putBytes tag bs).length := by
  rw [putBytes, List.length_append]
  omega

/-- A text is no longer than its field. -/
private theorem length_le_putText (tag : Nat) (s : String) :
    (Utf8.encode s).length ≤ (putText tag s).length :=
  length_le_putBytes tag (Utf8.encode s)

/-- A part is no longer than the whole. -/
private theorem length_le_flatMap (write : β → Bytes) {entries : List β} {x : β}
    (hx : x ∈ entries) :
    (write x).length ≤ (entries.flatMap write).length := by
  obtain ⟨before, after, rfl⟩ := List.append_of_mem hx
  simp only [List.flatMap_append, List.flatMap_cons, List.length_append]
  omega

/-- A part that is left out where it has no content is as long as what is written of it. -/
private theorem length_encode_le_unless (tag : Nat) (s : String) :
    (Utf8.encode s).length ≤ (if s.isEmpty then [] else putText tag s).length := by
  split
  · rename_i hempty
    rw [String.isEmpty_iff.mp hempty]
    exact Nat.le_refl _
  · exact length_le_putText tag s

end Wire

open Wire

namespace NodeAttribute

variable {a : NodeAttribute}

/-- A written attribute is a row of fields that give it. -/
private theorem fields_encode (h : a.encode.length < 0x10000000000000000) :
    Fields readField ⟨"", "", []⟩ a.encode a := by
  obtain ⟨key, value, parents⟩ := a
  simp only [encode, List.length_append] at h
  -- Field by field, from the empty attribute on; an empty text is left out and is what the reader
  -- starts with.
  have hkey : Fields readField ⟨"", "", []⟩ (if key.isEmpty then [] else putText 1 key)
      ⟨key, "", []⟩ := by
    refine fields_unless (fun hempty => by rw [String.isEmpty_iff.mp hempty]) fun _ => ?_
    have hlength := length_encode_le_unless 1 key
    exact reads_putText (fun key => (⟨key, "", []⟩ : NodeAttribute)) (by omega) (by omega)
      (fun _ _ => rfl) (by omega)
  have hvalue : Fields readField ⟨key, "", []⟩ (if value.isEmpty then [] else putText 2 value)
      ⟨key, value, []⟩ := by
    refine fields_unless (fun hempty => by rw [String.isEmpty_iff.mp hempty]) fun _ => ?_
    have hlength := length_encode_le_unless 2 value
    exact reads_putText (fun value => (⟨key, value, []⟩ : NodeAttribute)) (by omega)
      (by omega) (fun _ _ => rfl) (by omega)
  have hparent (done : List String) (parent : String) (hmem : parent ∈ parents) :
      Reads readField ⟨key, value, done⟩ (putText 3 parent) ⟨key, value, done ++ [parent]⟩ := by
    have hlength := length_le_putText 3 parent
    have hfield := length_le_flatMap (putText 3) hmem
    exact reads_putText (fun parent => (⟨key, value, done ++ [parent]⟩ : NodeAttribute))
      (by omega) (by omega) (fun _ _ => rfl) (by omega)
  have hparents := fields_flatMap
    (fun parents => (⟨key, value, parents⟩ : NodeAttribute)) hparent []
  exact (hkey.append hvalue).append hparents

end NodeAttribute

namespace NodeInfo

variable {i : NodeInfo}

/-- The field of the key sets the key. -/
private theorem reads_publicKey {key : Bytes} (h : key.length < 0x10000000000000000) :
    Reads readField i (putBytes 1 key) { i with publicKey := key } := by
  rw [putBytes_eq]
  refine reads_of_value (by omega) (by omega) fun rest => ?_
  simp only [readField, bind, Except.bind, takeBytes_putDelimited h rest]
  rfl

/-- The field of an attribute adds the attribute. -/
private theorem reads_attribute {a : NodeAttribute} (h : a.encode.length < 0x10000000000000000) :
    Reads readField i (putBytes 3 a.encode) { i with attributes := i.attributes ++ [a] } := by
  rw [putBytes_eq]
  refine reads_of_value (by omega) (by omega) fun rest => ?_
  simp only [readField, bind, Except.bind,
    takeMessage_of_fields (NodeAttribute.fields_encode h) h rest]
  rfl

/-- The field of the state sets the state. -/
private theorem reads_state {state : Int} (hlow : -0x80000000 ≤ state)
    (hhigh : state < 0x80000000) :
    Reads readField i (putInt32 4 state) { i with state := state } := by
  refine reads_of_value (by omega) (by omega) fun rest => ?_
  simp only [readField, bind, Except.bind, takeInt32_putVarint hlow hhigh rest]
  rfl

/-- A written descriptor is a row of fields that give it. -/
private theorem fields_encode (h : i.encode.length < 0x10000000000000000)
    (hlow : -0x80000000 ≤ i.state)
    (hhigh : i.state < 0x80000000) : Fields readField ⟨[], [], [], 0⟩ i.encode i := by
  obtain ⟨key, addresses, attributes, state⟩ := i
  -- Every part is no longer than the whole, so a word can tell its length, too.
  simp only [encode, List.length_append] at h
  have hkey : Fields readField ⟨[], [], [], 0⟩ (if key.isEmpty then [] else putBytes 1 key)
      ⟨key, [], [], 0⟩ := by
    refine fields_unless (fun hempty => by rw [List.isEmpty_iff.mp hempty]) fun hcontent => ?_
    have hlength := length_le_putBytes 1 key
    rw [if_neg hcontent] at h
    exact reads_publicKey (i := ⟨[], [], [], 0⟩) (by omega)
  have haddress (done : List String) (address : String) (hmem : address ∈ addresses) :
      Reads readField ⟨key, done, [], 0⟩ (putText 2 address) ⟨key, done ++ [address], [], 0⟩ := by
    have hlength := length_le_putText 2 address
    have hfield := length_le_flatMap (putText 2) hmem
    exact reads_putText (fun address => (⟨key, done ++ [address], [], 0⟩ : NodeInfo))
      (by omega) (by omega) (fun _ _ => rfl) (by omega)
  have hattribute (done : List NodeAttribute) (a : NodeAttribute) (hmem : a ∈ attributes) :
      Reads readField ⟨key, addresses, done, 0⟩ (putBytes 3 a.encode)
        ⟨key, addresses, done ++ [a], 0⟩ := by
    have hlength := length_le_putBytes 3 a.encode
    have hfield := length_le_flatMap (fun a => putBytes 3 (NodeAttribute.encode a)) hmem
    exact reads_attribute (i := ⟨key, addresses, done, 0⟩) (by omega)
  have hstate : Fields readField ⟨key, addresses, attributes, 0⟩
      (if state = 0 then [] else putInt32 4 state) ⟨key, addresses, attributes, state⟩ :=
    fields_unless (fun hzero => by rw [hzero]) fun _ => reads_state hlow hhigh
  have haddresses := fields_flatMap
    (fun addresses => (⟨key, addresses, [], 0⟩ : NodeInfo)) haddress []
  have hattributes := fields_flatMap
    (fun attributes => (⟨key, addresses, attributes, 0⟩ : NodeInfo)) hattribute []
  exact ((hkey.append haddresses).append hattributes).append hstate

/-- What is written is read back. -/
theorem decode_encode (h : i.encode.length < 0x10000000000000000) (hlow : -0x80000000 ≤ i.state)
    (hhigh : i.state < 0x80000000) : decode i.encode = .ok i :=
  readMessage_of_fields (fields_encode h hlow hhigh)

end NodeInfo

end ChainGauge
