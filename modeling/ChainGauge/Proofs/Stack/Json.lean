import ChainGauge.Proofs.Except
import ChainGauge.Proofs.Json.Record
import ChainGauge.Proofs.Number.Int256
import ChainGauge.Proofs.Text.Base64
import ChainGauge.Stack.Json

/-!
# Stack items in their written form

Reading an item takes its fields apart and then reads the items inside of its value (`ofJson_eq`; how
deep they nest does not matter). The written form of an item (`Spells`) leaves the order of members
and other members of other names open. Every such form of an item in range is read as the item, and
where an item inside of a form is put in place that does not read, nothing does (`reads_written`).
-/

namespace ChainGauge.StackItem

open Json (IsRecord)

variable {read read' : Json.Reader StackItem} {w : Written} {j : Json}

/-! ## Reading without a bound -/

/-- Readers that agree on what nests less deep read an array alike. -/
private theorem readArray_congr {α : Type} {read read' : Json.Reader α}
    (h : ∀ v : Json, v.depth < j.depth → read v = read' v) :
    Json.readArray read j = Json.readArray read' j := by
  cases j with
  | array items => exact Json.readEach_congr fun v hv => h v (Json.depth_lt_of_mem_array hv)
  | _ => rfl

/-- A field that is found nests less deep than its record. -/
private theorem required_congr {α : Type} {read read' : Json.Reader α}
    {checks : List Json.FieldCheck}
    {fs : List (String × Json) × Bool} (hfs : j.fields checks = .ok fs)
    (h : ∀ v : Json, v.depth < j.depth → read v = read' v) (name : String) :
    Json.required name read fs = Json.required name read' fs := by
  rw [Json.required, Json.required]
  cases hlookup : fs.1.lookup name with
  | none => rfl
  | some v => exact h v (Json.depth_lt_of_fields hfs (Json.mem_of_lookup hlookup))

/-- An entry is read alike by readers that agree on what nests less deep. -/
private theorem entryOfJson_congr (h : ∀ v : Json, v.depth < j.depth → read v = read' v) :
    entryOfJson read j = entryOfJson read' j := by
  have hagree (name : String) : Json.FieldCheck.Agree j.depth (.ofReader name read)
      (.ofReader name read') :=
    ⟨rfl, fun v hv => by simp only [Json.FieldCheck.ofReader, h v hv]⟩
  -- The checks of the record look below `j` only, where the two readers agree.
  have hfields : j.fields (entryChecks read) = j.fields (entryChecks read') :=
    Json.fields_congr (.cons (hagree "key") (.cons (hagree "value") .nil))
  rw [entryOfJson, entryOfJson, ← hfields]
  cases hfs : j.fields (entryChecks read) with
  | error e => rfl
  | ok fs =>
    simp only [bind, Except.bind, required_congr hfs h]

/-- They give written fields the same item. -/
private theorem Written.item_congr (h : ∀ v : Json, v.depth < w.value.depth → read v = read' v) :
    w.item read = w.item read' := by
  have hitems := readArray_congr h
  have hentries : Json.readArray (entryOfJson read) w.value =
      Json.readArray (entryOfJson read') w.value :=
    readArray_congr fun v hv => entryOfJson_congr fun u hu => h u (Nat.lt_trans hu hv)
  rw [Written.item, Written.item, hitems, hentries]

/-- The value of an item nests less deep than the item. -/
private theorem Written.depth_lt (h : Written.ofJson j = .ok w) : w.value.depth < j.depth := by
  rw [Written.ofJson] at h
  obtain ⟨fs, hfs, h⟩ := Except.bind_eq_ok_iff.mp h
  obtain ⟨type, htype, h⟩ := Except.bind_eq_ok_iff.mp h
  obtain ⟨value, hvalue, h⟩ := Except.bind_eq_ok_iff.mp h
  obtain ⟨id, hid, h⟩ := Except.bind_eq_ok_iff.mp h
  cases h
  rw [Json.optional] at hvalue
  cases hlookup : fs.1.lookup "value" with
  | some v =>
    rw [hlookup] at hvalue
    cases hvalue
    exact Json.depth_lt_of_fields hfs (Json.mem_of_lookup hlookup)
  -- Without a value there is still a type.
  | none =>
    rw [hlookup] at hvalue
    cases hvalue
    rw [Json.required] at htype
    cases htypes : fs.1.lookup "type" with
    | none =>
      rw [htypes] at htype
      cases htype
    | some v =>
      exact Nat.lt_of_le_of_lt (Nat.zero_le _)
        (Json.depth_lt_of_fields hfs (Json.mem_of_lookup htypes))

/-- How deep an item may nest does not matter as long as it is deep enough. -/
private theorem ofJsonWithin_congr {m n : Nat} (hm : j.depth < m) (hn : j.depth < n) :
    ofJsonWithin m j = ofJsonWithin n j := by
  -- What is inside of an item nests less deep, so one level less is enough for it.
  induction m generalizing n j with
  | zero => omega
  | succ m ih =>
    obtain _ | n := n
    · omega
    · rw [ofJsonWithin, ofJsonWithin]
      cases hw : Written.ofJson j with
      | error e => rfl
      | ok w =>
        have hdepth := Written.depth_lt hw
        exact Written.item_congr fun v hv => ih (by omega) (by omega)

/-- An item is read by reading the items inside of it. -/
theorem ofJson_eq (j : Json) : ofJson j = (Written.ofJson j).bind (Written.item ofJson) := by
  rw [ofJson, ofJsonWithin]
  cases hw : Written.ofJson j with
  | error e => rfl
  | ok w =>
    have hdepth := Written.depth_lt hw
    exact Written.item_congr fun v hv => ofJsonWithin_congr (by omega) (by omega)

/-! ## Written forms -/

/-- The integers and addresses that the machine and the program have. -/
inductive InRange : StackItem → Prop
  | any : InRange .any
  | pointer {address : Int} (h : -0x8000000000000000 ≤ address ∧ address < 0x8000000000000000) :
      InRange (.pointer address)
  | boolean {b : Bool} : InRange (.boolean b)
  | integer {n : Int} (h : Int256.InRange n) : InRange (.integer n)
  | byteString {bs : Bytes} : InRange (.byteString bs)
  | buffer {bs : Bytes} : InRange (.buffer bs)
  | array {items : List StackItem} (h : ∀ x ∈ items, InRange x) : InRange (.array items)
  | struct {items : List StackItem} (h : ∀ x ∈ items, InRange x) : InRange (.struct items)
  | map {entries : List (StackItem × StackItem)} (hkeys : ∀ e ∈ entries, InRange e.1)
      (hvalues : ∀ e ∈ entries, InRange e.2) : InRange (.map entries)
  | interop {id : Option String} : InRange (.interop id)

/-- A value is a record with a type and perhaps a value and an `id`, and no other member of these
names. -/
def IsWritten (type : String) (value : Option Json) (id : Option String) (j : Json) : Prop :=
  IsRecord ["type", "value", "id"] (("type", .string type) :: (value.map ("value", ·)).toList ++
    (id.map fun s => ("id", .string s)).toList) j

/-- A value is a record of a key and a value, each once. -/
def IsEntry (key value : Json) (j : Json) : Prop :=
  IsRecord ["key", "value"] [("key", key), ("value", value)] j

mutual
/-- A value has the form in which an item is sent: integers as decimal text, bytes in base 64, lists as
arrays, maps as arrays of entries. -/
inductive Spells : StackItem → Json → Prop
  | any {j : Json} (h : IsWritten "Any" none none j) : Spells .any j
  | pointer {n : Int} {j : Json} (h : IsWritten "Pointer" (some (.int n)) none j) :
      Spells (.pointer n) j
  | boolean {b : Bool} {j : Json} (h : IsWritten "Boolean" (some (.bool b)) none j) :
      Spells (.boolean b) j
  | integer {n : Int} {j : Json} (h : IsWritten "Integer" (some (.string (toString n))) none j) :
      Spells (.integer n) j
  | byteString {bs : Bytes} {j : Json}
      (h : IsWritten "ByteString" (some (.string (Base64.encode bs))) none j) :
      Spells (.byteString bs) j
  | buffer {bs : Bytes} {j : Json}
      (h : IsWritten "Buffer" (some (.string (Base64.encode bs))) none j) : Spells (.buffer bs) j
  | array {items : List StackItem} {js : List Json} {j : Json} (hitems : SpellsEach items js)
      (h : IsWritten "Array" (some (.array js)) none j) : Spells (.array items) j
  | struct {items : List StackItem} {js : List Json} {j : Json} (hitems : SpellsEach items js)
      (h : IsWritten "Struct" (some (.array js)) none j) : Spells (.struct items) j
  | map {entries : List (StackItem × StackItem)} {js : List Json} {j : Json}
      (hentries : SpellsEntries entries js) (h : IsWritten "Map" (some (.array js)) none j) :
      Spells (.map entries) j
  | interop {id : Option String} {j : Json} (h : IsWritten "InteropInterface" none id j) :
      Spells (.interop id) j

/-- Values have the forms of items, one by one. -/
inductive SpellsEach : List StackItem → List Json → Prop
  | nil : SpellsEach [] []
  | cons {x : StackItem} {items : List StackItem} {j : Json} {js : List Json} (hx : Spells x j)
      (hitems : SpellsEach items js) : SpellsEach (x :: items) (j :: js)

/-- Values are records of the keys and values of a map, one by one. -/
inductive SpellsEntries : List (StackItem × StackItem) → List Json → Prop
  | nil : SpellsEntries [] []
  | cons {key value : StackItem} {entries : List (StackItem × StackItem)} {jkey jvalue j : Json}
      {js : List Json} (hkey : Spells key jkey) (hvalue : Spells value jvalue)
      (h : IsEntry jkey jvalue j) (hentries : SpellsEntries entries js) :
      SpellsEntries ((key, value) :: entries) (j :: js)
end

/-! ## Forms are read -/

/-- The fields of an item have names of their own. -/
private theorem nodup_written (type : String) (value : Option Json) (id : Option String) :
    ((("type", Json.string type) :: (value.map ("value", ·)).toList ++
      (id.map fun s => ("id", Json.string s)).toList).map (·.1)).Nodup := by
  cases value <;> cases id <;> simp

/-- The fields of a form are read as they are written. -/
private theorem Written.ofJson_of_isWritten {type : String} {value : Option Json}
    {id : Option String}
    (h : IsWritten type value id j) : Written.ofJson j = .ok ⟨type, value.getD .null, id⟩ := by
  obtain ⟨all, hfields, hlookup⟩ := Json.fields_of_isRecord checks h (nodup_written ..) (by
    cases value <;> cases id <;> simp [checks, Json.FieldCheck.ofReader, Json.readString,
      Json.readString?, readValue, Except.map])
  have htype := hlookup "type" (by simp [checks, Json.FieldCheck.ofReader])
  have hvalue := hlookup "value" (by simp [checks, Json.FieldCheck.ofReader])
  have hid := hlookup "id" (by simp [checks, Json.FieldCheck.ofReader])
  rw [Written.ofJson, hfields]
  -- The three names are told apart, so each lookup finds its own member.
  simp only [bind, Except.bind, Json.required, Json.optional, htype, hvalue, hid]
  cases value <;> cases id <;>
    simp [List.lookup_cons, readValue, Json.readString, Json.readString?]

/-- An entry is read from the forms of its items. -/
private theorem entryOfJson_of_isEntry {key value : StackItem} {jkey jvalue : Json}
    (h : IsEntry jkey jvalue j) (hkey : read jkey = .ok key) (hvalue : read jvalue = .ok value) :
    entryOfJson read j = .ok (key, value) := by
  obtain ⟨all, hfields, hlookup⟩ := Json.fields_of_isRecord (entryChecks read) h (by simp)
    (by simp [entryChecks, Json.FieldCheck.ofReader, hkey, hvalue, Except.map])
  have hkeys := hlookup "key" (by simp [entryChecks, Json.FieldCheck.ofReader])
  have hvalues := hlookup "value" (by simp [entryChecks, Json.FieldCheck.ofReader])
  rw [entryOfJson, hfields]
  simp [bind, Except.bind, Json.required, hkeys, hvalues, List.lookup_cons, hkey, hvalue]

/-- A form is read as the item that its fields stand for. -/
private theorem ofJson_of_isWritten {type : String} {value : Option Json} {id : Option String}
    (h : IsWritten type value id j) :
    ofJson j = Written.item ofJson ⟨type, value.getD .null, id⟩ := by
  rw [ofJson_eq, Written.ofJson_of_isWritten h, Except.bind]

mutual
/-- The form of an item in range is read as the item. -/
theorem ofJson_of_spells {x : StackItem} {j : Json} (h : Spells x j) (hx : x.InRange) :
    ofJson j = .ok x := by
  -- By recursion on the item, through the lists and maps in it.
  match h, hx with
  | .any h, _ => exact ofJson_of_isWritten h
  | .pointer h, .pointer hn =>
    rw [ofJson_of_isWritten h]
    simp [Written.item, Json.asInt64?, Json.asInt?, Json.int, hn.2]
  | .boolean h, _ => exact ofJson_of_isWritten h
  | .integer h, .integer hn =>
    rw [ofJson_of_isWritten h]
    simp only [Written.item, Option.getD_some, integerOfJson, Int256.ofDecimal_toString hn]
    rfl
  | .byteString h, _ =>
    rw [ofJson_of_isWritten h]
    simp [Written.item, bytesOfJson, Base64.decode_encode, Except.mapError, Except.map]
  | .buffer h, _ =>
    rw [ofJson_of_isWritten h]
    simp [Written.item, bytesOfJson, Base64.decode_encode, Except.mapError, Except.map]
  | .array hitems h, .array hrange =>
    rw [ofJson_of_isWritten h]
    simp [Written.item, Json.readArray, readEach_of_spells hitems hrange, Except.mapError,
      Except.map]
  | .struct hitems h, .struct hrange =>
    rw [ofJson_of_isWritten h]
    simp [Written.item, Json.readArray, readEach_of_spells hitems hrange, Except.mapError,
      Except.map]
  | .map hentries h, .map hkeys hvalues =>
    rw [ofJson_of_isWritten h]
    simp [Written.item, Json.readArray, readEach_of_spellsEntries hentries hkeys hvalues,
      Except.mapError, Except.map]
  | .interop h, _ => exact ofJson_of_isWritten h

/-- Items that are spelled are read one by one. -/
private theorem readEach_of_spells {items : List StackItem} {js : List Json}
    (h : SpellsEach items js)
    (hitems : ∀ x ∈ items, x.InRange) : Json.readEach ofJson js = .ok items := by
  match h with
  | .nil => rfl
  | .cons hx hrest =>
    obtain ⟨hr, hrs⟩ := List.forall_mem_cons.mp hitems
    rw [Json.readEach, ofJson_of_spells hx hr, readEach_of_spells hrest hrs]

/-- So are entries. -/
private theorem readEach_of_spellsEntries {entries : List (StackItem × StackItem)} {js : List Json}
    (h : SpellsEntries entries js) (hkeys : ∀ e ∈ entries, e.1.InRange)
    (hvalues : ∀ e ∈ entries, e.2.InRange) :
    Json.readEach (entryOfJson ofJson) js = .ok entries := by
  -- By recursion on the entries, together with the items in them.
  match h with
  | .nil => rfl
  | .cons hkey hvalue hentry hrest =>
    obtain ⟨hk, hks⟩ := List.forall_mem_cons.mp hkeys
    obtain ⟨hv, hvs⟩ := List.forall_mem_cons.mp hvalues
    rw [Json.readEach, entryOfJson_of_isEntry hentry (ofJson_of_spells hkey hk)
      (ofJson_of_spells hvalue hv), readEach_of_spellsEntries hrest hks hvs]
end

/-! ## Members given again

Inside of an item that is read out of a text, of members of one name the last stays. The members of a
form that count are there once, so the form stays one. -/

/-- The canonical form of the fields. -/
private theorem map_canonicalMember_written (type : String) (value : Option Json)
    (id : Option String) :
    (("type", Json.string type) :: (value.map ("value", ·)).toList ++
      (id.map fun s => ("id", Json.string s)).toList).map Json.canonicalMember =
    ("type", Json.string type) :: ((value.map Json.canonical).map ("value", ·)).toList ++
      (id.map fun s => ("id", Json.string s)).toList := by
  cases value <;> cases id <;> simp [Json.canonicalMember, Json.canonical]

/-- The canonical form of written fields is written. -/
private theorem isWritten_canonical {type : String} {value : Option Json} {id : Option String}
    (h : IsWritten type value id j) : IsWritten type (value.map Json.canonical) id j.canonical := by
  rw [IsWritten, ← map_canonicalMember_written]
  exact Json.isRecord_canonical h (nodup_written ..)

/-- So is what is left when their duplicates are settled. -/
private theorem isWritten_settled {type : String} {value : Option Json} {id : Option String}
    (h : IsWritten type value id j) : IsWritten type (value.map Json.canonical) id j.settled := by
  rw [IsWritten, ← map_canonicalMember_written]
  exact Json.isRecord_settled h

mutual
/-- A value with the fields of a form, in canonical form, is a form of the same item. -/
private theorem spells_of_fields {x : StackItem} {j j' : Json} (h : Spells x j)
    (hfields : ∀ {type value id}, IsWritten type value id j →
      IsWritten type (value.map Json.canonical) id j') : Spells x j' := by
  match h with
  | .any h => exact .any (hfields h)
  | .pointer h => exact .pointer (hfields h)
  | .boolean h => exact .boolean (hfields h)
  | .integer h => exact .integer (hfields h)
  | .byteString h => exact .byteString (hfields h)
  | .buffer h => exact .buffer (hfields h)
  | .array hitems h => exact .array (spellsEach_canonical hitems) (hfields h)
  | .struct hitems h => exact .struct (spellsEach_canonical hitems) (hfields h)
  | .map hentries h => exact .map (spellsEntries_canonical hentries) (hfields h)
  | .interop h => exact .interop (hfields h)

/-- The canonical form spells the same items. -/
private theorem spellsEach_canonical {items : List StackItem} {js : List Json}
    (h : SpellsEach items js) :
    SpellsEach items (Json.canonicalItems js) := by
  match h with
  | .nil => exact .nil
  | .cons hx hrest =>
    exact .cons (spells_of_fields hx isWritten_canonical) (spellsEach_canonical hrest)

/-- It spells the same entries. -/
private theorem spellsEntries_canonical {entries : List (StackItem × StackItem)} {js : List Json}
    (h : SpellsEntries entries js) : SpellsEntries entries (Json.canonicalItems js) := by
  match h with
  | .nil => exact .nil
  | .cons hkey hvalue hentry hrest =>
    exact .cons (spells_of_fields hkey isWritten_canonical)
      (spells_of_fields hvalue isWritten_canonical) (Json.isRecord_canonical hentry (by simp))
      (spellsEntries_canonical hrest)
end

/-- Settled duplicates do not change the item. -/
private theorem spells_settled {x : StackItem} (h : Spells x j) : Spells x j.settled :=
  spells_of_fields h isWritten_settled

/-! ## What is sent is a form -/

/-- A record of one item is written. -/
private theorem isWritten_record (type : String) (value : Json) :
    IsWritten type (some value) none (record type value) :=
  ⟨_, rfl, .refl _⟩

mutual
/-- What is written of an item spells it. -/
theorem spells_toJson (x : StackItem) : Spells x x.toJson := by
  match x with
  | .any => exact .any ⟨_, rfl, .refl _⟩
  | .pointer n => exact .pointer (isWritten_record ..)
  | .boolean b => exact .boolean (isWritten_record ..)
  | .integer n => exact .integer (isWritten_record ..)
  | .byteString bs => exact .byteString (isWritten_record ..)
  | .buffer bs => exact .buffer (isWritten_record ..)
  | .array items => exact .array (spellsEach_itemsToJson items) (isWritten_record ..)
  | .struct items => exact .struct (spellsEach_itemsToJson items) (isWritten_record ..)
  | .map entries => exact .map (spellsEntries_entriesToJson entries) (isWritten_record ..)
  | .interop none => exact .interop ⟨_, rfl, .refl _⟩
  | .interop (some id) => exact .interop ⟨_, rfl, .refl _⟩

/-- So it does for every item of a list. -/
private theorem spellsEach_itemsToJson (items : List StackItem) :
    SpellsEach items (itemsToJson items) := by
  match items with
  | [] => exact .nil
  | x :: items => exact .cons (spells_toJson x) (spellsEach_itemsToJson items)

/-- So it does for every entry of a map. -/
private theorem spellsEntries_entriesToJson (entries : List (StackItem × StackItem)) :
    SpellsEntries entries (entriesToJson entries) := by
  match entries with
  | [] => exact .nil
  | (key, value) :: entries =>
    exact .cons (spells_toJson key) (spells_toJson value) ⟨_, rfl, .refl _⟩
      (spellsEntries_entriesToJson entries)
end

/-! ## Items in place of others -/

/-- A value is another one in which an item, at some place, gave way to a given value: the item itself,
an item of a list inside of it, or a key or value of a map inside of it. -/
inductive Replaced (bad : Json) : Json → Json → Prop
  | self (j : Json) : Replaced bad j bad
  | item {type : String} {front back : List (String × Json)} {before after : List Json}
      {j j' : Json} (hlist : type = "Array" ∨ type = "Struct")
      (htype : ("type", .string type) ∈ front ++ back) (h : Replaced bad j j') :
      Replaced bad (.object (front ++ ("value", .array (before ++ j :: after)) :: back))
        (.object (front ++ ("value", .array (before ++ j' :: after)) :: back))
  | entry {name : String} {front back head tail : List (String × Json)}
      {before after : List Json} {j j' : Json} (hname : name = "key" ∨ name = "value")
      (htype : ("type", .string "Map") ∈ front ++ back) (h : Replaced bad j j') :
      Replaced bad
        (.object (front ++
          ("value", .array (before ++ .object (head ++ (name, j) :: tail) :: after)) :: back))
        (.object (front ++
          ("value", .array (before ++ .object (head ++ (name, j') :: tail) :: after)) :: back))

/-- What reads as an item has fields, which are found where they are written. -/
private theorem exists_written {ms : List (String × Json)} {type : String} {value : Json}
    {x : StackItem}
    (h : ofJson (.object ms) = .ok x) (htype : ("type", .string type) ∈ ms)
    (hvalue : ("value", value) ∈ ms) : ∃ id, Written.item ofJson ⟨type, value, id⟩ = .ok x := by
  rw [ofJson_eq] at h
  obtain ⟨w, hw, hitem⟩ := Except.bind_eq_ok_iff.mp h
  rw [Written.ofJson] at hw
  obtain ⟨fs, hfs, hw⟩ := Except.bind_eq_ok_iff.mp hw
  have htypes := Json.lookup_of_fields hfs
    (by simp [Written.checks, Json.FieldCheck.ofReader]) htype
  have hvalues := Json.lookup_of_fields hfs
    (by simp [Written.checks, Json.FieldCheck.ofReader]) hvalue
  obtain ⟨type', htype', hw⟩ := Except.bind_eq_ok_iff.mp hw
  obtain ⟨value', hvalue', hw⟩ := Except.bind_eq_ok_iff.mp hw
  obtain ⟨id, -, hw⟩ := Except.bind_eq_ok_iff.mp hw
  -- A name stands once in a record that is read, so the reader finds these two members.
  rw [Json.required, htypes] at htype'
  rw [Json.optional, hvalues] at hvalue'
  cases htype'
  cases hvalue'
  cases hw
  exact ⟨id, hitem⟩

/-- If an entry reads, so do its key and its value. -/
private theorem exists_of_entryOfJson {ms : List (String × Json)} {name : String}
    {e : StackItem × StackItem}
    (h : entryOfJson read (.object ms) = .ok e) (hname : name = "key" ∨ name = "value")
    (hmem : (name, j) ∈ ms) : ∃ y, read j = .ok y := by
  rw [entryOfJson] at h
  obtain ⟨fs, hfs, h⟩ := Except.bind_eq_ok_iff.mp h
  have hlookup := Json.lookup_of_fields hfs
    (by simpa [entryChecks, Json.FieldCheck.ofReader] using hname) hmem
  obtain ⟨key, hkey, h⟩ := Except.bind_eq_ok_iff.mp h
  obtain ⟨value, hvalue, h⟩ := Except.bind_eq_ok_iff.mp h
  -- Both names are required, so the reader has read the member either way.
  rcases hname with rfl | rfl
  · rw [Json.required, hlookup] at hkey
    exact ⟨key, hkey⟩
  · rw [Json.required, hlookup] at hvalue
    exact ⟨value, hvalue⟩

/-- If a list reads, so does each of its values. -/
private theorem exists_of_readEach {α : Type} {read : Json.Reader α} {js : List Json} {as : List α}
    (h : Json.readEach read js = .ok as) (hj : j ∈ js) : ∃ a, read j = .ok a := by
  obtain ⟨i, hi, rfl⟩ := List.getElem_of_mem hj
  have hread := Json.readEach_eq_ok_iff.mp h
  exact ⟨_, hread.get hi (hread.length_eq ▸ hi)⟩

/-- If a list item reads, so does its list. -/
private theorem exists_readArray_of_item {type : String} {value : Json} {id : Option String}
    {x : StackItem}
    (hlist : type = "Array" ∨ type = "Struct") (h : Written.item read ⟨type, value, id⟩ = .ok x) :
    ∃ items, Json.readArray read value = .ok items := by
  rcases hlist with rfl | rfl
  · obtain ⟨items, hitems, -⟩ := Except.map_eq_ok_iff.mp h
    exact ⟨items, Except.mapError_eq_ok_iff.mp hitems⟩
  · obtain ⟨items, hitems, -⟩ := Except.map_eq_ok_iff.mp h
    exact ⟨items, Except.mapError_eq_ok_iff.mp hitems⟩

/-- What took the place of an item reads if the whole does. -/
private theorem exists_ofJson_of_replaced {bad j j' : Json} (h : Replaced bad j j') {x : StackItem}
    (hx : ofJson j' = .ok x) : ∃ y, ofJson bad = .ok y := by
  -- On the path from the replaced value up: whatever holds it reads all that it lists.
  induction h generalizing x with
  | self => exact ⟨x, hx⟩
  | item hlist htype _ ih =>
    obtain ⟨id, hitem⟩ := exists_written hx
      (((List.sublist_cons_self ..).append_left _).mem htype)
      (List.mem_append_right _ List.mem_cons_self)
    obtain ⟨items, hitems⟩ := exists_readArray_of_item hlist hitem
    obtain ⟨y, hy⟩ := exists_of_readEach hitems (List.mem_append_right _ List.mem_cons_self)
    exact ih hy
  | entry hname htype _ ih =>
    obtain ⟨id, hitem⟩ := exists_written hx
      (((List.sublist_cons_self ..).append_left _).mem htype)
      (List.mem_append_right _ List.mem_cons_self)
    obtain ⟨entries, hentries, -⟩ := Except.map_eq_ok_iff.mp hitem
    obtain ⟨e, he⟩ := exists_of_readEach (Except.mapError_eq_ok_iff.mp hentries)
      (List.mem_append_right _ List.mem_cons_self)
    obtain ⟨y, hy⟩ := exists_of_entryOfJson he hname (List.mem_append_right _ List.mem_cons_self)
    exact ih hy

/-- Every form of an item in range is read as the item, also out of a text; and where an item inside of
a form gave way to a value that does not read, the whole does not. -/
theorem reads_written {item : StackItem} (hitem : item.InRange) :
    Spells item item.toJson ∧ ∀ j, Spells item j →
      ofJson j = .ok item ∧ ofJson j.settled = .ok item ∧
        ∀ bad j', Replaced bad j j' → (∃ e, ofJson bad = .error e) → ∃ e, ofJson j' = .error e := by
  refine ⟨spells_toJson item, fun j hj => ⟨ofJson_of_spells hj hitem,
    ofJson_of_spells (spells_settled hj) hitem, fun bad j' hreplaced ⟨e, he⟩ => ?_⟩⟩
  -- Read the whole: then it would have read the bad part as well.
  cases hread : ofJson j' with
  | error e' => exact ⟨e', rfl⟩
  | ok x =>
    obtain ⟨y, hy⟩ := exists_ofJson_of_replaced hreplaced hread
    rw [he] at hy
    cases hy

/-- A map of bytes to an iterator. -/
def iteratorMap : StackItem :=
  .map [(.byteString [0, 255], .interop (some "7"))]

/-- A struct of the least integer and a map. -/
def leastStruct : StackItem :=
  .struct [.integer (-Int256.bound), iteratorMap]

/-- The struct is read back, but not with null in the place of its integer. -/
theorem reads_written_least :
    leastStruct.InRange ∧ ofJson leastStruct.toJson = .ok leastStruct ∧
      ∃ e, ofJson (record "Struct" (.array [.null, iteratorMap.toJson])) = .error e := by
  have hrange : leastStruct.InRange := by
    refine .struct fun x hx => ?_
    obtain rfl | rfl : x = .integer (-Int256.bound) ∨ x = iteratorMap := by simpa using hx
    · exact .integer (by decide)
    · refine .map (fun e he => ?_) fun e he => ?_ <;> obtain rfl := List.mem_singleton.mp he
      · exact .byteString
      · exact .interop
  obtain ⟨hform, hforms⟩ := reads_written hrange
  obtain ⟨hread, -, hbad⟩ := hforms _ hform
  have hreplaced : Replaced .null (toJson (.integer (-Int256.bound))) .null := .self _
  have hwhole := @Replaced.item .null "Struct" [("type", .string "Struct")] [] []
    [iteratorMap.toJson] _ _ (.inr rfl) (by simp) hreplaced
  exact ⟨hrange, hread, hbad .null _ hwhole ⟨.mismatch, rfl⟩⟩

end ChainGauge.StackItem
