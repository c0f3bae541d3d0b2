import ChainGauge.Json.Record
import ChainGauge.Json.Selection
import ChainGauge.Stack.Item

/-!
# Stack items in JSON

A node sends an item as a record with its `type`, its `value` and, for interop interfaces, its
`id`: integers as decimal text, bytes in base 64, lists as nested records and maps as records of
`key` and `value`. `toJson` writes that form and `ofJson` reads it; reading also takes a number for
an integer and null for empty bytes. An item inside a list or map that does not decode makes the
whole item fail.
-/

namespace ChainGauge.StackItem

open Json (FieldCheck)

/-- The fields that every item is written with. -/
structure Written where
  type : String
  value : Json
  id : Option String

/-- Any value but null. -/
def Written.readValue : Json.Reader Json :=
  .ok

/-- The fields of an item. -/
def Written.checks : List FieldCheck :=
  [.ofReader "type" Json.readString, .ofReader "value" readValue, .ofReader "id" Json.readString?]

/-- Reads the fields of an item, without looking into its value. -/
def Written.ofJson (j : Json) : Except Json.Fault Written := do
  let fs ← j.fields checks
  let type ← Json.required "type" Json.readString fs
  let value ← Json.optional "value" readValue .null fs
  let id ← Json.optional "id" Json.readString? none fs
  .ok ⟨type, value, id⟩

/-- Reads bytes in base 64, or null for no byte. -/
def bytesOfJson : Json → Except Json.Fault Bytes
  | .string s => (Base64.decode s).mapError (.base64 s)
  | .null => .ok []
  | j => .error (.bytesKind j)

/-- Reads an integer from decimal text or from a number. -/
def integerOfJson : Json → Except Json.Fault Int
  | .string s => (Int256.ofDecimal s).mapError (.integer s)
  | .number n => let s := Json.renderNumber n; (Int256.ofDecimal s).mapError (.integer s)
  | j => .error (.integerKind j)

/-- The fields of an entry of a map, with a reader for its items. -/
def entryChecks (read : Json.Reader StackItem) : List FieldCheck :=
  [.ofReader "key" read, .ofReader "value" read]

/-- Reads an entry of a map. -/
def entryOfJson (read : Json.Reader StackItem) : Json.Reader (StackItem × StackItem) := fun j => do
  let fs ← j.fields (entryChecks read)
  let key ← Json.required "key" read fs
  let value ← Json.required "value" read fs
  .ok (key, value)

/-- The item that written fields stand for, with a reader for the items inside of it. -/
def Written.item (read : Json.Reader StackItem) (w : Written) : Except Json.Fault StackItem :=
  -- The value is looked at only where the type calls for one.
  match w.type with
  | "Any" => .ok .any
  | "Pointer" =>
    match w.value.asInt64? with
    | some n => .ok (.pointer n)
    | none => .error (.pointer w.value)
  | "Boolean" =>
    match w.value.asBool? with
    | some b => .ok (.boolean b)
    | none => .error (.boolean w.value)
  | "Integer" => (integerOfJson w.value).map .integer
  | "ByteString" => (bytesOfJson w.value).map .byteString
  | "Buffer" => (bytesOfJson w.value).map .buffer
  | "Array" => ((Json.readArray read w.value).mapError .items).map .array
  | "Struct" => ((Json.readArray read w.value).mapError .items).map .struct
  | "Map" => ((Json.readArray (entryOfJson read) w.value).mapError .entries).map .map
  | "InteropInterface" => .ok (.interop w.id)
  | t => .error (.itemType t)

/-- Reads an item that nests at most `fuel` deep. -/
def ofJsonWithin : Nat → Json → Except Json.Fault StackItem
  | 0, _ => .error .mismatch
  | fuel + 1, j => (Written.ofJson j).bind (Written.item (ofJsonWithin fuel))

/-- Reads an item. -/
def ofJson (j : Json) : Except Json.Fault StackItem :=
  ofJsonWithin (j.depth + 1) j

/-- The fields of an item count; so does all of its value. -/
def shape : Json.Shape :=
  .flat ["type", "value", "id"]

/-- Reads the text of an item. Its own fields may be written once each; of members of one name inside
of its value the last counts. -/
def ofText? (s : String) : Option StackItem :=
  (Json.select? shape s).bind fun j => (ofJson j.settled).toOption

/-- A record of one item. -/
def record (type : String) (value : Json) : Json :=
  .object [("type", .string type), ("value", value)]

mutual
/-- Writes an item. -/
def toJson : StackItem → Json
  | .any => .object [("type", .string "Any")]
  | .pointer n => record "Pointer" (.int n)
  | .boolean b => record "Boolean" (.bool b)
  | .integer n => record "Integer" (.string (toString n))
  | .byteString bs => record "ByteString" (.string (Base64.encode bs))
  | .buffer bs => record "Buffer" (.string (Base64.encode bs))
  | .array items => record "Array" (.array (itemsToJson items))
  | .struct items => record "Struct" (.array (itemsToJson items))
  | .map entries => record "Map" (.array (entriesToJson entries))
  | .interop none => .object [("type", .string "InteropInterface")]
  | .interop (some id) => .object [("type", .string "InteropInterface"), ("id", .string id)]

/-- Writes the items of a list. -/
def itemsToJson : List StackItem → List Json
  | [] => []
  | item :: rest => toJson item :: itemsToJson rest

/-- Writes the entries of a map. -/
def entriesToJson : List (StackItem × StackItem) → List Json
  | [] => []
  | (key, value) :: rest =>
    .object [("key", toJson key), ("value", toJson value)] :: entriesToJson rest
end

end ChainGauge.StackItem
