import ChainGauge.Json.Printer
import ChainGauge.Number.Int256
import ChainGauge.ScriptHash
import ChainGauge.Text.Base64
import ChainGauge.Text.Split

/-!
# Records in JSON

A record is written as an object, whose members may stand in any order among unknown ones, or as an
array of its fields in their order. Fields are looked at in the order they are written, and the
first one that does not fit decides; only then are missing fields reported, in the order of the
record.
-/

namespace ChainGauge.Json

/-- Why a value does not decode. -/
inductive Fault where
  /-- The value is of another kind, out of range or of another length. -/
  | mismatch
  | missing (field : String)
  | repeated (field : String)
  | pointer (value : Json)
  | boolean (value : Json)
  | integerKind (value : Json)
  | integer (text : String) (cause : Int256.Error)
  | base64 (text : String) (cause : Base64.Error)
  | bytesKind (value : Json)
  | itemType (name : String)
  | hash (cause : ScriptHash.Fault)
  /-- A list of stack items does not decode. -/
  | items (cause : Fault)
  /-- The entries of a map do not decode. -/
  | entries (cause : Fault)

/-- A wording whose last words tell a place, taken apart into what is in front of them, the line and
the column. -/
def endPlace? (wording : List Char) : Option (List Char × Nat × Nat) := do
  let (behind, front) ← Text.splitOnce " at line ".toList.reverse wording.reverse
  let (line, rest) := behind.reverse.span Char.isDigit
  let column ← if " column ".toList.isPrefixOf rest then some (rest.drop 8) else none
  if column.all Char.isDigit then
    let line ← Text.natBelow? 0x10000000000000000 line
    let column ← Text.natBelow? 0x10000000000000000 column
    some (front.reverse, line, column)
  else none

/-- The words of a fault with the place at their end: line zero stands for no place, and numbers are
told without zeros in front. -/
def placed (wording : String) : String :=
  match endPlace? wording.toList with
  | none => wording
  | some (front, 0, _) => String.ofList front
  | some (front, line, column) => s!"{String.ofList front} at line {line} column {column}"

/-- The words of a fault; none where they tell no more than that a value does not fit. -/
def Fault.words? : Fault → Option String
  | .mismatch => none
  | .missing f => some ("missing field \x60" ++ f ++ "\x60")
  | .repeated f => some ("duplicate field \x60" ++ f ++ "\x60")
  | .pointer j => some (placed s!"bad pointer value: {j.render}")
  | .boolean j => some (placed s!"bad boolean value: {j.render}")
  | .integerKind j => some (placed s!"bad integer value: {j.render}")
  | .integer s e => some (placed s!"bad integer {s}: {e.message}")
  | .base64 s e => some (placed s!"bad base64 {s}: {e.message}")
  | .bytesKind j => some (placed s!"bad byte string value: {j.render}")
  | .itemType t => some (placed s!"unknown stack item type {t}")
  | .hash e => some (placed s!"invalid script hash: {e.message}")
  | .items e => e.words?.map fun m => placed s!"bad item list: {m}"
  | .entries e => e.words?.map fun m => placed s!"bad map: {m}"

/-- The words for a value that does not fit. -/
def vagueWords : List String :=
  ["invalid type: ", "invalid value: ", "invalid length "]

/-- The wording of a fault; none where the words for a value that does not fit occur in it, even as
words of the value itself. -/
def Fault.message? (e : Fault) : Option String :=
  e.words?.filter fun m =>
    vagueWords.all fun w => (Text.splitOnce w.toList m.toList).isNone

/-- Reads a value of one kind. -/
abbrev Reader (α : Type) := Json → Except Fault α

/-- A field of a record: its name and whether a value fits it. -/
structure FieldCheck where
  name : String
  fits : Json → Except Fault Unit

/-- The check that a reader makes. -/
def FieldCheck.ofReader {α : Type} (name : String) (read : Reader α) : FieldCheck :=
  ⟨name, fun j => (read j).map fun _ => ()⟩

/-- Checks the members of an object in the order they are written. -/
def checkMembers (checks : List FieldCheck) (seen : List String) :
    List (String × Json) → Except Fault Unit
  | [] => .ok ()
  | (name, value) :: rest =>
    match checks.find? (·.name == name) with
    -- An unknown member may come as often as it likes.
    | none => checkMembers checks seen rest
    | some c =>
      if seen.contains name then .error (.repeated name)
      else match c.fits value with
        | .error e => .error e
        | .ok () => checkMembers checks (name :: seen) rest

/-- Checks the items of an array against the fields in their order. -/
def checkItems : List FieldCheck → List Json → Except Fault Unit
  | _, [] => .ok ()
  | [], _ :: _ => .error .mismatch
  | c :: cs, j :: js =>
    match c.fits j with
    | .error e => .error e
    | .ok () => checkItems cs js

/-- The members of a record that are written as an array. -/
def namedItems (checks : List FieldCheck) (items : List Json) : List (String × Json) :=
  (checks.map (·.name)).zip items

/-- The written fields of a record, all of which fit, and whether it is an array. -/
def fields (checks : List FieldCheck) (j : Json) : Except Fault (List (String × Json) × Bool) :=
  match j with
  | .object members => (checkMembers checks [] members).map fun _ => (members, false)
  | .array items => (checkItems checks items).map fun _ => (namedItems checks items, true)
  | _ => .error .mismatch

/-- A field that must be written. An array without it is too short. -/
def required {α : Type} (name : String) (read : Reader α) (fs : List (String × Json) × Bool) :
    Except Fault α :=
  match fs.1.lookup name with
  | some v => read v
  | none => .error (if fs.2 then .mismatch else .missing name)

/-- A field that has a value of its own where it is not written. -/
def optional {α : Type} (name : String) (read : Reader α) (default : α)
    (fs : List (String × Json) × Bool) : Except Fault α :=
  match fs.1.lookup name with
  | some v => read v
  | none => .ok default

/-- Reads a text. -/
def readString : Reader String
  | .string s => .ok s
  | _ => .error .mismatch

/-- Reads a text, or null for none. -/
def readString? : Reader (Option String)
  | .string s => .ok (some s)
  | .null => .ok none
  | _ => .error .mismatch

/-- Reads a boolean. -/
def readBool : Reader Bool
  | .bool b => .ok b
  | _ => .error .mismatch

/-- Reads a whole number between two bounds. -/
def readInt (lo hi : Int) : Reader Int
  | .number (.whole n) => if lo ≤ n ∧ n ≤ hi then .ok n else .error .mismatch
  | _ => .error .mismatch

/-- Reads a whole number of thirty-two bits without a sign. -/
def readWord (j : Json) : Except Fault Nat :=
  (readInt 0 0xffffffff j).map Int.toNat

/-- Reads a number as the nearest double. -/
def readFloat (j : Json) : Except Fault Float :=
  match j.asFloat? with
  | some x => .ok x
  | none => .error .mismatch

/-- Reads every value of a list; the first that does not fit decides. -/
def readEach {α : Type} (read : Reader α) : List Json → Except Fault (List α)
  | [] => .ok []
  | j :: js =>
    match read j with
    | .error e => .error e
    | .ok a =>
      match readEach read js with
      | .error e => .error e
      | .ok as => .ok (a :: as)

/-- Reads an array. -/
def readArray {α : Type} (read : Reader α) : Reader (List α)
  | .array items => readEach read items
  | _ => .error .mismatch

mutual
/-- How deep arrays and objects nest in a value. -/
def depth : Json → Nat
  | .array items => depthItems items + 1
  | .object members => depthMembers members + 1
  | _ => 0

/-- The depth of the deepest item. -/
def depthItems : List Json → Nat
  | [] => 0
  | j :: js => max (depth j) (depthItems js)

/-- The depth of the deepest member. -/
def depthMembers : List (String × Json) → Nat
  | [] => 0
  | (_, j) :: rest => max (depth j) (depthMembers rest)
end

end ChainGauge.Json
