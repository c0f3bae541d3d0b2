import ChainGauge.Json.Record
import ChainGauge.Json.Selection
import ChainGauge.Text.Message
import ChainGauge.Text.Split

/-!
# Codes of locations

A location is named by a code such as `DE FRA`: two letters for the country, a blank, and three
letters or digits. A table gives the position of each location, by country and then by location.
-/

namespace ChainGauge

/-- The position of a location. -/
structure Position where
  location : String
  latitude : Float
  longitude : Float
  deriving BEq, Repr

/-- The positions by country and location, each in the order of the names. -/
structure LocodeTable where
  countries : List (String × List (String × Position))

namespace LocodeTable

/-- Why a code has no position. -/
inductive Fault where
  /-- The code is not built like one. -/
  | malformed (code : String)
  | absent (code : String)
  /-- The table cannot be read. -/
  | unreadable (path reason : String)
  deriving DecidableEq, Repr

/-- The wording of a fault. -/
def Fault.message : Fault → String
  | .malformed c => "incorrect locode " ++ Quoted.text c
  | .absent c => s!"no record for {c}"
  | .unreadable p r => s!"can't read {p}: {r}"

/-- The fault of a path where there is no file. -/
def missing (path : String) : Fault :=
  .unreadable path (MissingFile.reason path)

/-- Whether a character is a letter of ASCII. -/
def isLetter (c : Char) : Bool :=
  ('a' ≤ c && c ≤ 'z') || ('A' ≤ c && c ≤ 'Z')

/-- The country and location of a code. -/
def parts (code : String) : Except Fault (String × String) :=
  match Text.splitOnce [' '] code.toList with
  | none => .error (.malformed code)
  | some (country, location) =>
    if country.length = 2 ∧ country.all isLetter ∧ location.length = 3 ∧
        location.all fun c => isLetter c || c.isDigit then
      .ok (String.ofList country, String.ofList location)
    else .error (.malformed code)

/-- The names of a position's fields. -/
def positionFields : List String :=
  ["LocationName", "Latitude", "Longitude"]

/-- Reads a position. -/
def readPosition : Json.Reader Position := fun j => do
  let fs ← j.fields [.ofReader "LocationName" Json.readString,
    .ofReader "Latitude" Json.readFloat, .ofReader "Longitude" Json.readFloat]
  let location ← Json.required "LocationName" Json.readString fs
  let latitude ← Json.required "Latitude" Json.readFloat fs
  let longitude ← Json.required "Longitude" Json.readFloat fs
  .ok ⟨location, latitude, longitude⟩

/-- Puts an entry into a table sorted by name; it replaces one of its name. -/
def insert {α : Type} (name : String) (a : α) : List (String × α) → List (String × α)
  | [] => [(name, a)]
  | (n, b) :: rest =>
    if name < n then (name, a) :: (n, b) :: rest
    else if name = n then (name, a) :: rest
    else (n, b) :: insert name a rest

/-- Reads the members of an object into a table; the last of one name counts. -/
def readTable {α : Type} (read : Json.Reader α) : Json.Reader (List (String × α))
  | .object members =>
    members.foldl (fun acc m => do
      let table ← acc
      let a ← read m.2
      .ok (insert m.1 a table)) (.ok [])
  | _ => .error .mismatch

/-- Reads the text of a table. -/
def ofText? (s : String) : Option LocodeTable := do
  let j ← Json.select? (.table (.table (.flat positionFields))) s
  let countries ← (readTable (readTable readPosition) j).toOption
  some ⟨countries⟩

/-- The number of locations. -/
def size (t : LocodeTable) : Nat :=
  t.countries.foldl (fun n c => n + c.2.length) 0

/-- The position of a code. -/
def find (t : LocodeTable) (code : String) : Except Fault Position :=
  match parts code with
  | .error e => .error e
  | .ok (country, location) =>
    match (t.countries.lookup country).bind (·.lookup location) with
    | some p => .ok p
    | none => .error (.absent code)

end LocodeTable

end ChainGauge
