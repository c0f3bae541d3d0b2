import ChainGauge.Text.Utf8

/-!
# JSON values

A number keeps whether it was written as a whole number or as a real one. The members of an object
stand in the order they were written; `canonical` gives the value its one form with sorted members,
in which the last of several members of one name counts.
-/

namespace ChainGauge

/-- A JSON number. -/
inductive JsonNumber where
  /-- A whole number from `-2 ^ 63` to `2 ^ 64 - 1`. -/
  | whole (n : Int)
  | real (x : Float)
  deriving BEq, Repr, Inhabited

/-- A JSON value. -/
inductive Json where
  | null
  | bool (b : Bool)
  | number (n : JsonNumber)
  | string (s : String)
  | array (items : List Json)
  | object (members : List (String × Json))
  deriving BEq, Repr, Inhabited

namespace Json

/-- A whole number. -/
def int (n : Int) : Json :=
  .number (.whole n)

/-- A natural number. -/
def nat (n : Nat) : Json :=
  .int n

/-- The members sorted by name after one member is put in; it replaces a member of its name. -/
def insertMember (name : String) (value : Json) : List (String × Json) → List (String × Json)
  | [] => [(name, value)]
  | (n, v) :: rest =>
    if name < n then (name, value) :: (n, v) :: rest
    else if name = n then (name, value) :: rest
    else (n, v) :: insertMember name value rest

mutual
/-- The form with sorted members, without repeated names. -/
def canonical : Json → Json
  | .array items => .array (canonicalItems items)
  | .object members => .object (canonicalMembers [] members)
  | j => j

/-- The forms of the items of an array. -/
def canonicalItems : List Json → List Json
  | [] => []
  | j :: rest => canonical j :: canonicalItems rest

/-- Puts the members of an object into sorted ones. -/
def canonicalMembers (done : List (String × Json)) : List (String × Json) → List (String × Json)
  | [] => done
  | (n, v) :: rest => canonicalMembers (insertMember n (canonical v) done) rest
end

/-- The value with its parts in canonical form, its own members as they are written. -/
def settled : Json → Json
  | .array items => .array (items.map canonical)
  | .object members => .object (members.map fun m => (m.1, m.2.canonical))
  | j => j

/-- The first member of a name. -/
def member? (name : String) : Json → Option Json
  | .object members => (members.find? (·.1 == name)).map (·.2)
  | _ => none

/-- The member of a name, null where there is none. -/
def field (name : String) (j : Json) : Json :=
  (j.member? name).getD .null

/-- The text of a string. -/
def asString? : Json → Option String
  | .string s => some s
  | _ => none

/-- The value of a boolean. -/
def asBool? : Json → Option Bool
  | .bool b => some b
  | _ => none

/-- The value of a whole number. -/
def asInt? : Json → Option Int
  | .number (.whole n) => some n
  | _ => none

/-- The value of a whole number from `0` to `2 ^ 64 - 1`. -/
def asNat? (j : Json) : Option Nat :=
  j.asInt?.bind fun n => if 0 ≤ n then some n.toNat else none

/-- The value of a whole number from `-2 ^ 63` to `2 ^ 63 - 1`. -/
def asInt64? (j : Json) : Option Int :=
  j.asInt?.bind fun n => if n < 0x8000000000000000 then some n else none

/-- The nearest double of a number. -/
def asFloat? : Json → Option Float
  | .number (.whole n) => some (if n < 0 then -Float.ofNat n.natAbs else Float.ofNat n.natAbs)
  | .number (.real x) => some x
  | _ => none

/-- The items of an array. -/
def asArray? : Json → Option (List Json)
  | .array items => some items
  | _ => none

/-- The members of an object. -/
def asObject? : Json → Option (List (String × Json))
  | .object members => some members
  | _ => none

end Json

end ChainGauge
