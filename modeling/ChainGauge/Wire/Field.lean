import ChainGauge.Text.Utf8

/-!
# The tagged wire format

A message is a sequence of fields. Each starts with a key, a varint that holds the field's tag and
how its value is laid out. A field whose tag means nothing to the reader is skipped. A nested
message stands behind its length; its fields are read from all bytes that are left, and it is an
error if they end anywhere but where the length says.
-/

namespace ChainGauge.Wire

/-- How a field's value is laid out. -/
inductive Layout where
  | varint
  | eightBytes
  | delimited
  | groupStart
  | groupEnd
  | fourBytes
  deriving DecidableEq, Repr

/-- The name of a layout. -/
def Layout.name : Layout → String
  | .varint => "Varint"
  | .eightBytes => "SixtyFourBit"
  | .delimited => "LengthDelimited"
  | .groupStart => "StartGroup"
  | .groupEnd => "EndGroup"
  | .fourBytes => "ThirtyTwoBit"

/-- The number of a layout in a key. -/
def Layout.number : Layout → Nat
  | .varint => 0
  | .eightBytes => 1
  | .delimited => 2
  | .groupStart => 3
  | .groupEnd => 4
  | .fourBytes => 5

/-- The layout of a number. -/
def Layout.ofNumber? : Nat → Option Layout
  | 0 => some .varint
  | 1 => some .eightBytes
  | 2 => some .delimited
  | 3 => some .groupStart
  | 4 => some .groupEnd
  | 5 => some .fourBytes
  | _ => none

/-- What is wrong with bytes that are no message. -/
inductive Cause where
  | varint
  | key (n : Nat)
  | layoutNumber (n : Nat)
  | tagZero
  | layout (actual expected : Layout)
  /-- A value is longer than the bytes that are left. -/
  | underflow
  | text
  /-- A nested message does not end where its length says. -/
  | overrun
  | nesting
  | groupEnd
  deriving DecidableEq, Repr

/-- The wording of a cause. -/
def Cause.message : Cause → String
  | .varint => "invalid varint"
  | .key n => s!"invalid key value: {n}"
  | .layoutNumber n => s!"invalid wire type value: {n}"
  | .tagZero => "invalid tag value: 0"
  | .layout actual expected => s!"invalid wire type: {actual.name} (expected {expected.name})"
  | .underflow => "buffer underflow"
  | .text => "invalid string value: data is not UTF-8 encoded"
  | .overrun => "delimited length exceeded"
  | .nesting => "recursion limit reached"
  | .groupEnd => "unexpected end group tag"

/-- A cause with the fields it lies in, the innermost first. -/
structure Fault where
  path : List String
  cause : Cause
  deriving DecidableEq, Repr

/-- The wording of a fault. -/
def Fault.message (f : Fault) : String :=
  "failed to decode Protobuf message: " ++ String.join (f.path.map (· ++ ": ")) ++ f.cause.message

/-- A fault without fields around it. -/
def Fault.of (cause : Cause) : Fault :=
  ⟨[], cause⟩

/-- Names the field that a fault lies in. -/
def within {α : Type} (field : String) (r : Except Fault α) : Except Fault α :=
  r.mapError fun f => { f with path := f.path ++ [field] }

/-- How deep messages and groups may nest. -/
def maxNesting : Nat := 100

/-- Takes the digits of a varint from place `i` on, lowest first. At most ten bytes belong to it,
and the tenth holds one bit. -/
def takeVarintFrom (i : Nat) : Bytes → Option (Nat × Bytes)
  | [] => none
  | b :: rest =>
    if 9 ≤ i ∧ 2 ≤ b then none
    else if b < 128 then some (b.toNat, rest)
    else (takeVarintFrom (i + 1) rest).map fun (n, rest) => (b.toNat - 128 + 128 * n, rest)

/-- Takes a varint. -/
def takeVarint (bs : Bytes) : Except Fault (Nat × Bytes) :=
  match takeVarintFrom 0 bs with
  | some r => .ok r
  | none => .error (.of .varint)

/-- Takes a key: the tag and layout of a field. -/
def takeKey (bs : Bytes) : Except Fault (Nat × Layout × Bytes) :=
  match takeVarint bs with
  | .error e => .error e
  | .ok (key, rest) =>
    if 0x100000000 ≤ key then .error (.of (.key key))
    else
      match Layout.ofNumber? (key % 8) with
      | none => .error (.of (.layoutNumber (key % 8)))
      | some layout =>
        if key / 8 = 0 then .error (.of .tagZero) else .ok (key / 8, layout, rest)

/-- Demands a layout. -/
def expect (expected actual : Layout) : Except Fault Unit :=
  if actual = expected then .ok () else .error (.of (.layout actual expected))

/-- Takes a number of bytes. -/
def takeExact (n : Nat) (bs : Bytes) : Except Fault (Bytes × Bytes) :=
  if bs.length < n then .error (.of .underflow) else .ok (bs.take n, bs.drop n)

/-- Takes bytes behind their length. -/
def takeBytes (layout : Layout) (bs : Bytes) : Except Fault (Bytes × Bytes) := do
  expect .delimited layout
  let (n, rest) ← takeVarint bs
  takeExact n rest

/-- Takes a text behind its length. -/
def takeText (layout : Layout) (bs : Bytes) : Except Fault (String × Bytes) := do
  let (raw, rest) ← takeBytes layout bs
  match Utf8.decode raw with
  | .ok s => .ok (s, rest)
  | .error _ => .error (.of .text)

/-- Takes a whole number of thirty-two bits; higher bits do not count. -/
def takeInt32 (layout : Layout) (bs : Bytes) : Except Fault (Int × Bytes) := do
  expect .varint layout
  let (n, rest) ← takeVarint bs
  let low : Nat := n % 0x100000000
  let value : Int := if low < 0x80000000 then low else (low : Int) - 0x100000000
  .ok (value, rest)

mutual
/-- Skips the value of a field; `fuel` bounds the number of keys. -/
def skip (depth tag : Nat) (layout : Layout) : Nat → Bytes → Except Fault Bytes
  | fuel, bs =>
    if maxNesting ≤ depth then .error (.of .nesting)
    else
      match layout with
      | .varint => (takeVarint bs).map (·.2)
      | .fourBytes => (takeExact 4 bs).map (·.2)
      | .eightBytes => (takeExact 8 bs).map (·.2)
      | .delimited => (takeBytes .delimited bs).map (·.2)
      | .groupStart => skipGroup depth tag fuel bs
      | .groupEnd => .error (.of .groupEnd)
termination_by fuel => 2 * fuel + 1

/-- Skips the fields of a group up to its end. -/
def skipGroup (depth tag : Nat) : Nat → Bytes → Except Fault Bytes
  | 0, _ => .error (.of .varint)
  | fuel + 1, bs =>
    match takeKey bs with
    | .error e => .error e
    | .ok (inner, .groupEnd, rest) =>
      if inner = tag then .ok rest else .error (.of .groupEnd)
    | .ok (inner, layout, rest) =>
      match skip (depth + 1) inner layout fuel rest with
      | .error e => .error e
      | .ok rest => skipGroup depth tag fuel rest
termination_by fuel => 2 * fuel
end

/-- Reads the value of one field into a message. -/
abbrev FieldReader (α : Type) :=
  α → Nat → Layout → Bytes → Except Fault (α × Bytes)

/-- Reads fields while more than `limit` bytes are left. Every field takes a byte, so `fuel` may be
the number of bytes. -/
def readFields {α : Type} (field : FieldReader α) (limit : Nat) :
    Nat → α → Bytes → Except Fault (α × Bytes)
  | 0, a, bs => .ok (a, bs)
  | fuel + 1, a, bs =>
    if bs.length ≤ limit then .ok (a, bs)
    else do
      let (tag, layout, rest) ← takeKey bs
      let (a, rest) ← field a tag layout rest
      readFields field limit fuel a rest

/-- Takes a nested message behind its length. -/
def takeMessage {α : Type} (field : FieldReader α) (empty : α) (layout : Layout) (bs : Bytes) :
    Except Fault (α × Bytes) := do
  expect .delimited layout
  let (n, rest) ← takeVarint bs
  if rest.length < n then throw (.of .underflow)
  -- The fields are read from all bytes that are left; only their end is compared.
  let limit := rest.length - n
  let (a, rest) ← readFields field limit rest.length empty rest
  if rest.length = limit then .ok (a, rest) else throw (.of .overrun)

/-- Reads a whole message. -/
def readMessage {α : Type} (field : FieldReader α) (empty : α) (bs : Bytes) : Except Fault α :=
  (readFields field 0 bs.length empty bs).map (·.1)

/-! ### Writing -/

/-- Writes a varint. -/
def putVarint (n : Nat) : Bytes :=
  if n < 128 then [UInt8.ofNat n]
  else UInt8.ofNat (n % 128 + 128) :: putVarint (n / 128)
termination_by n
decreasing_by omega

/-- Writes a key. -/
def putKey (tag : Nat) (layout : Layout) : Bytes :=
  putVarint (8 * tag + layout.number)

/-- Writes a field of bytes. -/
def putBytes (tag : Nat) (bs : Bytes) : Bytes :=
  putKey tag .delimited ++ putVarint bs.length ++ bs

/-- Writes a field of text. -/
def putText (tag : Nat) (s : String) : Bytes :=
  putBytes tag (Utf8.encode s)

/-- Writes a field with a whole number of thirty-two bits, widened to sixty-four. -/
def putInt32 (tag : Nat) (n : Int) : Bytes :=
  putKey tag .varint ++ putVarint (n % 0x10000000000000000).toNat

end ChainGauge.Wire
