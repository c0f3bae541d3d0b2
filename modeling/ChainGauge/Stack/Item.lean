import ChainGauge.Number.Int256
import ChainGauge.Text.Utf8

/-!
# Items of the virtual machine's stack

An invocation answers with stack items. A caller looks at an item through a *view*: as an integer,
a boolean, bytes, text, a list or an iterator. A view converts where the machine itself would, so
bytes have an integer view (little-endian two's complement, up to thirty-two bytes) and a boolean
view (some byte is not zero); it fails on all other kinds.
-/

namespace ChainGauge

/-- A stack item. -/
inductive StackItem where
  | any
  | pointer (address : Int)
  | boolean (b : Bool)
  | integer (n : Int)
  | byteString (bs : Bytes)
  | buffer (bs : Bytes)
  | array (items : List StackItem)
  | struct (items : List StackItem)
  | map (entries : List (StackItem × StackItem))
  | interop (id : Option String)
  deriving BEq, Repr, Inhabited

namespace StackItem

/-- The name of an item's kind. -/
def kind : StackItem → String
  | .any => "Any"
  | .pointer _ => "Pointer"
  | .boolean _ => "Boolean"
  | .integer _ => "Integer"
  | .byteString _ => "ByteString"
  | .buffer _ => "Buffer"
  | .array _ => "Array"
  | .struct _ => "Struct"
  | .map _ => "Map"
  | .interop _ => "InteropInterface"

/-- Why a view fails. -/
inductive Fault where
  /-- The item is of a kind that has no such view. -/
  | expected (view kind : String)
  /-- More bytes than an integer has. -/
  | tooWide (bytes : Nat)
  /-- The integer does not fit sixty-four bits. -/
  | overflow (n : Int)
  | notText (cause : Utf8.Error)
  deriving DecidableEq, Repr

/-- The wording of a fault. -/
def Fault.message : Fault → String
  | .expected view kind => s!"expected {view}, got {kind}"
  | .tooWide n => s!"integer of {n} bytes is too big"
  | .overflow n => s!"integer {n} overflows i64"
  | .notText e => s!"invalid utf-8 string: {e.message}"

/-- The integer view of bytes. -/
def integerOfBytes (bs : Bytes) : Except Fault Int :=
  if 32 < bs.length then .error (.tooWide bs.length) else .ok (Int256.ofLeBytes bs)

/-- The integer view. -/
def integer? : StackItem → Except Fault Int
  | .integer n => .ok n
  | .boolean b => .ok (if b then 1 else 0)
  | .byteString bs | .buffer bs => integerOfBytes bs
  | item => .error (.expected "integer" item.kind)

/-- The integer view as a word of sixty-four bits. -/
def int64? (item : StackItem) : Except Fault Int :=
  match item.integer? with
  | .error e => .error e
  | .ok n => if -0x8000000000000000 ≤ n ∧ n < 0x8000000000000000 then .ok n else .error (.overflow n)

/-- The boolean view. -/
def bool? : StackItem → Except Fault Bool
  | .boolean b => .ok b
  | .integer n => .ok (n != 0)
  | .byteString bs | .buffer bs => .ok (bs.any (· != 0))
  | item => .error (.expected "boolean" item.kind)

/-- The bytes of a byte string or buffer. -/
def bytes? : StackItem → Except Fault Bytes
  | .byteString bs | .buffer bs => .ok bs
  | item => .error (.expected "byte string" item.kind)

/-- The text that the bytes spell. -/
def text? (item : StackItem) : Except Fault String :=
  match item.bytes? with
  | .error e => .error e
  | .ok bs => (Utf8.decode bs).mapError .notText

/-- The elements of an array or struct. -/
def list? : StackItem → Except Fault (List StackItem)
  | .array items | .struct items => .ok items
  | item => .error (.expected "array" item.kind)

/-- The name of an iterator. -/
def iterator? : StackItem → Except Fault String
  | .interop (some id) => .ok id
  | item => .error (.expected "iterator" item.kind)

end StackItem

end ChainGauge
