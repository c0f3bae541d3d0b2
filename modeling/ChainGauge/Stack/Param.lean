import ChainGauge.Json.Value
import ChainGauge.PublicKey
import ChainGauge.Text.Base64

/-!
# Parameters of an invocation

Each parameter is sent as a record of its type and its value, the value always as text.
-/

namespace ChainGauge

/-- A typed parameter of an invocation. -/
inductive Param where
  | integer (n : Int)
  | string (s : String)
  | hash (h : ScriptHash)
  | key (k : PublicKey)
  | bytes (bs : Bytes)
  deriving DecidableEq

namespace Param

/-- The name of a parameter's type. -/
def type : Param → String
  | .integer _ => "Integer"
  | .string _ => "String"
  | .hash _ => "Hash160"
  | .key _ => "PublicKey"
  | .bytes _ => "ByteArray"

/-- The text of a parameter's value. -/
def value : Param → String
  | .integer n => toString n
  | .string s => s
  | .hash h => "0x" ++ h.toHex
  | .key k => k.toHex
  | .bytes bs => Base64.encode bs

/-- The record that is sent. -/
def toJson (p : Param) : Json :=
  .object [("type", .string p.type), ("value", .string p.value)]

end Param

end ChainGauge
