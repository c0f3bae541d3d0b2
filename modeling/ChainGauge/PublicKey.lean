import ChainGauge.Curve.P256
import ChainGauge.ScriptHash

/-!
# Public keys

A key is a point of the curve P-256 in its compressed form, thirty-three bytes; that form is also
its order and its text. The account that a key owns is named by the hash of the script that checks
one signature of it.
-/

namespace ChainGauge

/-- A public key by its compressed form. -/
structure PublicKey where
  bytes : Bytes
  bytes_length : bytes.length = 33
  deriving DecidableEq

namespace PublicKey

/-- Why something is no public key. -/
inductive Fault where
  | hex (text : String) (cause : Hex.Error)
  /-- The bytes encode no point. -/
  | notOnCurve (bytes : Bytes)
  deriving DecidableEq, Repr

/-- The wording of a fault. -/
def Fault.message : Fault → String
  | .hex s e => s!"{s}: {e.message}"
  | .notOnCurve bs => s!"{Hex.encode bs}: crypto error"

/-- The key of a point. -/
def ofPoint (q : P256.Point) : PublicKey :=
  ⟨q.encode, by simp [P256.Point.encode, P256.field]⟩

/-- The key that an encoded point stands for. -/
def ofBytes (bs : Bytes) : Except Fault PublicKey :=
  match P256.Point.decode? bs with
  | some q => .ok (ofPoint q)
  | none => .error (.notOnCurve bs)

/-- Reads the digits of an encoded point, with or without the marker. -/
def ofHex (s : String) : Except Fault PublicKey :=
  match Hex.decode (Hex.unmarked s) with
  | .error e => .error (.hex s e)
  | .ok bs => ofBytes bs

/-- The digits of the compressed form. -/
def toHex (k : PublicKey) : String :=
  Hex.encode k.bytes

/-- The script that checks one signature of the key: push the key, call the check. -/
def verificationScript (k : PublicKey) : Bytes :=
  [0x0c, 0x21] ++ k.bytes ++ [0x41, 0x56, 0xe7, 0xb3, 0x27]

/-- The account that the key owns. -/
def account (k : PublicKey) : ScriptHash :=
  ScriptHash.ofScript k.verificationScript

/-- The order by compressed bytes. -/
def le (a b : PublicKey) : Bool :=
  a.bytes ≤ b.bytes

/-- The texts of the keys in the order of the keys. -/
def sortedHex (keys : List PublicKey) : List String :=
  (keys.mergeSort le).map toHex

end PublicKey

end ChainGauge
