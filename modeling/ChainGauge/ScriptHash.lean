import ChainGauge.Digest.Ripemd160
import ChainGauge.Digest.Sha256
import ChainGauge.Text.Base58
import ChainGauge.Text.Hex

/-!
# Script hashes

An account or contract is named by the twenty-byte digest of its script. It has three written
forms: the *display* form, hexadecimal in big-endian order, mostly behind the marker `0x`; the
*bare* form, hexadecimal in little-endian order; and the *address*, base 58 with a version byte in
front and a checksum behind. `parse` reads all three. Hashes are ordered by their little-endian
bytes.
-/

namespace ChainGauge

/-- The name of an account or contract. -/
structure ScriptHash where
  /-- The bytes in little-endian order. -/
  bytes : Bytes
  bytes_length : bytes.length = 20
  deriving DecidableEq

namespace ScriptHash

/-- Why something is no script hash. -/
inductive Fault where
  | hex (text : String) (cause : Hex.Error)
  /-- Digits for another number of bytes. -/
  | hexWidth (text : String) (bytes : Nat)
  /-- Another number of bytes. -/
  | width (bytes : Nat)
  | base58 (text : String) (cause : Base58.Error)
  | addressLength (text : String)
  | checksum (text : String)
  | version (text : String) (byte : UInt8)
  deriving DecidableEq, Repr

/-- The wording of a fault. -/
def Fault.message : Fault → String
  | .hex s e => s!"{s}: {e.message}"
  | .hexWidth s n => s!"{s}: expected 20 bytes, got {n}"
  | .width n => s!"expected 20 bytes, got {n}"
  | .base58 s e => s!"{s}: {e.message}"
  | .addressLength s => s!"{s}: wrong address length"
  | .checksum s => s!"{s}: checksum mismatch"
  | .version s b => s!"{s}: unexpected version 0x{Hex.ofNat 2 b.toNat}"

/-- The hash of little-endian bytes. -/
def ofLe? (bs : Bytes) : Option ScriptHash :=
  if h : bs.length = 20 then some ⟨bs, h⟩ else none

/-- The hash of little-endian bytes, as they stand on the stack of the virtual machine. -/
def ofLe (bs : Bytes) : Except Fault ScriptHash :=
  match ofLe? bs with
  | some h => .ok h
  | none => .error (.width bs.length)

/-- The hash with twenty zero bytes. -/
def zero : ScriptHash :=
  ⟨List.replicate 20 0, rfl⟩

instance : Inhabited ScriptHash := ⟨zero⟩

/-- A digest as a hash; no digest has another length than twenty. -/
def ofScript (script : Bytes) : ScriptHash :=
  (ofLe? (Ripemd160.hash (Sha256.hash script))).getD zero

/-- Reads the display form, with or without its marker. -/
def ofHex (s : String) : Except Fault ScriptHash :=
  match Hex.decode (Hex.unmarked s) with
  | .error e => .error (.hex s e)
  | .ok bs =>
    match ofLe? bs.reverse with
    | some h => .ok h
    | none => .error (.hexWidth s bs.length)

/-- Reads the bare form. -/
def ofLeHex (s : String) : Except Fault ScriptHash :=
  match Hex.decode s with
  | .error e => .error (.hex s e)
  | .ok bs => ofLe bs

/-- The version byte in front of the hash in an address. -/
def addressVersion : UInt8 := 0x35

/-- The first four bytes of the double digest. -/
def checksum (bs : Bytes) : Bytes :=
  (Sha256.hash (Sha256.hash bs)).take 4

/-- Reads an address. -/
def ofAddress (s : String) : Except Fault ScriptHash :=
  match Base58.decode s with
  | .error e => .error (.base58 s e)
  | .ok raw =>
    if raw.length ≠ 25 then .error (.addressLength s)
    else
      let payload := raw.take 21
      if raw.drop 21 ≠ checksum payload then .error (.checksum s)
      else
        let version := payload.headD 0
        if version ≠ addressVersion then .error (.version s version)
        else ofLe (payload.drop 1)

/-- The address. -/
def toAddress (h : ScriptHash) : String :=
  let payload := addressVersion :: h.bytes
  Base58.encode (payload ++ checksum payload)

/-- The display form without its marker. -/
def toHex (h : ScriptHash) : String :=
  Hex.encode h.bytes.reverse

/-- The bare form. -/
def toLeHex (h : ScriptHash) : String :=
  Hex.encode h.bytes

/-- Reads any of the three forms: behind the marker the display form, else the bare form or else an
address, whose fault counts when all fail. -/
def parse (s : String) : Except Fault ScriptHash :=
  match s.toList with
  | '0' :: 'x' :: _ => ofHex s
  | _ =>
    match ofLeHex s with
    | .ok h => .ok h
    | .error _ => ofAddress s

/-- The order by little-endian bytes. -/
def le (a b : ScriptHash) : Bool :=
  a.bytes ≤ b.bytes

/-- Why a literal is refused. -/
inductive LiteralFault where
  | length
  | digit
  deriving DecidableEq, Repr

/-- The wording of a literal's fault. -/
def LiteralFault.message : LiteralFault → String
  | .length => "script hash literal must be 40 hex digits"
  | .digit => "invalid hex digit"

/-- The byte at place `i` of a literal's forty digits. -/
def literalByte (raw : Bytes) (i : Nat) : Except LiteralFault UInt8 :=
  match Hex.digitValue? (raw.getD (2 * i) 0), Hex.digitValue? (raw.getD (2 * i + 1) 0) with
  | some x, some y => .ok (UInt8.ofNat (16 * x + y))
  | _, _ => .error .digit

/-- The last `n` bytes of a literal's digits from byte `i` on, in front of `done`. -/
def literalBytes (raw : Bytes) (i : Nat) (done : Bytes) : Nat → Except LiteralFault Bytes
  | 0 => .ok done
  | n + 1 =>
    match literalByte raw i with
    | .error e => .error e
    | .ok b => literalBytes raw (i + 1) (b :: done) n

/-- Reads a literal: exactly forty digits in big-endian order. -/
def ofLiteral (s : String) : Except LiteralFault ScriptHash :=
  let raw := Utf8.encode s
  if raw.length ≠ 40 then .error .length
  else
    match literalBytes raw 0 [] 20 with
    | .error e => .error e
    | .ok bs => .ok ((ofLe? bs).getD zero)

/-- The hash of a literal that is known to be well formed. -/
def literal (s : String) : ScriptHash :=
  match ofLiteral s with
  | .ok h => h
  | .error _ => zero

/-- The native contract of the fee token. -/
def gas : ScriptHash := literal "d2a4cff31913016155e38e474a2c06d08be276cf"

/-- The native contract of the governance token. -/
def neo : ScriptHash := literal "ef4073a0f2b305a38ec4050e4d3d28bc40ea63f5"

/-- The native contract that holds notary deposits. -/
def notary : ScriptHash := literal "c1e14f19c3e60d0b9244d06dd7ba9b113135ec3b"

/-- The native contract that designates nodes for roles. -/
def roleManagement : ScriptHash := literal "49cf4e5378ffcd4dec034fd98a174c5491e395e2"

end ScriptHash

end ChainGauge
