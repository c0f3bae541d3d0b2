import ChainGauge.Rpc.Query
import ChainGauge.Text.Split

/-!
# Native contracts

A node lists the contracts that are part of the chain itself. One of them holds notary deposits;
another tells which keys are designated for a role at a height. The alphabet of a chain is its
committee; that of the main chain is designated for a role of its own.
-/

namespace ChainGauge.Native

open Chain

/-- The name of the contract that holds notary deposits. -/
def notaryName : String := "Notary"

/-- Whether the chain has the notary contract. -/
def notaryEnabled : Chain Bool := do
  let natives ← query .nativeContracts
  pure (natives.any (·.name == notaryName))

/-- The first contract of a name, in upper or lower case. -/
def named? (name : String) (natives : List ContractState) : Option ContractState :=
  natives.find? fun c => Text.lower c.name == Text.lower name

/-- The hash of a native contract. -/
def hashOf (name : String) : Chain ScriptHash := do
  let natives ← query .nativeContracts
  match named? name natives with
  | some c => pure c.hash
  | none => outcome (.error (.noNative name))

end ChainGauge.Native

/-! ## Designated nodes -/

namespace ChainGauge.Role

open Chain

/-- The role of the alphabet. -/
def alphabetRole : Int := 16

/-- The key in an item. -/
def readKey (item : StackItem) : Except ChainError PublicKey :=
  match item.bytes? with
  | .error e => .error (.shape (.view e))
  | .ok raw => (PublicKey.ofBytes raw).mapError .key

/-- The keys designated for a role at a height. -/
def designated (role : Int) (height : Nat) : Chain (List PublicKey) := do
  let top ← invokeTop .roleManagement "getDesignatedByRole" [.integer role, .integer height]
  let items ← view top.list?
  outcome (items.mapM readKey)

/-- The keys designated for the alphabet at the current number of blocks. -/
def designatedAlphabet : Chain (List PublicKey) := do
  let height ← query .blockCount
  designated alphabetRole height

/-- The alphabet of a chain that is its committee. -/
def committeeAlphabet : Chain (List PublicKey) :=
  query .committee

/-- The alphabet of a chain that designates it. -/
def mainAlphabet : Chain (List PublicKey) :=
  during .designatedAlphabet designatedAlphabet

end ChainGauge.Role
