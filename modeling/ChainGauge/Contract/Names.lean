import ChainGauge.Rpc.Query

/-!
# The name service

Contracts of the storage network are registered under a zone of the name service, in text records
that hold their hashes. The service is the first contract deployed on its chain. A chain without a
name service resolves nothing.
-/

namespace ChainGauge.Names

open Chain

/-- Whom to ask for the contract of a name. -/
inductive Service where
  | contract (hash : ScriptHash)
  | absent
  deriving DecidableEq

/-- The identifier of the contract deployed first. -/
def serviceId : Int := 1

/-- The type of text records. -/
def textRecord : Int := 16

/-- The zone of the contracts of the storage network. -/
def zone : String := "neofs"

/-- Finds the name service of a chain. -/
def find : Chain ScriptHash := do
  let state ← during .nameService (query (.contractState serviceId))
  pure state.hash

/-- The first record in an answer, which is a record or an array of them. -/
def firstRecord (domain : String) : StackItem → Except ChainError StackItem
  | .array [] => .error (.noRecord domain)
  | .array (item :: _) => .ok item
  -- An answer that is no array stands for its only record.
  | item => .ok item

/-- The first text record of a domain. -/
def record (service : ScriptHash) (domain : String) : Chain String := do
  let top ← invokeTop service "resolve" [.string domain, .integer textRecord]
  let item ← outcome (firstRecord domain top)
  view item.text?

/-- The contract that is registered under a name. -/
def resolve (service : Service) (name : String) : Chain ScriptHash :=
  match service with
  | .absent => outcome (.error (.noNameService name))
  | .contract hash => do
    let domain := name ++ "." ++ zone
    let text ← during (.resolve domain) (record hash domain)
    outcome ((ScriptHash.parse text).mapError .hash)

end ChainGauge.Names
