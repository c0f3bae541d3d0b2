import ChainGauge.Dialogue
import ChainGauge.Rpc.ChainError
import ChainGauge.Stack.Param

/-!
# Queries to a chain

The questions that a node of a chain answers, and dialogues that ask them and may fail.
-/

namespace ChainGauge

/-- A question to a node. -/
inductive Query where
  | version
  | blockCount
  | committee
  | nativeContracts
  | contractState (id : Int)
  /-- A read-only invocation of a contract's method. -/
  | invoke (contract : ScriptHash) (method : String) (params : List Param)
  /-- An invocation that answers with an iterator, all of whose items are wanted. -/
  | traverse (contract : ScriptHash) (method : String) (params : List Param) (pageSize : Nat)
  | stateHeight
  | stateRoot (height : Nat)
  deriving DecidableEq

/-- What a node answers. -/
abbrev Query.Value : Query → Type
  | .version => NodeVersion
  | .blockCount => Nat
  | .committee => List PublicKey
  | .nativeContracts => List ContractState
  | .contractState _ => ContractState
  | .invoke _ _ _ => Invocation
  | .traverse _ _ _ _ => List StackItem
  | .stateHeight => StateHeight
  | .stateRoot _ => Bytes

/-- What comes of a question. -/
abbrev Query.Reply (q : Query) : Type :=
  Except ChainError q.Value

/-- A dialogue with a chain that may fail. -/
abbrev Chain (α : Type) : Type :=
  ExceptT ChainError (Dialogue Query Query.Reply) α

namespace Chain

/-- Asks a question. -/
def query (q : Query) : Chain q.Value :=
  ExceptT.mk (.once q)

/-- A result that needs no question. -/
def outcome {α : Type} (r : Except ChainError α) : Chain α :=
  ExceptT.mk (.done r)

/-- A view of a stack item. -/
def view {α : Type} (r : Except StackItem.Fault α) : Chain α :=
  outcome (r.mapError fun e => .shape (.view e))

/-- Reports failures under the name of a step. -/
def during {α : Type} (step : Step) (c : Chain α) : Chain α :=
  ExceptT.mk do
    let r ← c.run
    pure (r.mapError (.during step))

/-- Invokes a method and takes the item on top of its stack. -/
def invokeTop (contract : ScriptHash) (method : String) (params : List Param) : Chain StackItem := do
  let r ← query (.invoke contract method params)
  outcome (r.top.mapError .invocation)

end Chain

end ChainGauge
