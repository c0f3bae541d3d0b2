import ChainGauge.Dialogue
import ChainGauge.Job.Tracker
import ChainGauge.Rpc.ChainError

/-!
# Resolving what to track

An entry of the configuration names a contract in one of several ways: by the name of one of the two
native tokens, by a name that the name service knows, or by a script hash in any of its forms. Every
entry becomes one task; the first entry that names no contract, or whose symbol cannot be read, fails
all of them. Accounts that are no script hash are left out.
-/

namespace ChainGauge

/-- An entry of the configuration. -/
structure TrackedEntry where
  contract : String
  label : String
  /-- Whether the total supply is tracked. -/
  total : Bool
  /-- The accounts whose balances are tracked. -/
  accounts : List String
  deriving DecidableEq, Repr, Inhabited

/-- Reads an entry; all but the contract may be left out. -/
def Json.readTrackedEntry : Json.Reader TrackedEntry := fun j => do
  let readAccounts := readArray readString
  let fs ← j.fields
    [.ofReader "contract" readString, .ofReader "label" readString,
     .ofReader "totalSupply" readBool, .ofReader "balanceOf" readAccounts]
  let contract ← required "contract" readString fs
  let label ← optional "label" readString "" fs
  let total ← optional "totalSupply" readBool false fs
  let accounts ← optional "balanceOf" readAccounts [] fs
  .ok ⟨contract, label, total, accounts⟩

namespace Tracking

/-- A question that resolving asks. -/
inductive Lookup where
  /-- The contract that the name service knows under a name. -/
  | resolve (name : String)
  /-- The symbol of a token. -/
  | symbol (token : ScriptHash)
  deriving DecidableEq

/-- What comes of a question. -/
abbrev Lookup.Reply : Lookup → Type
  | .resolve _ => Except ChainError ScriptHash
  | .symbol _ => Except ChainError String

/-- A dialogue that resolves something. -/
abbrev Resolving (α : Type) : Type :=
  ExceptT ChainError (Dialogue Lookup Lookup.Reply) α

/-- The native token of a name. -/
def native? (name : String) : Option ScriptHash :=
  match name with
  | "NEO" | "neo" => some .neo
  | "GAS" | "gas" => some .gas
  | _ => none

/-- The contract that a text names. -/
def contractOf (text : String) : Resolving ScriptHash :=
  match native? text with
  | some h => pure h
  | none => ExceptT.mk do
    let found : Except ChainError ScriptHash ← Dialogue.once (Lookup.resolve text)
    match found with
    | .ok h => pure (.ok h)
    -- Whatever the name service failed with, the text may still be a hash.
    | .error _ => pure ((ScriptHash.parse text).mapError (.trackedContract text))

/-- The symbol of an entry's token. -/
def symbolOf (text : String) (token : ScriptHash) : Resolving String :=
  ExceptT.mk do
    let found : Except ChainError String ← Dialogue.once (Lookup.symbol token)
    pure (found.mapError (.during (.symbol text)))

/-- The accounts that are script hashes. -/
def accountsOf (texts : List String) : List ScriptHash :=
  texts.filterMap fun s => (ScriptHash.parse s).toOption

/-- The task of an entry. -/
def task (entry : TrackedEntry) : Resolving TrackedToken := do
  let hash ← contractOf entry.contract
  let symbol ← symbolOf entry.contract hash
  pure ⟨symbol, hash, accountsOf entry.accounts, entry.total, entry.label⟩

/-- The tasks of all entries, in their order. -/
def tasks : List TrackedEntry → Resolving (List TrackedToken)
  | [] => pure []
  | entry :: rest => do
    let t ← task entry
    let ts ← tasks rest
    pure (t :: ts)

end Tracking

end ChainGauge
