import ChainGauge.Number.Binary64
import ChainGauge.Rpc.Query

/-!
# Tokens

A token contract counts in the smallest parts of its unit and tells how many decimals a unit has.
The reader remembers the decimals of each token once it has read them, so that all amounts of one
token are scaled alike. Deposits with the notary contract are always counted with eight decimals.
-/

namespace ChainGauge.Token

open Chain

/-- The decimals of the tokens that have been read, the earliest last. -/
abbrev Decimals := List (ScriptHash × Nat)

/-- A dialogue of the reader: its result and what it remembers afterwards. -/
abbrev Reading (α : Type) : Type :=
  StateT Decimals (Dialogue Query Query.Reply) (Except ChainError α)

/-- A reading that remembers nothing new. -/
def Reading.ofChain {α : Type} (c : Chain α) : Reading α := fun known => do
  let r ← c.run
  pure (r, known)

/-- Asks a token for its decimals, a word of thirty-two bits without a sign. -/
def askDecimals (token : ScriptHash) : Chain Nat := do
  let top ← invokeTop token "decimals" []
  let n ← view top.int64?
  outcome <|
    if 0 ≤ n ∧ n < 0x100000000 then .ok n.toNat else .error (.shape (.decimals n token))

/-- The decimals of a token, asked for unless they are known. -/
def decimals (token : ScriptHash) : Reading Nat := fun known =>
  match known.lookup token with
  | some d => pure (.ok d, known)
  | none => do
    match ← (askDecimals token).run with
    | .error e => pure (.error e, known)
    | .ok d => pure (.ok d, (token, d) :: known)

/-- Asks a token for a count. -/
def askCount (token : ScriptHash) (method : String) (params : List Param) : Chain Int := do
  let top ← invokeTop token method params
  view top.integer?

/-- The amount in units that a method answers with. -/
def amount (token : ScriptHash) (method : String) (params : List Param) : Reading Float :=
  fun known => do
    match ← (askCount token method params).run with
    | .error e => pure (.error e, known)
    -- The decimals are asked for behind the count, and not at all where there is none.
    | .ok count =>
      let (r, known) ← decimals token known
      pure (r.map (Amount.scale count), known)

/-- The balance of an account. -/
def balance (token account : ScriptHash) : Reading Float :=
  amount token "balanceOf" [.hash account]

/-- The total supply of a token. -/
def totalSupply (token : ScriptHash) : Reading Float :=
  amount token "totalSupply" []

/-- The symbol of a token. -/
def symbol (token : ScriptHash) : Chain String := do
  let top ← invokeTop token "symbol" []
  view top.text?

/-- The decimals of notary deposits. -/
def notaryDecimals : Nat := 8

/-- The notary deposit of an account. -/
def notaryDeposit (account : ScriptHash) : Chain Float := do
  let count ← askCount .notary "balanceOf" [.hash account]
  pure (Amount.scale count notaryDecimals)

end ChainGauge.Token
