import ChainGauge.Job.Scrape

/-!
# Tracked tokens

A task tracks a token: the balances of some accounts and, if wanted, the total supply. What is
published is only ever replaced, never removed.
-/

namespace ChainGauge

open Update (replacing)

/-- What to track of a token. -/
structure TrackedToken where
  symbol : String
  hash : ScriptHash
  accounts : List ScriptHash
  /-- Whether the total supply is tracked. -/
  total : Bool
  label : String
  deriving DecidableEq

namespace TrackedToken

variable (t : TrackedToken)

/-- Publishes the balance of an account. -/
def balanceOf (account : ScriptHash) : Scrape :=
  .ask (.balance t.hash account) fun answer =>
    Scrape.whenSome answer fun x =>
      .put [.set .tokenBalance [t.label, t.symbol, t.hash.toHex, account.toAddress] x]

/-- Publishes the total supply. -/
def supply : Scrape :=
  .ask (.supply t.hash) fun answer =>
    Scrape.whenSome answer fun x =>
      .put [.set .tokenSupply [t.label, t.symbol, t.hash.toHex] x]

/-- Publishes all that is tracked of a token. -/
def scrape : Scrape :=
  (Scrape.inTurn (t.accounts.map t.balanceOf)).andThen (if t.total then t.supply else .done)

end TrackedToken

/-- Publishes all that is tracked. -/
def trackTokens (tasks : List TrackedToken) : Scrape :=
  Scrape.inTurn (tasks.map TrackedToken.scrape)

/-- The entries for the keys of an alphabet. -/
def alphabetEntries (keys : List PublicKey) : List Entry :=
  keys.map fun k => ([k.toHex], 1)

/-- Publishes the keys of an alphabet. -/
def publishAlphabet (keys : List PublicKey) : Scrape :=
  .put (replacing .alphabetPublicKey (alphabetEntries keys))

/-- The entries for keys with what was looked up for them: those with an answer. -/
def keyEntries (found : List (PublicKey × Option Float)) : List Entry :=
  found.filterMap fun (k, x) => x.map fun v => ([k.toHex], v)

/-- Looks something up for the account of each key and then publishes what was found, from a table
that keeps the last answer for a key. -/
def publishPerKey (listing : Listing) (family : Family) (source : ScriptHash → Source)
    (cast : (a : ScriptHash) → (source a).Answer → Option Float) (keys : List PublicKey) :
    Scrape :=
  Scrape.askEach keys (fun k next => .ask (source k.account) fun x => next (cast k.account x))
    fun found =>
      .put (replacing family (listing.order family (Table.latest (keyEntries (keys.zip found)))))

/-- Publishes the fee token's balances of the accounts of keys. -/
def publishBalances (listing : Listing) (family : Family) (keys : List PublicKey) : Scrape :=
  publishPerKey listing family (.balance .gas) (fun _ x => x) keys

/-- Publishes the notary deposits of the accounts of keys. -/
def publishDeposits (listing : Listing) (family : Family) (keys : List PublicKey) : Scrape :=
  publishPerKey listing family .deposit (fun _ x => x) keys

end ChainGauge
