import ChainGauge.Contract.Container
import ChainGauge.Contract.Netmap
import ChainGauge.Contract.Token
import ChainGauge.Job.Scrape

/-!
# Where a scrape gets its answers

The questions of a scrape are dialogues with chains: with one node of the watched chain, with one
node of the main chain, or with every node of the watched chain that is reached. What fails counts as
no answer.
-/

namespace ChainGauge

/-- A query with whom it is meant for. -/
inductive Reach where
  /-- One node of the watched chain. -/
  | watched (q : Query)
  /-- One node of the main chain beside the watched one. -/
  | main (q : Query)
  /-- Every node of the watched chain. -/
  | everywhere (q : Query)

/-- What comes of a query: for every node the value it gave, under the node's address. -/
abbrev Reach.Answer : Reach → Type
  | .watched q | .main q => q.Reply
  | .everywhere q => List (String × q.Value)

/-- The readers of a scrape. -/
structure Sources where
  netmap : NetmapContract.Reader
  containers : ScriptHash
  /-- The alphabet of the watched chain. -/
  alphabet : Chain (List PublicKey)

namespace Sources

/-- A dialogue that remembers the decimals of tokens. -/
abbrev Reading (α : Type) : Type :=
  StateT Token.Decimals (Dialogue Reach Reach.Answer) α

/-- Has a dialogue with one node of a chain. -/
def converse {α : Type} (reach : (q : Query) → Dialogue Reach Reach.Answer q.Reply) (c : Chain α) :
    Reading (Option α) := fun known => do
  let r ← c.run.hold reach
  pure (r.toOption, known)

/-- Has a dialogue with the watched chain. -/
def watched {α : Type} (c : Chain α) : Reading (Option α) :=
  converse (fun q => Dialogue.once (Reach.watched q)) c

/-- Reads an amount of a token. -/
def amount (c : Token.Reading Float) : Reading (Option Float) := fun known => do
  let (r, known) ← (c known).hold fun q => Dialogue.once (Q := Reach) (A := Reach.Answer) (.watched q)
  pure (r.toOption, known)

/-- The text of a state root. -/
def rootText (root : Bytes) : String :=
  "0x" ++ Hex.encode root

variable (s : Sources)

/-- Answers a question of a scrape. -/
def answer : (source : Source) → Reading source.Answer
  | .netmap => watched s.netmap.netmap
  | .candidates => watched s.netmap.candidates
  | .innerRing => watched s.netmap.innerRing
  | .alphabet => watched s.alphabet
  | .mainAlphabet => converse (fun q => Dialogue.once (Reach.main q)) Role.mainAlphabet
  | .balance token account => amount (Token.balance token account)
  | .supply token => amount (Token.totalSupply token)
  | .deposit account => watched (Token.notaryDeposit account)
  | .containerTotal => watched (ContainerContract.total s.containers)
  | .containerUsages => watched (ContainerContract.usages s.containers)
  | .heights => fun known => do
    let hs : List (String × StateHeight) ← Dialogue.once (Reach.everywhere .stateHeight)
    pure (hs.map fun (host, h) => (host, h.computed), known)
  | .roots height => fun known => do
    let rs : List (String × Bytes) ← Dialogue.once (Reach.everywhere (.stateRoot height))
    pure (rs.map fun (host, r) => (host, rootText r), known)

end Sources

end ChainGauge
