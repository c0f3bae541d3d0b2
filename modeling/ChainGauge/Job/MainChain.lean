import ChainGauge.Job.FsChain

/-!
# The scrape of the main chain

The designated alphabet with its balances, the balance of the storage network's contract, and
tracked tokens. The program runs this scrape or that of the storage network's chain.
-/

namespace ChainGauge

/-- What the scrape of the main chain is set up with. -/
structure MainChainJob where
  /-- The contract whose balance is the supply of the storage network. -/
  neofs : Option ScriptHash
  tokens : List TrackedToken

namespace MainChainJob

variable (job : MainChainJob) (listing : Listing)

/-- The step of the alphabet. -/
def alphabetStep : Scrape :=
  .ask .alphabet fun keys => Scrape.whenSome keys fun keys =>
    (publishAlphabet keys).andThen (publishBalances listing .alphabetBalance keys)

/-- The step of the supply. -/
def supplyStep : Scrape :=
  Scrape.whenSome job.neofs fun neofs =>
    .ask (.balance .gas neofs) fun x =>
      Scrape.whenSome x fun v => .put [.set .mainChainSupply [] v]

/-- The whole scrape. -/
def scrape (listing : Listing := .asEntered) : Scrape :=
  Scrape.inTurn [alphabetStep listing, job.supplyStep, trackTokens job.tokens]

end MainChainJob

/-- A scrape of one of the two chains. -/
inductive Job where
  | fsChain (job : FsChainJob)
  | mainChain (job : MainChainJob)

/-- The scrape. -/
def Job.scrape (job : Job) (listing : Listing := .asEntered) : Scrape :=
  match job with
  | .fsChain job => job.scrape listing
  | .mainChain job => job.scrape listing

end ChainGauge
