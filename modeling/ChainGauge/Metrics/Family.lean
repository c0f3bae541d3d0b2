/-!
# Families of gauges

Everything that is exposed is a gauge of one of these families. A family has a name, a line of help
and the names of its labels; a family without labels holds one number, which is there from the
start. Which families are exposed depends on the chain that is watched.
-/

namespace ChainGauge

/-- The chain that is watched. -/
inductive ChainMode where
  | fsChain
  | mainChain
  deriving DecidableEq, Repr

/-- A family of gauges. -/
inductive Family where
  | version
  | alphabetPublicKey
  | tokenBalance
  | tokenSupply
  | netmap
  | netmapNew
  | netmapDropped
  | epoch
  | nodeBalance
  | nodeDeposit
  | nodeCapacity
  | totalCapacity
  | candidate
  | innerRingBalance
  | proxyBalance
  | fsChainSupply
  | alphabetDeposit
  | alphabetDivergence
  | containers
  | containerSize
  | containerObjects
  | chainHeight
  | chainState
  | alphabetBalance
  | mainChainSupply
  deriving DecidableEq, Repr

namespace Family

/-- All families. -/
def all : List Family :=
  [.version, .alphabetPublicKey, .tokenBalance, .tokenSupply, .netmap, .netmapNew,
    .netmapDropped, .epoch, .nodeBalance, .nodeDeposit, .nodeCapacity, .totalCapacity,
    .candidate, .innerRingBalance, .proxyBalance, .fsChainSupply, .alphabetDeposit,
    .alphabetDivergence, .containers, .containerSize, .containerObjects, .chainHeight,
    .chainState, .alphabetBalance, .mainChainSupply]

/-- What all names start with. -/
def space : String := "neo_exporter_"

/-- The name behind the common start. -/
def shortName : Family → String
  | .version => "version"
  | .alphabetPublicKey => "alphabet_public_key"
  | .tokenBalance => "nep_17_balance"
  | .tokenSupply => "nep_17_total_supply"
  | .netmap => "netmap"
  | .netmapNew => "netmap_new"
  | .netmapDropped => "netmap_dropped"
  | .epoch => "epoch"
  | .nodeBalance => "sn_balance"
  | .nodeDeposit => "sn_balance_notary"
  | .nodeCapacity => "sn_capacity"
  | .totalCapacity => "sn_capacity_total"
  | .candidate => "candidate_info"
  | .innerRingBalance => "ir_balance"
  | .proxyBalance => "proxy_balance"
  | .fsChainSupply => "fs_chain_supply"
  | .alphabetDeposit => "alphabet_balance_notary"
  | .alphabetDivergence => "alphabet_divergence"
  | .containers => "containers_number"
  | .containerSize => "container_size"
  | .containerObjects => "container_objects"
  | .chainHeight => "chain_height"
  | .chainState => "chain_state"
  | .alphabetBalance => "alphabet_balance"
  | .mainChainSupply => "main_chain_supply"

/-- The name of a family. -/
def name (f : Family) : String :=
  space ++ f.shortName

/-- The line of help. -/
def help : Family → String
  | .version => "Exporter version"
  | .alphabetPublicKey => "Alphabet public keys in chain"
  | .tokenBalance => "NEP-17 balance of contract and account"
  | .tokenSupply => "NEP-17 total supply of contract"
  | .netmap => "Locations where NeoFS storage nodes are located"
  | .netmapNew => "Amount of nodes that will be added to network in the next epoch"
  | .netmapDropped => "Amount of nodes that will be dropped from network in the next epoch"
  | .epoch => "Epoch number of NeoFS network"
  | .nodeBalance => "FS chain GAS amount of storage nodes"
  | .nodeDeposit => "FS chain notary balance of storage nodes"
  | .nodeCapacity => "Storage node capacity (GB)"
  | .totalCapacity => "Storage nodes total capacity (GB)"
  | .candidate => "Candidate node info"
  | .innerRingBalance => "FS chain GAS amount of inner ring nodes"
  | .proxyBalance => "FS chain GAS amount of proxy contract"
  | .fsChainSupply => "FS chain total supply of balance contract"
  | .alphabetDeposit => "FS chain notary balance of alphabet nodes"
  | .alphabetDivergence => "Alphabet keys present on one chain only"
  | .containers => "Number of available containers"
  | .containerSize => "Reported container size in bytes"
  | .containerObjects => "Reported number of objects in container"
  | .chainHeight => "Chain height in blocks"
  | .chainState => "Chain state hash in specific height"
  | .alphabetBalance => "Main chain GAS amount of alphabet nodes"
  | .mainChainSupply => "Main chain GAS amount of neofs contract"

/-- The names of the labels, in the order in which their values are given. -/
def labels : Family → List String
  | .version => ["version"]
  | .alphabetPublicKey | .nodeBalance | .nodeDeposit | .innerRingBalance | .alphabetDeposit
  | .alphabetBalance => ["key"]
  | .tokenBalance => ["label", "symbol", "contract", "account"]
  | .tokenSupply => ["label", "symbol", "contract"]
  | .netmap => ["location", "longitude", "latitude"]
  | .netmapNew | .netmapDropped | .epoch | .totalCapacity | .proxyBalance | .fsChainSupply
  | .containers | .mainChainSupply => []
  | .nodeCapacity => ["host", "key"]
  | .candidate => ["host", "last_active_epoch"]
  | .alphabetDivergence => ["chain", "key"]
  | .containerSize | .containerObjects => ["cid"]
  | .chainHeight => ["host"]
  | .chainState => ["host", "hash"]

/-- Whether the family is exposed when a chain is watched. -/
def isExposed : ChainMode → Family → Bool
  | _, .version | _, .alphabetPublicKey | _, .tokenBalance | _, .tokenSupply => true
  | mode, .alphabetBalance | mode, .mainChainSupply => mode = .mainChain
  | mode, _ => mode = .fsChain

end Family

end ChainGauge
