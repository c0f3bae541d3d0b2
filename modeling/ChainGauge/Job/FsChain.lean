import ChainGauge.Job.Tracker
import ChainGauge.Locode
import ChainGauge.Node.Membership
import ChainGauge.Number.DecimalText
import ChainGauge.Number.Binary64

/-!
# The scrape of the storage network's chain

The steps run one after another, and each one publishes only when all it needs has been read: a step
whose source does not answer leaves its gauges as they are, and one that publishes replaces them,
leaving out the entities whose own lookup failed.
-/

namespace ChainGauge

open Update (replacing)

/-- What the scrape of the storage network's chain is set up with. -/
structure FsChainJob where
  /-- The contract whose total supply is that of the chain. -/
  balance : ScriptHash
  proxy : Option ScriptHash
  /-- Whether the alphabet is compared with that of the main chain. -/
  comparesAlphabets : Bool
  geo : Option LocodeTable
  tokens : List TrackedToken

namespace FsChainJob

variable (job : FsChainJob) (listing : Listing)

/-- A location as it is published: its name, longitude and latitude. -/
abbrev Place := String × String × String

/-- What was looked up for a node. -/
structure NodeReport where
  key : String
  gas : Option Float
  deposit : Option Float
  place : Option Place

/-- The place of a node, if its code has a position. -/
def placeOf (n : Node) : Option Place := do
  let geo ← job.geo
  let code ← n.locode
  let p ← (geo.find code).toOption
  some (p.location, DecimalText.fixed 4 p.longitude, DecimalText.fixed 4 p.latitude)

/-- Looks up what belongs to a node. -/
def inspect (n : Node) (next : NodeReport → Scrape) : Scrape :=
  .ask (.balance .gas n.key.account) fun gas =>
    .ask (.deposit n.key.account) fun deposit =>
      next ⟨n.key.toHex, gas, deposit, job.placeOf n⟩

/-- The capacity of a node in gigabytes; zero where it declares none. -/
def capacityOf (n : Node) : Float :=
  Binary64.nearestNat (n.capacity.getD 0)

/-- The entries for the capacities of nodes. -/
def capacityEntries (nodes : List Node) : List Entry :=
  nodes.map fun n => ([n.address, n.key.toHex], capacityOf n)

/-- The changes that publish the capacities of nodes. -/
def capacityUpdates (nodes : List Node) : List Update :=
  replacing .nodeCapacity (capacityEntries nodes) ++
    [.set .totalCapacity [] ((nodes.map capacityOf).foldl (· + ·) 0)]

/-- The changes that publish the epoch and the numbers of nodes that come and go. -/
def membershipUpdates (nm : Netmap) (candidates : List Candidate) : List Update :=
  let next := candidates.map (·.node)
  [.set .epoch [] (Binary64.nearestNat nm.epoch),
    .set .netmapDropped [] (Binary64.nearestNat (Membership.dropped nm.nodes next).length),
    .set .netmapNew [] (Binary64.nearestNat (Membership.joined nm.nodes next).length)]

/-- Counts one more node at a place. -/
def countPlace (p : Place) (counts : List (Place × Nat)) : List (Place × Nat) :=
  Table.alter p (fun n => n.getD 0 + 1) counts

/-- The number of nodes at each place. -/
def placeCounts (places : List Place) : List (Place × Nat) :=
  places.foldl (fun acc p => countPlace p acc) []

/-- The labels of a place. -/
def placeLabels (p : Place) : List String :=
  [p.1, p.2.1, p.2.2]

/-- The entry for a number of nodes at a place. -/
def placeEntry (e : Place × Nat) : Entry :=
  (placeLabels e.1, Binary64.nearestNat e.2)

/-- The entries for how many nodes are where. -/
def placeEntries (reports : List NodeReport) : List Entry :=
  (placeCounts (reports.filterMap (·.place))).map placeEntry

/-- The entries for the balances of nodes. -/
def balanceEntries (reports : List NodeReport) : List Entry :=
  reports.filterMap fun r => r.gas.map fun x => ([r.key], x)

/-- The entries for the deposits of nodes. -/
def depositEntries (reports : List NodeReport) : List Entry :=
  reports.filterMap fun r => r.deposit.map fun x => ([r.key], x)

/-- The labels of a candidate, if it carries an epoch. -/
def candidateLabels? (c : Candidate) : Option (List String) :=
  c.lastActive.map fun epoch => [c.node.address, toString epoch]

/-- The entries for when candidates were last active. -/
def candidateEntries (candidates : List Candidate) : List Entry :=
  (candidates.filterMap candidateLabels?).map (·, 1)

/-- The changes that publish a network map with its candidates and what was looked up for its
nodes. -/
def netmapUpdates (listing : Listing) (nm : Netmap) (candidates : List Candidate)
    (reports : List NodeReport) : List Update :=
  capacityUpdates nm.nodes ++ membershipUpdates nm candidates ++
    replacing .netmap (listing.order .netmap (placeEntries reports)) ++
    replacing .nodeBalance (balanceEntries reports) ++
    replacing .nodeDeposit (depositEntries reports) ++
    replacing .candidate (candidateEntries candidates)

/-- Publishes a network map with its candidates. -/
def publishNetmap (nm : Netmap) (candidates : List Candidate) : Scrape :=
  -- All lookups come before the first change, so the families change together or not at all.
  Scrape.askEach nm.nodes job.inspect fun reports =>
    .put (netmapUpdates listing nm candidates reports)

/-- The step of the network map. -/
def netmapStep : Scrape :=
  .ask .netmap fun nm => Scrape.whenSome nm fun nm =>
    .ask .candidates fun cs => Scrape.whenSome cs fun cs => job.publishNetmap listing nm cs

/-- The step of the inner ring. -/
def innerRingStep : Scrape :=
  .ask .innerRing fun keys => Scrape.whenSome keys (publishBalances listing .innerRingBalance)

/-- The step of the proxy contract. -/
def proxyStep : Scrape :=
  Scrape.whenSome job.proxy fun proxy =>
    .ask (.balance .gas proxy) fun x => Scrape.whenSome x fun v => .put [.set .proxyBalance [] v]

/-- The step of the chain's supply. -/
def supplyStep : Scrape :=
  .ask (.supply job.balance) fun x => Scrape.whenSome x fun v => .put [.set .fsChainSupply [] v]

/-- The entries for the keys of one alphabet only. -/
def divergenceEntries (main fs : List PublicKey) : List Entry :=
  let (onlyMain, onlyFs) :=
    Membership.unique (PublicKey.sortedHex main) (PublicKey.sortedHex fs)
  onlyMain.map (fun k => (["main", k], 1)) ++ onlyFs.map fun k => (["fs", k], 1)

/-- The changes that publish the keys of one alphabet only. -/
def divergenceUpdates (main fs : List PublicKey) : List Update :=
  replacing .alphabetDivergence (divergenceEntries main fs)

/-- Compares the alphabet with that of the main chain. -/
def divergenceStep (fs : List PublicKey) : Scrape :=
  if job.comparesAlphabets then
    .ask .mainAlphabet fun main =>
      Scrape.whenSome main fun main => .put (divergenceUpdates main fs)
  else .done

/-- The step of the alphabet. -/
def alphabetStep : Scrape :=
  .ask .alphabet fun keys => Scrape.whenSome keys fun keys =>
    Scrape.inTurn
      [publishAlphabet keys, publishDeposits listing .alphabetDeposit keys,
        job.divergenceStep keys]

/-- The step of the number of containers. -/
def containerTotalStep : Scrape :=
  .ask .containerTotal fun n =>
    Scrape.whenSome n fun n => .put [.set .containers [] (Binary64.nearestNat n)]

/-- The entries for the sizes of containers. -/
def sizeEntries (usages : List ContainerUsage) : List Entry :=
  usages.map fun u => ([u.id], Binary64.nearestNat u.size)

/-- The entries for the numbers of objects in containers. -/
def objectEntries (usages : List ContainerUsage) : List Entry :=
  usages.map fun u => ([u.id], Binary64.nearestNat u.objects)

/-- The changes that publish the usage of containers. -/
def usageUpdates (usages : List ContainerUsage) : List Update :=
  replacing .containerSize (sizeEntries usages) ++
    replacing .containerObjects (objectEntries usages)

/-- The step of the usage of containers. -/
def containerUsageStep : Scrape :=
  .ask .containerUsages fun us => Scrape.whenSome us fun us => .put (usageUpdates us)

/-- The lowest height that is not zero. -/
def lowest? (heights : List (String × Nat)) : Option Nat :=
  ((heights.map (·.2)).filter (0 < ·)).min?

/-- The entries for the heights of hosts. -/
def heightEntries (heights : List (String × Nat)) : List Entry :=
  heights.map fun (host, n) => ([host], Binary64.nearestNat n)

/-- The entries for the state roots of hosts at a height. -/
def rootEntries (height : Nat) (roots : List (String × String)) : List Entry :=
  roots.map fun (host, root) => ([host, root], Binary64.nearestNat height)

/-- Publishes the state roots at a height, if any host tells one. -/
def rootStep (height : Nat) : Scrape :=
  .ask (.roots height) fun roots =>
    if roots.isEmpty then .done else .put (replacing .chainState (rootEntries height roots))

/-- The step of heights and state roots, which are compared at the lowest height. -/
def heightStep : Scrape :=
  .ask .heights fun heights =>
    if heights.isEmpty then .done
    else .publish (replacing .chainHeight (heightEntries heights))
      (Scrape.whenSome (lowest? heights) rootStep)

/-- The whole scrape. -/
def scrape (listing : Listing := .asEntered) : Scrape :=
  Scrape.inTurn
    [job.netmapStep listing, innerRingStep listing, job.proxyStep, job.supplyStep,
      job.alphabetStep listing, containerTotalStep, containerUsageStep, heightStep,
      trackTokens job.tokens]

end FsChainJob

end ChainGauge
