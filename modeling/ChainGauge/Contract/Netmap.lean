import ChainGauge.Contract.Native

/-!
# The contract of the network map

The contract answers with lists of descriptors. An entry is a struct of the descriptor and a state,
or, for candidates, a struct whose first field is a struct around the descriptor and whose third is
the last epoch in which the candidate was active.
-/

namespace ChainGauge.NetmapContract

open Chain

/-- What the reader of the contract knows. -/
structure Reader where
  contract : ScriptHash
  /-- Whether the chain designates the keys of the inner ring for a role. -/
  notaryEnabled : Bool

/-- A word that must not be negative. -/
def natural (fault : Int → ShapeFault) (n : Int) : Except ChainError Nat :=
  if n < 0 then .error (.shape (fault n)) else .ok n.toNat

/-- A view of an item as a failure of chain access. -/
def viewed {α : Type} (r : Except StackItem.Fault α) : Except ChainError α :=
  r.mapError fun e => .shape (.view e)

/-- The first element of a list that must not be empty. -/
def firstOf (fault : ShapeFault) : List StackItem → Except ChainError StackItem
  | [] => .error (.shape fault)
  | item :: _ => .ok item

/-- The bytes of the descriptor in the first field of an entry. -/
def descriptorBytes : StackItem → Except ChainError Bytes
  | .struct fields | .array fields => do
    let item ← firstOf .emptyNode fields
    viewed item.bytes?
  | item => viewed item.bytes?

/-- The descriptor of an entry and the last active epoch, if the entry tells. -/
def readEntry (entry : StackItem) : Except ChainError (NodeInfo × Option Nat) := do
  let fields ← viewed entry.list?
  let blob ← descriptorBytes (← firstOf .emptyEntry fields)
  let info ← (NodeInfo.decode blob).mapError fun e => .shape (.descriptor e)
  match fields[2]? with
  | none => .ok (info, none)
  | some item => do
    let epoch ← natural (fun _ => .negativeCandidateEpoch) (← viewed item.int64?)
    .ok (info, some epoch)

/-- The node that a descriptor declares. -/
def nodeOf (info : NodeInfo) : Except ChainError Node :=
  (Node.ofInfo info).mapError (.nodeKey info.publicKey)

/-- The node of an entry. -/
def readNode (entry : StackItem) : Except ChainError Node := do
  let (info, _) ← readEntry entry
  nodeOf info

/-- The candidate of an entry. -/
def readCandidate (entry : StackItem) : Except ChainError Candidate := do
  let (info, lastActive) ← readEntry entry
  let node ← nodeOf info
  .ok ⟨node, lastActive⟩

/-- The key of an entry of the inner ring. -/
def readInnerRingKey (entry : StackItem) : Except ChainError PublicKey := do
  let raw ←
    match entry with
    | .struct fields | .array fields => do
      let item ← firstOf .emptyInnerRingNode fields
      viewed item.bytes?
    | item => viewed item.bytes?
  (PublicKey.ofBytes raw).mapError .key

namespace Reader

variable (r : Reader)

/-- The current epoch. -/
def epoch : Chain Nat := do
  let top ← invokeTop r.contract "epoch" []
  let n ← view top.int64?
  outcome (natural .negativeEpoch n)

/-- The entries that a method answers with. -/
def entries (method : String) : Chain (List StackItem) := do
  let top ← invokeTop r.contract method []
  view top.list?

/-- The current network map. -/
def netmap : Chain Netmap := do
  let epoch ← during .epoch r.epoch
  let entries ← during .netmap (r.entries "netmap")
  let nodes ← outcome (entries.mapM readNode)
  pure ⟨epoch, nodes⟩

/-- The candidates for the next epoch. -/
def candidates : Chain (List Candidate) := do
  let entries ← during .candidates (r.entries "netmapCandidates")
  outcome (entries.mapM readCandidate)

/-- The keys of the inner ring. -/
def innerRing : Chain (List PublicKey) :=
  during .innerRing <|
    if r.notaryEnabled then Role.designatedAlphabet
    else do
      let entries ← r.entries "innerRingList"
      outcome (entries.mapM readInnerRingKey)

end Reader

end ChainGauge.NetmapContract
