import ChainGauge.Proofs.Contract.Heard
import ChainGauge.Proofs.Node.Declared
import ChainGauge.Proofs.Wire.NodeInfo

/-!
# The network map inverts the contract's encoding

The contract holds a descriptor in the wire format, within a struct of one of two shapes
(`Entry.item`). An entry of either shape gives back its descriptor and its epoch (`readEntry_item`).
So both readers of the network map give one node for each entry, in their order, and the candidates
also the epochs; each node is what its descriptor declares (`nodes_of_entries`).
-/

namespace ChainGauge.NetmapContract

open Chain

/-- A descriptor that the contract can hold: its key is one, its state has thirty-two bits, and a word
can tell its length. -/
structure Storable (info : NodeInfo) : Prop where
  key : ∃ k, PublicKey.ofBytes info.publicKey = .ok k
  low : -0x80000000 ≤ info.state
  high : info.state < 0x80000000
  fits : info.encode.length < 0x10000000000000000

/-- An entry of the contract. -/
structure Entry where
  info : NodeInfo
  state : StackItem
  /-- The last epoch in which a candidate was active. -/
  lastActive : Option Nat

/-- The item that holds an entry; it has another shape if it tells an epoch. -/
def Entry.item (x : Entry) : StackItem :=
  match x.lastActive with
  | none => .struct [.byteString x.info.encode, x.state]
  | some epoch => .struct [.struct [.byteString x.info.encode], x.state, .integer epoch]

/-- An entry with a descriptor and an epoch that the contract can hold. -/
structure Entry.Valid (x : Entry) : Prop where
  info : Storable x.info
  lastActive : ∀ epoch ∈ x.lastActive, epoch < 0x8000000000000000

variable {answer : (q : Query) → q.Reply} {r : Reader}

/-- A number of sixty-three bits is its own view. -/
private theorem int64?_integer {n : Nat} (h : n < 0x8000000000000000) :
    (StackItem.integer n).int64? = .ok (n : Int) := by
  simp only [StackItem.int64?, StackItem.integer?]
  split
  · rfl
  · omega

/-- An entry that is written is read. -/
theorem readEntry_item {x : Entry} (h : x.Valid) : readEntry x.item = .ok (x.info, x.lastActive) := by
  obtain ⟨info, state, lastActive⟩ := x
  have hinfo : NodeInfo.decode info.encode = .ok info :=
    NodeInfo.decode_encode h.info.fits h.info.low h.info.high
  refine readEntry_eq_ok_iff.mpr ?_
  cases lastActive with
  | none => exact ⟨_, rfl, .byteString info.encode, rfl, _, rfl, hinfo, rfl⟩
  | some epoch =>
    have hepoch := int64?_integer (h.lastActive epoch rfl)
    exact ⟨_, rfl, .struct [.byteString info.encode], rfl, _, rfl, hinfo, .integer epoch, rfl, hepoch⟩

/-- An entry reads, and a node is what its descriptor declares. -/
def Entry.Gives (x : Entry) (n : Node) : Prop :=
  readEntry x.item = .ok (x.info, x.lastActive) ∧ Node.ofInfo x.info = .ok n

/-- Every entry gives a node. -/
private theorem exists_nodes {entries : List Entry} (h : ∀ x ∈ entries, x.Valid) :
    ∃ nodes, List.Forall₂ Entry.Gives entries nodes := by
  induction entries with
  | nil => exact ⟨[], .nil⟩
  | cons x entries ih =>
    obtain ⟨hx, hentries⟩ := List.forall_mem_cons.mp h
    obtain ⟨k, hk⟩ := hx.info.key
    obtain ⟨n, hn⟩ := Node.ofInfo_of_key hk
    obtain ⟨nodes, hnodes⟩ := ih hentries
    exact ⟨n :: nodes, .cons ⟨readEntry_item hx, hn⟩ hnodes⟩

section Nodes

variable {entries : List Entry} {nodes : List Node}
  (h : List.Forall₂ Entry.Gives entries nodes)
include h

/-- The reader of the map reads every entry as its node. -/
private theorem readNode_items :
    List.Forall₂ (fun item n => readNode item = .ok n) (entries.map Entry.item) nodes :=
  List.forall₂_map_left_iff.mpr (h.imp fun _ _ hgives => readNode_eq_ok_iff.mpr ⟨_, _, hgives⟩)

/-- The reader of candidates reads every entry as its node with the epoch that it carries. -/
private theorem readCandidate_items :
    List.Forall₂ (fun item c => readCandidate item = .ok c) (entries.map Entry.item)
      (List.zipWith (fun x n => ⟨n, x.lastActive⟩) entries nodes) := by
  induction h with
  | nil => exact .nil
  | cons hgives _ ih => exact .cons (readCandidate_eq_ok_iff.mpr ⟨_, hgives⟩) ih

end Nodes

/-- Whatever entries the contract holds: where it answers with them, both readers give the node of each
one in turn. -/
theorem nodes_of_entries (answer : (q : Query) → q.Reply) (r : Reader) (entries : List Entry)
    (h : ∀ x ∈ entries, x.Valid) :
    ∃ nodes : List Node,
      List.Forall₂ (fun x n => Node.ofInfo x.info = .ok n ∧ n.Declared x.info) entries nodes ∧
      (∀ epoch : Nat, epoch < 0x8000000000000000 →
        Leaves answer r.contract "epoch" (.integer epoch) →
        Leaves answer r.contract "netmap" (.array (entries.map Entry.item)) →
        r.netmap.heard answer = .ok ⟨epoch, nodes⟩) ∧
      (Leaves answer r.contract "netmapCandidates" (.array (entries.map Entry.item)) →
        r.candidates.heard answer =
          .ok (List.zipWith (fun x n => ⟨n, x.lastActive⟩) entries nodes)) := by
  -- The nodes do not depend on who reads them.
  obtain ⟨nodes, hnodes⟩ := exists_nodes h
  refine ⟨nodes, hnodes.imp fun x n hn => ⟨hn.2, Node.declared_of_ofInfo hn.2⟩, ?_, ?_⟩
  · intro epoch hfits hepoch hnetmap
    have he : r.epoch.heard answer = .ok epoch :=
      Reader.heard_epoch_eq_ok_iff.mpr ⟨_, hepoch, int64?_integer hfits⟩
    have hitems : (r.entries "netmap").heard answer = .ok (entries.map Entry.item) :=
      Reader.heard_entries_eq_ok_iff.mpr ⟨_, hnetmap, rfl⟩
    exact Reader.heard_netmap_eq_ok_iff.mpr ⟨he, _, hitems, readNode_items hnodes⟩
  · intro hcandidates
    have hitems : (r.entries "netmapCandidates").heard answer = .ok (entries.map Entry.item) :=
      Reader.heard_entries_eq_ok_iff.mpr ⟨_, hcandidates, rfl⟩
    exact Reader.heard_candidates_eq_ok_iff.mpr ⟨_, hitems, readCandidate_items hnodes⟩

/-- The generator of the curve in its compressed form. -/
def compressedKey : Bytes :=
  [0x03, 0x6b, 0x17, 0xd1, 0xf2, 0xe1, 0x2c, 0x42, 0x47, 0xf8, 0xbc, 0xe6, 0xe5, 0x63, 0xa4, 0x40,
    0xf2, 0x77, 0x03, 0x7d, 0x81, 0x2d, 0xeb, 0x33, 0xa0, 0xf4, 0xa1, 0x39, 0x45, 0xd8, 0x98, 0xc2,
    0x96]

/-- A descriptor with an address that names no host, and with an attribute that is given twice. -/
def renewedInfo : NodeInfo where
  publicKey := compressedKey
  addresses := ["ftp://10.0.0.1:21", "/ip4/10.0.0.1/tcp/8080"]
  attributes := [⟨"Capacity", "7", []⟩, ⟨"Capacity", "9", ["Country"]⟩]
  state := -1

/-- The descriptor in both shapes. -/
def renewed : List Entry :=
  [⟨renewedInfo, .integer (-1), none⟩, ⟨renewedInfo, .integer (-1), some 23⟩]

/-- A chain in epoch 24 that has the entries in all of its lists. -/
def answerRenewed : (q : Query) → q.Reply
  | .invoke _ "epoch" _ => .ok ⟨"HALT", none, [.integer 24], none⟩
  | .invoke _ _ _ => .ok ⟨"HALT", none, [.array (renewed.map Entry.item)], none⟩
  | _ => .error .noHealthyClient

/-- The contract can hold the descriptor. -/
theorem storable_renewedInfo : Storable renewedInfo where
  key := ⟨⟨compressedKey, rfl⟩, by decide +kernel⟩
  low := by decide
  high := by decide
  fits := by decide +kernel

/-- Both readers give the node of a descriptor whose contract was renewed. -/
theorem nodes_of_entries_renewed :
    ∃ nodes : List Node,
      List.Forall₂ (fun x n => Node.ofInfo x.info = .ok n ∧ n.Declared x.info) renewed nodes ∧
      (⟨.roleManagement, true⟩ : Reader).netmap.heard answerRenewed = .ok ⟨24, nodes⟩ ∧
      (⟨.roleManagement, true⟩ : Reader).candidates.heard answerRenewed =
        .ok (List.zipWith (fun x n => ⟨n, x.lastActive⟩) renewed nodes) := by
  have hvalid : ∀ x ∈ renewed, x.Valid := by
    intro x hx
    simp only [renewed, List.mem_cons, List.not_mem_nil, or_false] at hx
    rcases hx with rfl | rfl
    · exact ⟨storable_renewedInfo, by simp⟩
    · exact ⟨storable_renewedInfo, by simp⟩
  obtain ⟨nodes, hnodes, hnetmap, hcandidates⟩ :=
    nodes_of_entries answerRenewed ⟨.roleManagement, true⟩ renewed hvalid
  exact ⟨nodes, hnodes, hnetmap 24 (by decide) ⟨_, rfl, rfl⟩ ⟨_, rfl, rfl⟩,
    hcandidates ⟨_, rfl, rfl⟩⟩

end ChainGauge.NetmapContract
