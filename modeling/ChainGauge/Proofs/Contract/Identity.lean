import ChainGauge.Proofs.Contract.Entries
import ChainGauge.Proofs.Node.Membership

/-!
# By what nodes are told apart

The identifier of a node is made from the bytes of the key as its descriptor has them, while its key
is the point that they encode. So what joins and leaves between two maps goes by the encodings of the
keys (`changes_by_encoding`): a key that stands in both maps is not reported if it has one encoding in
them, and a key that a candidate encodes in another way than the map does is reported twice, as joined
and as dropped (`reported_in_two_encodings`).
-/

namespace ChainGauge.NetmapContract

open Chain
open ChainGauge.Membership (IsLast IsLastBeyond joined dropped mem_joined mem_dropped)

variable {answer : (q : Query) → q.Reply} {r : Reader}

/-- The keys that entries hold, as their descriptors encode them. -/
def encodedKeys (items : List StackItem) : List Bytes :=
  items.filterMap fun item => (readEntry item).toOption.map (·.1.publicKey)

/-- A node has the key that bytes encode, and is told apart by the bytes. -/
structure Encoded (raw : Bytes) (n : Node) : Prop where
  key : PublicKey.ofBytes raw = .ok n.key
  id : n.id = Node.idOf raw

/-- All bytes that encode a key are the same. -/
def OneEncoding (k : PublicKey) (keys : List Bytes) : Prop :=
  ∀ a ∈ keys, ∀ b ∈ keys, PublicKey.ofBytes a = .ok k → PublicKey.ofBytes b = .ok k → a = b

section Encodings

variable {items : List StackItem} {nodes : List Node}

/-- The nodes of entries have the keys that the entries encode, in their order. -/
private theorem encoded_of_readNode
    (h : List.Forall₂ (fun item n => readNode item = .ok n) items nodes) :
    List.Forall₂ Encoded (encodedKeys items) nodes := by
  induction h with
  | nil => exact .nil
  | @cons item n items nodes hn _ ih =>
    obtain ⟨info, last, hentry, hinfo⟩ := readNode_eq_ok_iff.mp hn
    have hdeclared := Node.declared_of_ofInfo hinfo
    -- An item that a node was read from has a key, so none is left out.
    have hkeys : encodedKeys (item :: items) = info.publicKey :: encodedKeys items := by
      simp [encodedKeys, hentry, Except.toOption]
    rw [hkeys]
    exact .cons ⟨hdeclared.key, hdeclared.id⟩ ih

/-- A candidate's node is the node of its entry. -/
private theorem readNode_of_readCandidate {candidates : List Candidate}
    (h : List.Forall₂ (fun item c => readCandidate item = .ok c) items candidates) :
    List.Forall₂ (fun item n => readNode item = .ok n) items (candidates.map (·.node)) := by
  refine List.forall₂_map_right_iff.mpr (h.imp fun item c hc => ?_)
  obtain ⟨info, hentry, hnode⟩ := readCandidate_eq_ok_iff.mp hc
  exact readNode_eq_ok_iff.mpr ⟨info, c.lastActive, hentry, hnode⟩

/-- Lists that correspond have a partner for each entry. -/
private theorem exists_partner {α β : Type} {R : α → β → Prop} {xs : List α} {ys : List β}
    (h : List.Forall₂ R xs ys) {x : α} (hx : x ∈ xs) : ∃ y ∈ ys, R x y := by
  induction h with
  | nil => cases hx
  | cons hr _ ih =>
    rcases List.mem_cons.mp hx with rfl | hx
    · exact ⟨_, List.mem_cons_self, hr⟩
    · obtain ⟨y, hy, hr⟩ := ih hx
      exact ⟨y, List.mem_cons_of_mem _ hy, hr⟩

variable {keys : List Bytes} (h : List.Forall₂ Encoded keys nodes)
include h

/-- Every node that was read has a key that encodes its own. -/
private theorem exists_key_of_mem {n : Node} (hn : n ∈ nodes) : ∃ raw ∈ keys, Encoded raw n :=
  exists_partner h.flip hn

/-- An identifier is missing from nodes if no bytes of their keys make it. -/
private theorem isLastBeyond_encoded {n : Node} {others : List Node} :
    IsLastBeyond n nodes others ↔ IsLast n others ∧ ∀ raw ∈ keys, Node.idOf raw ≠ n.id := by
  refine and_congr_right fun _ => ⟨fun hnone raw hraw => ?_, fun hnone m hm => ?_⟩
  · obtain ⟨m, hm, hencoded⟩ := exists_partner h hraw
    rw [← hencoded.id]
    exact hnone m hm
  · obtain ⟨raw, hraw, hencoded⟩ := exists_key_of_mem h hm
    rw [hencoded.id]
    exact hnone raw hraw

/-- A key that both sides have in one encoding is not missing from either. -/
private theorem key_ne_of_isLastBeyond {k : PublicKey} {others : List Node} {otherKeys : List Bytes}
    (hothers : List.Forall₂ Encoded otherKeys others) (hone : OneEncoding k (keys ++ otherKeys))
    (hk : ∃ m ∈ nodes, m.key = k) {n : Node} (hn : IsLastBeyond n nodes others) : n.key ≠ k := by
  obtain ⟨hlast, hnone⟩ := (isLastBeyond_encoded h).mp hn
  obtain ⟨m, hm, hmk⟩ := hk
  obtain ⟨raw, hraw, hencoded⟩ := exists_key_of_mem h hm
  obtain ⟨other, hother, hencodedOther⟩ := exists_key_of_mem hothers hlast.mem
  intro hnk
  -- One encoding makes one identifier, so the other side has the node's identifier after all.
  have hsame : raw = other :=
    hone raw (List.mem_append_left _ hraw) other (List.mem_append_right _ hother)
      (hmk ▸ hencoded.key) (hnk ▸ hencodedOther.key)
  refine hnone raw hraw ?_
  rw [hsame, hencodedOther.id]

end Encodings

/-- What joins and leaves between a map and candidates that were read is told by the bytes that encode
the keys in their entries. -/
theorem changes_by_encoding (answer : (q : Query) → q.Reply) (r : Reader) {map : Netmap}
    {candidates : List Candidate} (hmap : r.netmap.heard answer = .ok map)
    (hcandidates : r.candidates.heard answer = .ok candidates) :
    ∃ current proposed : List StackItem,
      (r.entries "netmap").heard answer = .ok current ∧
      (r.entries "netmapCandidates").heard answer = .ok proposed ∧
      List.Forall₂ Encoded (encodedKeys current) map.nodes ∧
      List.Forall₂ Encoded (encodedKeys proposed) (candidates.map (·.node)) ∧
      (∀ n, n ∈ joined map.nodes (candidates.map (·.node)) ↔
        IsLast n (candidates.map (·.node)) ∧ ∀ raw ∈ encodedKeys current, Node.idOf raw ≠ n.id) ∧
      (∀ n, n ∈ dropped map.nodes (candidates.map (·.node)) ↔
        IsLast n map.nodes ∧ ∀ raw ∈ encodedKeys proposed, Node.idOf raw ≠ n.id) ∧
      ∀ k, OneEncoding k (encodedKeys current ++ encodedKeys proposed) →
        (∃ n ∈ map.nodes, n.key = k) → (∃ n ∈ candidates.map (·.node), n.key = k) →
        ∀ n ∈ joined map.nodes (candidates.map (·.node)) ++
          dropped map.nodes (candidates.map (·.node)), n.key ≠ k := by
  obtain ⟨-, current, hcurrent, hreadMap⟩ := Reader.heard_netmap_eq_ok_iff.mp hmap
  obtain ⟨proposed, hproposed, hreadCandidates⟩ := Reader.heard_candidates_eq_ok_iff.mp hcandidates
  have hnodes := encoded_of_readNode hreadMap
  have hothers := encoded_of_readNode (readNode_of_readCandidate hreadCandidates)
  refine ⟨current, proposed, hcurrent, hproposed, hnodes, hothers,
    fun n => mem_joined.trans (isLastBeyond_encoded hnodes),
    fun n => mem_dropped.trans (isLastBeyond_encoded hothers), ?_⟩
  intro k hone hinMap hinCandidates n hn
  -- Joining and leaving are each other's mirror image.
  rcases List.mem_append.mp hn with hjoined | hdropped
  · exact key_ne_of_isLastBeyond hnodes hothers hone hinMap (mem_joined.mp hjoined)
  · have hswapped : OneEncoding k (encodedKeys proposed ++ encodedKeys current) :=
      fun a ha b hb => hone a (List.mem_append.mpr (List.mem_append.mp ha).symm) b
        (List.mem_append.mpr (List.mem_append.mp hb).symm)
    exact key_ne_of_isLastBeyond hothers hnodes hswapped hinCandidates (mem_dropped.mp hdropped)

/-- The generator of the curve in its uncompressed form. -/
def uncompressedKey : Bytes :=
  [0x04, 0x6b, 0x17, 0xd1, 0xf2, 0xe1, 0x2c, 0x42, 0x47, 0xf8, 0xbc, 0xe6, 0xe5, 0x63, 0xa4, 0x40,
    0xf2, 0x77, 0x03, 0x7d, 0x81, 0x2d, 0xeb, 0x33, 0xa0, 0xf4, 0xa1, 0x39, 0x45, 0xd8, 0x98, 0xc2,
    0x96, 0x4f, 0xe3, 0x42, 0xe2, 0xfe, 0x1a, 0x7f, 0x9b, 0x8e, 0xe7, 0xeb, 0x4a, 0x7c, 0x0f, 0x9e,
    0x16, 0x2b, 0xce, 0x33, 0x57, 0x6b, 0x31, 0x5e, 0xce, 0xcb, 0xb6, 0x40, 0x68, 0x37, 0xbf, 0x51,
    0xf5]

/-- A chain in epoch 24 that has a node in its map and a candidate, each with an encoded key. -/
def answerKeys (current proposed : Bytes) : (q : Query) → q.Reply
  | .invoke _ "epoch" _ => .ok ⟨"HALT", none, [.integer 24], none⟩
  | .invoke _ "netmap" _ =>
    .ok ⟨"HALT", none, [.array [Entry.item ⟨⟨current, [], [], 1⟩, .integer 1, none⟩]], none⟩
  | .invoke _ "netmapCandidates" _ =>
    .ok ⟨"HALT", none, [.array [Entry.item ⟨⟨proposed, [], [], 1⟩, .integer 1, none⟩]], none⟩
  | _ => .error .noHealthyClient

/-- A node without attributes that has the generator as its key. -/
def generatorNode (id : Nat) : Node :=
  ⟨id, "", ⟨compressedKey, rfl⟩, [], none, none⟩

/-- Where the map and the candidates encode the key in one way, it is not reported. -/
theorem changes_by_encoding_compressed :
    ∃ current proposed : List StackItem,
      encodedKeys current = [compressedKey] ∧ encodedKeys proposed = [compressedKey] ∧
      ∀ n ∈ joined [generatorNode 6606772535459470365] [generatorNode 6606772535459470365] ++
          dropped [generatorNode 6606772535459470365] [generatorNode 6606772535459470365],
        n.key ≠ ⟨compressedKey, rfl⟩ := by
  have hmap : (⟨.roleManagement, true⟩ : Reader).netmap.heard
      (answerKeys compressedKey compressedKey) = .ok ⟨24, [generatorNode 6606772535459470365]⟩ :=
    Except.toOption_eq_some_iff.mp (by decide +kernel)
  have hcandidates : (⟨.roleManagement, true⟩ : Reader).candidates.heard
      (answerKeys compressedKey compressedKey) =
        .ok [⟨generatorNode 6606772535459470365, none⟩] :=
    Except.toOption_eq_some_iff.mp (by decide +kernel)
  have hkeys : encodedKeys [Entry.item ⟨⟨compressedKey, [], [], 1⟩, .integer 1, none⟩] =
      [compressedKey] := by decide +kernel
  obtain ⟨current, proposed, hcurrent, hproposed, -, -, -, -, hsame⟩ :=
    changes_by_encoding (answerKeys compressedKey compressedKey) ⟨.roleManagement, true⟩ hmap
      hcandidates
  -- The items that were read are those of the answers.
  cases Except.ok.inj hcurrent
  cases Except.ok.inj hproposed
  refine ⟨_, _, hkeys, hkeys, hsame ⟨compressedKey, rfl⟩ ?_ ⟨_, List.mem_singleton_self _, rfl⟩
    ⟨_, List.mem_singleton_self _, rfl⟩⟩
  rw [hkeys]
  intro a ha b hb _ _
  simp only [List.singleton_append, List.mem_cons, List.not_mem_nil, or_false, or_self] at ha hb
  rw [ha, hb]

/-- One key in two encodings is a node that joins and one that leaves. -/
theorem reported_in_two_encodings :
    (⟨.roleManagement, true⟩ : Reader).netmap.heard (answerKeys compressedKey uncompressedKey) =
        .ok ⟨24, [generatorNode 6606772535459470365]⟩ ∧
      (⟨.roleManagement, true⟩ : Reader).candidates.heard
        (answerKeys compressedKey uncompressedKey) =
          .ok [⟨generatorNode 7605430110363362116, none⟩] ∧
      joined [generatorNode 6606772535459470365] [generatorNode 7605430110363362116] =
        [generatorNode 7605430110363362116] ∧
      dropped [generatorNode 6606772535459470365] [generatorNode 7605430110363362116] =
        [generatorNode 6606772535459470365] :=
  ⟨Except.toOption_eq_some_iff.mp (by decide +kernel),
    Except.toOption_eq_some_iff.mp (by decide +kernel), by decide +kernel, by decide +kernel⟩

end ChainGauge.NetmapContract
