import ChainGauge.Proofs.Contract.Entries

/-!
# The readers of the map and of the candidates agree

Both readers go through a list of entries and give up at the first one that they cannot read. What
is wrong with an entry is told without them (`Refused`), by the steps in which it is taken apart; an
entry is refused by both readers for the same fault or read by both as the same node
(`readNode_eq_error_iff`, `readCandidate_eq_error_iff`). So where a chain answers both with the same
entries, they give the same nodes or the same fault (`readers_agree`).
-/

namespace ChainGauge.NetmapContract

open Chain

/-- Why an entry gives no node. Each fault stands behind what has to be right before it, so an entry
has at most one. -/
inductive Refused (entry : StackItem) : ChainError → Prop where
  | noList {e : StackItem.Fault} (h : entry.list? = .error e) : Refused entry (.shape (.view e))
  | empty (h : entry.list? = .ok []) : Refused entry (.shape .emptyEntry)
  /-- The first field holds no bytes. -/
  | noBlob {first : StackItem} {rest : List StackItem} {e : ChainError}
    (fields : entry.list? = .ok (first :: rest)) (h : descriptorBytes first = .error e) :
    Refused entry e
  /-- The bytes are no descriptor. -/
  | descriptor {first : StackItem} {rest : List StackItem} {blob : Bytes} {e : Wire.Fault}
    (fields : entry.list? = .ok (first :: rest)) (held : descriptorBytes first = .ok blob)
    (h : NodeInfo.decode blob = .error e) : Refused entry (.shape (.descriptor e))
  /-- The third field is no word of sixty-four bits. -/
  | noEpoch {first item : StackItem} {rest : List StackItem} {blob : Bytes} {info : NodeInfo}
    {e : StackItem.Fault} (fields : entry.list? = .ok (first :: rest))
    (held : descriptorBytes first = .ok blob) (decoded : NodeInfo.decode blob = .ok info)
    (third : (first :: rest)[2]? = some item) (h : item.int64? = .error e) :
    Refused entry (.shape (.view e))
  | negativeEpoch {first item : StackItem} {rest : List StackItem} {blob : Bytes} {info : NodeInfo}
    {n : Int} (fields : entry.list? = .ok (first :: rest))
    (held : descriptorBytes first = .ok blob) (decoded : NodeInfo.decode blob = .ok info)
    (third : (first :: rest)[2]? = some item) (word : item.int64? = .ok n) (h : n < 0) :
    Refused entry (.shape .negativeCandidateEpoch)
  /-- The key in the descriptor is none. -/
  | key {info : NodeInfo} {last : Option Nat} {e : PublicKey.Fault}
    (read : readEntry entry = .ok (info, last)) (h : PublicKey.ofBytes info.publicKey = .error e) :
    Refused entry (.nodeKey info.publicKey e)

variable {answer : (q : Query) → q.Reply} {r : Reader} {entry : StackItem} {fault : ChainError}

/-! ## One entry -/

/-- A view fails exactly if the item has no such view. -/
private theorem viewed_eq_error_iff {α : Type} {v : Except StackItem.Fault α} :
    viewed v = .error fault ↔ ∃ e, v = .error e ∧ .shape (.view e) = fault :=
  Except.mapError_eq_error_iff

/-- A number is refused exactly if it is negative. -/
private theorem natural_eq_error_iff {cause : Int → ShapeFault} {n : Int} :
    natural cause n = .error fault ↔ n < 0 ∧ .shape (cause n) = fault := by
  unfold natural
  split
  · rename_i hneg
    simp [hneg]
  · rename_i hnonneg
    simp [hnonneg]

/-- No node comes of a descriptor exactly if its key is none. -/
private theorem nodeOf_eq_error_iff {info : NodeInfo} :
    nodeOf info = .error fault ↔
      ∃ e, PublicKey.ofBytes info.publicKey = .error e ∧ .nodeKey info.publicKey e = fault := by
  rw [nodeOf, Except.mapError_eq_error_iff]
  refine exists_congr fun e => and_congr_left fun _ => ?_
  rw [Node.ofInfo]
  cases PublicKey.ofBytes info.publicKey <;> simp

/-- What is wrong with an entry before its key is looked at. -/
private theorem refused_of_readEntry (h : readEntry entry = .error fault) :
    Refused entry fault := by
  simp only [readEntry, Except.bind_eq_error_iff, viewed_eq_error_iff, viewed_eq_ok_iff] at h
  -- The reader goes through an entry in this order, and a fault can come in each step.
  obtain ⟨e, hlist, rfl⟩ | ⟨fields, hfields, h⟩ := h
  · exact .noList hlist
  cases fields with
  | nil =>
    simp only [firstOf, Except.error.injEq, reduceCtorEq, false_and, exists_false, or_false] at h
    exact h ▸ .empty hfields
  | cons first rest =>
    simp only [firstOf, reduceCtorEq, Except.ok.injEq, false_or, exists_eq_left'] at h
    obtain hblob | ⟨blob, hblob, h⟩ := h
    · exact .noBlob hfields hblob
    obtain hdecode | ⟨info, hdecode, h⟩ := h
    · obtain ⟨e, hmalformed, rfl⟩ := Except.mapError_eq_error_iff.mp hdecode
      exact .descriptor hfields hblob hmalformed
    rw [Except.mapError_eq_ok_iff] at hdecode
    -- An entry without an epoch has none to be refused for.
    cases hthird : (first :: rest)[2]? with
    | none =>
      rw [hthird] at h
      cases h
    | some item =>
      simp only [hthird, Except.bind_eq_error_iff, viewed_eq_error_iff, viewed_eq_ok_iff,
        natural_eq_error_iff, reduceCtorEq, and_false, exists_false, or_false] at h
      obtain ⟨e, hword, rfl⟩ | ⟨n, hword, hneg, rfl⟩ := h
      · exact .noEpoch hfields hblob hdecode hthird hword
      · exact .negativeEpoch hfields hblob hdecode hthird hword hneg

/-- An entry that is refused does not read, or its key does not. -/
private theorem Refused.unread (h : Refused entry fault) :
    readEntry entry = .error fault ∨
      ∃ info last, readEntry entry = .ok (info, last) ∧ nodeOf info = .error fault := by
  -- All faults but that of a key come before there is a descriptor to make a node of.
  cases h with
  | key read h => exact .inr ⟨_, _, read, nodeOf_eq_error_iff.mpr ⟨_, h, rfl⟩⟩
  | noList h =>
    left
    simp [readEntry, viewed, h, Except.mapError, bind, Except.bind]
  | empty h =>
    left
    simp [readEntry, viewed, h, firstOf, Except.mapError, bind, Except.bind]
  | noBlob fields h =>
    left
    simp [readEntry, viewed, fields, firstOf, h, Except.mapError, bind, Except.bind]
  | descriptor fields held h =>
    left
    simp [readEntry, viewed, fields, firstOf, held, h, Except.mapError, bind, Except.bind]
  | noEpoch fields held decoded third h =>
    left
    simp only [readEntry, viewed, fields, firstOf, held, decoded, third, h, Except.mapError, bind,
      Except.bind]
  | negativeEpoch fields held decoded third word h =>
    left
    simp only [readEntry, viewed, fields, firstOf, held, decoded, third, word, natural, if_pos h,
      Except.mapError, bind, Except.bind]

/-- The reader of the map refuses an entry with a fault exactly if the fault is that of the entry. -/
theorem readNode_eq_error_iff : readNode entry = .error fault ↔ Refused entry fault := by
  simp only [readNode, Except.bind_eq_error_iff, Prod.exists]
  refine ⟨?_, Refused.unread⟩
  rintro (hentry | ⟨info, last, hentry, hnode⟩)
  · exact refused_of_readEntry hentry
  · obtain ⟨e, hkey, rfl⟩ := nodeOf_eq_error_iff.mp hnode
    exact .key hentry hkey

/-- A candidate is read like a node, with the epoch on top. -/
theorem readCandidate_eq_error_iff : readCandidate entry = .error fault ↔ Refused entry fault := by
  rw [← readNode_eq_error_iff]
  simp only [readCandidate, readNode, Except.bind_eq_error_iff, reduceCtorEq, and_false,
    exists_false, or_false]

/-! ## All entries -/

/-- The first entry that is refused, and why. -/
def FirstRefused (items : List StackItem) (fault : ChainError) : Prop :=
  ∃ (i : Nat) (item : StackItem), items[i]? = some item ∧ Refused item fault ∧
    ∀ j < i, ∀ earlier, items[j]? = some earlier → ∀ e, ¬ Refused earlier e

/-- A reader of entries that fails as it must fails at the first refused entry. -/
private theorem mapM_eq_error_iff_firstRefused {α : Type} {read : StackItem → Except ChainError α}
    (hread : ∀ item e, read item = .error e ↔ Refused item e) (items : List StackItem) :
    items.mapM read = .error fault ↔ FirstRefused items fault := by
  have hok : ∀ item, (∃ a, read item = .ok a) ↔ ∀ e, ¬ Refused item e := by
    intro item
    simp only [← hread]
    cases read item <;> simp
  simp only [Except.mapM_eq_error_iff, FirstRefused, hread, hok]

namespace Reader

variable {epoch : Nat} {items : List StackItem}

/-- Where the items were read, the map fails with the fault of the first that is refused. -/
private theorem heard_netmap_eq_error_iff (hepoch : r.epoch.heard answer = .ok epoch)
    (hitems : (r.entries "netmap").heard answer = .ok items) :
    r.netmap.heard answer = .error fault ↔ FirstRefused items fault := by
  simp only [netmap, heard_bind, heard_during, heard_outcome, heard_pure, hepoch, hitems,
    Except.bind_eq_error_iff, Except.mapError_eq_ok_iff, Except.mapError_eq_error_iff,
    mapM_eq_error_iff_firstRefused fun _ _ => readNode_eq_error_iff]
  simp

/-- So do the candidates. -/
private theorem heard_candidates_eq_error_iff
    (hitems : (r.entries "netmapCandidates").heard answer = .ok items) :
    r.candidates.heard answer = .error fault ↔ FirstRefused items fault := by
  simp only [candidates, heard_bind, heard_during, heard_outcome, hitems,
    Except.bind_eq_error_iff, Except.mapError_eq_ok_iff, Except.mapError_eq_error_iff,
    mapM_eq_error_iff_firstRefused fun _ _ => readCandidate_eq_error_iff]
  simp

end Reader

/-- What is there for an entry and for its partner in another list. -/
private theorem getElem?_of_forall₂ {α β : Type} {R : α → β → Prop} {xs : List α} {ys : List β}
    (h : List.Forall₂ R xs ys) {i : Nat} {x : α} (hx : xs[i]? = some x) :
    ∃ y, ys[i]? = some y ∧ R x y := by
  induction h generalizing i with
  | nil => cases hx
  | cons hr _ ih =>
    cases i with
    | zero =>
      cases hx
      exact ⟨_, rfl, hr⟩
    | succ i => exact ih hx

/-- Where a chain tells its epoch and has the same entries in its network map and among its
candidates: the map is read if and only if the candidates are. Then there is one node and one
candidate for each entry, in their order; both are what the descriptor of that entry declares, and
the candidate has the epoch of the entry. Otherwise both readers give the same fault, the one for
which the first refused entry is refused. -/
theorem readers_agree (answer : (q : Query) → q.Reply) (r : Reader) {epoch : Nat}
    {items : List StackItem} (hepoch : r.epoch.heard answer = .ok epoch)
    (hmap : (r.entries "netmap").heard answer = .ok items)
    (hcandidates : (r.entries "netmapCandidates").heard answer = .ok items) :
    ((∃ map, r.netmap.heard answer = .ok map) ↔
      ∃ candidates, r.candidates.heard answer = .ok candidates) ∧
    (∀ map candidates, r.netmap.heard answer = .ok map →
      r.candidates.heard answer = .ok candidates →
      map.epoch = epoch ∧ map.nodes.length = items.length ∧ candidates.length = items.length ∧
      ∀ (i : Nat) item, items[i]? = some item → ∃ info last n,
        readEntry item = .ok (info, last) ∧ n.Declared info ∧
        map.nodes[i]? = some n ∧ candidates[i]? = some ⟨n, last⟩) ∧
    ∀ fault, (r.netmap.heard answer = .error fault ↔ FirstRefused items fault) ∧
      (r.candidates.heard answer = .error fault ↔ FirstRefused items fault) := by
  have hfault : ∀ fault, r.netmap.heard answer = .error fault ↔ FirstRefused items fault :=
    fun _ => Reader.heard_netmap_eq_error_iff hepoch hmap
  have hfault' : ∀ fault, r.candidates.heard answer = .error fault ↔ FirstRefused items fault :=
    fun _ => Reader.heard_candidates_eq_error_iff hcandidates
  refine ⟨?_, ?_, fun fault => ⟨hfault fault, hfault' fault⟩⟩
  · cases hr : r.netmap.heard answer with
    | ok map =>
      cases hr' : r.candidates.heard answer with
      | ok candidates => simp
      | error e => exact nomatch hr.symm.trans ((hfault e).mpr ((hfault' e).mp hr'))
    | error e => simp [(hfault' e).mpr ((hfault e).mp hr)]
  · intro map candidates hm hc
    obtain ⟨hmapEpoch, _, hitems, hnodes⟩ := Reader.heard_netmap_eq_ok_iff.mp hm
    obtain ⟨_, hitems', hread⟩ := Reader.heard_candidates_eq_ok_iff.mp hc
    cases hmap.symm.trans hitems
    cases hcandidates.symm.trans hitems'
    refine ⟨Except.ok.inj (hmapEpoch.symm.trans hepoch), hnodes.length_eq.symm,
      hread.length_eq.symm, fun i item hitem => ?_⟩
    obtain ⟨n, hn, hnode⟩ := getElem?_of_forall₂ hnodes hitem
    obtain ⟨⟨n', last⟩, hcandidate, hnode'⟩ := getElem?_of_forall₂ hread hitem
    obtain ⟨info, last', hentry, hinfo⟩ := readNode_eq_ok_iff.mp hnode
    obtain ⟨info', hentry', hinfo'⟩ := readCandidate_eq_ok_iff.mp hnode'
    -- Both readers take the entry apart in the same way.
    cases hentry.symm.trans hentry'
    obtain rfl : n = n' := Except.ok.inj (hinfo.symm.trans hinfo')
    exact ⟨info, last, n, hentry, Node.declared_of_ofInfo hinfo, hn, hcandidate⟩

/-- A chain in epoch 24 that answers every other invocation with the given entries. -/
def answerItems (items : List StackItem) : (q : Query) → q.Reply
  | .invoke _ "epoch" _ => .ok ⟨"HALT", none, [.integer 24], none⟩
  | .invoke _ _ _ => .ok ⟨"HALT", none, [.array items], none⟩
  | _ => .error .noHealthyClient

/-- An entry that reads, one whose epoch is negative and one that is empty: both readers report the
second one. -/
theorem readers_agree_negativeEpoch :
    let items := [Entry.item ⟨renewedInfo, .integer 1, some 23⟩,
      .struct [.byteString renewedInfo.encode, .integer 1, .integer (-1)], .struct []]
    (⟨.roleManagement, true⟩ : Reader).netmap.heard (answerItems items) =
        .error (.shape .negativeCandidateEpoch) ∧
      (⟨.roleManagement, true⟩ : Reader).candidates.heard (answerItems items) =
        .error (.shape .negativeCandidateEpoch) := by
  intro items
  have hfirst : FirstRefused items (.shape .negativeCandidateEpoch) := by
    refine ⟨1, _, rfl, .negativeEpoch rfl rfl
      (NodeInfo.decode_encode storable_renewedInfo.fits storable_renewedInfo.low
        storable_renewedInfo.high) rfl rfl (by decide), fun j hj earlier hearlier e he => ?_⟩
    -- The entry in front of the faulty one is a valid one.
    obtain rfl : j = 0 := by omega
    cases hearlier
    obtain ⟨k, hk⟩ := storable_renewedInfo.key
    obtain ⟨n, hn⟩ := Node.ofInfo_of_key hk
    have hvalid : (⟨renewedInfo, .integer 1, some 23⟩ : Entry).Valid :=
      ⟨storable_renewedInfo, by decide⟩
    have hread := readNode_eq_ok_iff.mpr ⟨_, _, readEntry_item hvalid, hn⟩
    exact nomatch hread.symm.trans (readNode_eq_error_iff.mpr he)
  have hepoch : (⟨.roleManagement, true⟩ : Reader).epoch.heard (answerItems items) = .ok 24 :=
    Reader.heard_epoch_eq_ok_iff.mpr ⟨_, ⟨_, rfl, rfl⟩, rfl⟩
  obtain ⟨-, -, hfault⟩ := readers_agree (answerItems items) ⟨.roleManagement, true⟩ hepoch
    (Reader.heard_entries_eq_ok_iff.mpr ⟨_, ⟨_, rfl, rfl⟩, rfl⟩)
    (Reader.heard_entries_eq_ok_iff.mpr ⟨_, ⟨_, rfl, rfl⟩, rfl⟩)
  exact ⟨(hfault _).1.mpr hfirst, (hfault _).2.mpr hfirst⟩

end ChainGauge.NetmapContract
