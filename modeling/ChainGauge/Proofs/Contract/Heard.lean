import ChainGauge.Contract.Netmap
import ChainGauge.Proofs.Except

/-!
# What a reader of the network map hears

A dialogue is held with a chain whose answers are given (`Chain.heard`). What comes of it is then a
plain result, and what the readers of the network map and of the candidates give is told from the
entries they hear: the map is there exactly if the epoch and the entries were heard and every entry
reads (`heard_netmap_eq_ok_iff`, `heard_candidates_eq_ok_iff`).
-/

namespace ChainGauge

namespace Dialogue

variable {Q : Type} {A : Q → Type} {α β : Type} (answer : (q : Q) → A q)

/-- What comes of a dialogue when every question gets its given answer. -/
def heard (d : Dialogue Q A α) : α :=
  Id.run (d.hold (m := Id) answer)

/-- What is heard of two dialogues in turn. -/
theorem heard_andThen (d : Dialogue Q A α) (f : α → Dialogue Q A β) :
    heard answer (d.andThen f) = heard answer (f (heard answer d)) := by
  induction d with
  | done a => rfl
  | ask q next ih => exact ih (answer q)

end Dialogue

namespace Chain

variable {α β : Type} (answer : (q : Query) → q.Reply)

/-- What comes of a dialogue with a chain when every question gets its given answer. -/
def heard (c : Chain α) : Except ChainError α :=
  c.run.heard answer

@[simp] theorem heard_outcome (r : Except ChainError α) : heard answer (outcome r) = r := rfl

@[simp] theorem heard_pure (a : α) : heard answer (pure a) = .ok a := rfl

/-- What is heard of two dialogues that may fail. -/
@[simp] theorem heard_bind (c : Chain α) (f : α → Chain β) :
    heard answer (c >>= f) = heard answer c >>= fun a => heard answer (f a) := by
  have hrun : heard answer (c >>= f) = (c.run.andThen (ExceptT.bindCont f)).heard answer := rfl
  rw [hrun, Dialogue.heard_andThen, heard]
  cases c.run.heard answer with
  | error e => rfl
  | ok a => rfl

@[simp] theorem heard_view (r : Except StackItem.Fault α) :
    heard answer (view r) = r.mapError fun e => .shape (.view e) := rfl

/-- The name of a step goes into its failures. -/
@[simp] theorem heard_during (step : Step) (c : Chain α) :
    heard answer (during step c) = (heard answer c).mapError (.during step) :=
  Dialogue.heard_andThen answer c.run fun r => .done (r.mapError (ChainError.during step))

/-- A chain leaves an item on top of the stack when a method is invoked. -/
def Leaves (contract : ScriptHash) (method : String) (item : StackItem) : Prop :=
  ∃ r, answer (.invoke contract method []) = .ok r ∧ r.top = .ok item

/-- An invocation gives an item exactly if it leaves this item on top. -/
private theorem heard_invokeTop_eq_ok_iff {contract : ScriptHash} {method : String}
    {item : StackItem} :
    heard answer (invokeTop contract method []) = .ok item ↔ Leaves answer contract method item := by
  simp only [invokeTop, heard_bind, heard_outcome, Except.bind_eq_ok_iff, Except.mapError_eq_ok_iff]
  rfl

end Chain

namespace NetmapContract

open Chain

variable {answer : (q : Query) → q.Reply} {r : Reader}

/-- A view succeeds exactly if the item has it. -/
theorem viewed_eq_ok_iff {α : Type} {v : Except StackItem.Fault α} {a : α} :
    viewed v = .ok a ↔ v = .ok a :=
  Except.mapError_eq_ok_iff

/-- A number is natural exactly if it is one. -/
private theorem natural_eq_ok_iff {fault : Int → ShapeFault} {n : Int} {k : Nat} :
    natural fault n = .ok k ↔ n = k := by
  unfold natural
  split
  · simp
    omega
  · simp
    omega

/-- What the fields of an entry tell of an epoch: none, or the third field is one. -/
def TellsEpoch (fields : List StackItem) : Option Nat → Prop
  | none => fields[2]? = none
  | some epoch => ∃ item, fields[2]? = some item ∧ item.int64? = .ok (epoch : Int)

/-- An entry is read exactly if it holds a descriptor in front and an epoch as it should. -/
theorem readEntry_eq_ok_iff {entry : StackItem} {info : NodeInfo} {last : Option Nat} :
    readEntry entry = .ok (info, last) ↔
      ∃ fields, entry.list? = .ok fields ∧
        ∃ first, firstOf .emptyEntry fields = .ok first ∧
          ∃ blob, descriptorBytes first = .ok blob ∧ NodeInfo.decode blob = .ok info ∧
            TellsEpoch fields last := by
  simp only [readEntry, Except.bind_eq_ok_iff, viewed_eq_ok_iff, Except.mapError_eq_ok_iff]
  -- Only what stands behind the descriptor is read in two ways.
  refine exists_congr fun fields => and_congr_right fun _ => exists_congr fun first =>
    and_congr_right fun _ => exists_congr fun blob => and_congr_right fun _ => ?_
  cases hthird : fields[2]? with
  | none => cases last <;> simp [TellsEpoch, hthird, eq_comm]
  | some item =>
    simp only [Except.bind_eq_ok_iff, viewed_eq_ok_iff, natural_eq_ok_iff, Except.ok.injEq,
      Prod.mk.injEq]
    cases last with
    | none => simp [TellsEpoch, hthird]
    | some epoch => simp [TellsEpoch, hthird, and_comm]

/-- The reader and the descriptor give the same node. -/
private theorem nodeOf_eq_ok_iff {info : NodeInfo} {n : Node} :
    nodeOf info = .ok n ↔ Node.ofInfo info = .ok n :=
  Except.mapError_eq_ok_iff

/-- A node is read exactly if the entry is read and its descriptor gives the node. -/
theorem readNode_eq_ok_iff {entry : StackItem} {n : Node} :
    readNode entry = .ok n ↔
      ∃ info last, readEntry entry = .ok (info, last) ∧ Node.ofInfo info = .ok n := by
  simp only [readNode, Except.bind_eq_ok_iff, nodeOf_eq_ok_iff, Prod.exists]

/-- A candidate is read exactly if the entry is, with the epoch that it tells. -/
theorem readCandidate_eq_ok_iff {entry : StackItem} {c : Candidate} :
    readCandidate entry = .ok c ↔
      ∃ info, readEntry entry = .ok (info, c.lastActive) ∧ Node.ofInfo info = .ok c.node := by
  simp only [readCandidate, Except.bind_eq_ok_iff, nodeOf_eq_ok_iff, Prod.exists, Except.ok.injEq]
  constructor
  · rintro ⟨info, last, hentry, n, hn, rfl⟩
    exact ⟨info, hentry, hn⟩
  · rintro ⟨info, hentry, hn⟩
    exact ⟨info, c.lastActive, hentry, c.node, hn, rfl⟩

namespace Reader

/-- The epoch is the number that the invocation leaves. -/
theorem heard_epoch_eq_ok_iff {e : Nat} :
    heard answer r.epoch = .ok e ↔
      ∃ item, Leaves answer r.contract "epoch" item ∧ item.int64? = .ok (e : Int) := by
  simp only [epoch, heard_bind, heard_view, heard_outcome, Except.bind_eq_ok_iff,
    Except.mapError_eq_ok_iff, heard_invokeTop_eq_ok_iff, natural_eq_ok_iff]
  constructor
  · rintro ⟨item, hitem, n, hn, rfl⟩
    exact ⟨item, hitem, hn⟩
  · rintro ⟨item, hitem, hn⟩
    exact ⟨item, hitem, e, hn, rfl⟩

/-- The entries are those of the list that the invocation leaves. -/
theorem heard_entries_eq_ok_iff {method : String} {items : List StackItem} :
    heard answer (r.entries method) = .ok items ↔
      ∃ item, Leaves answer r.contract method item ∧ item.list? = .ok items := by
  simp only [entries, heard_bind, heard_view, Except.bind_eq_ok_iff, Except.mapError_eq_ok_iff,
    heard_invokeTop_eq_ok_iff]

/-- The network map is read exactly if its epoch and its entries are heard and every entry reads. -/
theorem heard_netmap_eq_ok_iff {map : Netmap} :
    heard answer r.netmap = .ok map ↔
      heard answer r.epoch = .ok map.epoch ∧
        ∃ items, heard answer (r.entries "netmap") = .ok items ∧
          List.Forall₂ (fun item n => readNode item = .ok n) items map.nodes := by
  simp only [netmap, heard_bind, heard_during, heard_outcome, heard_pure, Except.bind_eq_ok_iff,
    Except.mapError_eq_ok_iff, Except.mapM_eq_ok_iff, Except.ok.injEq]
  -- The epoch is asked for first, and its failure would be the failure of all.
  constructor
  · rintro ⟨e, he, items, hitems, nodes, hnodes, rfl⟩
    exact ⟨he, items, hitems, hnodes⟩
  · rintro ⟨he, items, hitems, hnodes⟩
    exact ⟨map.epoch, he, items, hitems, map.nodes, hnodes, rfl⟩

/-- The candidates are read exactly if their entries are heard and every entry reads. -/
theorem heard_candidates_eq_ok_iff {candidates : List Candidate} :
    heard answer r.candidates = .ok candidates ↔
      ∃ items, heard answer (r.entries "netmapCandidates") = .ok items ∧
        List.Forall₂ (fun item c => readCandidate item = .ok c) items candidates := by
  simp only [Reader.candidates, heard_bind, heard_during, heard_outcome, Except.bind_eq_ok_iff,
    Except.mapError_eq_ok_iff, Except.mapM_eq_ok_iff]

end Reader

end NetmapContract

end ChainGauge
