import ChainGauge.Proofs.FanOut.Step
import Mathlib.Data.List.Nodup

/-!
# Dials and writes of a run

A run of a fan-out is looked back on endpoint by endpoint, as the dials that came to their end
(`System.dials`) and the ones of them that were written to the slot (`System.writes`), each in the
order in which it happened. A `Ledger` is what these two lists say about a fan-out: the slot holds what
the last write brought, and a dial that was not written yet is one that its recheck still holds.

## Key results

- `System.ledger_run`: after every run, the dials and writes of an endpoint are a ledger
- `Ledger.slot_origin`: where the connection in a slot comes from
-/

namespace ChainGauge.FanOut

open Pool (Connection)

/-- A dial of an endpoint that came to its end. -/
structure Dial where
  /-- Whose dial it was. -/
  recheck : Nat
  /-- What came of it. -/
  connection : Option Connection
  deriving DecidableEq, Repr

/-- The dial that a recheck has still to write. -/
def Check.dial? (id : Nat) : Check → Option Dial
  | .decided connection => some ⟨id, connection⟩
  | _ => none

/-- The dial of an endpoint that a recheck writes, once it is to write. -/
def Recheck.write? (r : Recheck) (id i : Nat) : Option Dial :=
  match r with
  | .underWay checks =>
    if checks.all Check.isSettled then checks[i]?.bind (Check.dial? id) else none
  | _ => none

namespace System

/-- The dial of an endpoint that an action ends. -/
def dial? (s : System) (i : Nat) : Action → Option Dial
  | .event id (.dialed j connected) =>
    if j = i ∧ s.check? id i = some .dialing then
      some ⟨id, if connected then some ⟨i, s.serial⟩ else none⟩
    else none
  | _ => none

/-- The dial of an endpoint that an action writes to the slot. -/
def write? (s : System) (i : Nat) : Action → Option Dial
  | .event id .write => s.rechecks[id]?.bind (·.write? id i)
  | _ => none

/-- The dials of an endpoint in a run, in the order of their ends. -/
def dials (i : Nat) : System → List Action → List Dial
  | _, [] => []
  | s, a :: actions => (s.dial? i a).toList ++ dials i (s.act a) actions

/-- The dials that a run writes to the slot of an endpoint, in the order of the writes. -/
def writes (i : Nat) : System → List Action → List Dial
  | _, [] => []
  | s, a :: actions => (s.write? i a).toList ++ writes i (s.act a) actions

end System

/-- What the writes leave in the slot of an endpoint. -/
def slotOf (i : Nat) (writes : List Dial) : Option Connection :=
  match writes.getLast? with
  | none => some ⟨i, i⟩
  | some w => w.connection

@[simp] theorem slotOf_nil (i : Nat) : slotOf i [] = some ⟨i, i⟩ := rfl

/-- A slot holds what was written to it last. -/
@[simp] theorem slotOf_concat (i : Nat) (writes : List Dial) (w : Dial) :
    slotOf i (writes ++ [w]) = w.connection := by
  simp [slotOf]

/-- What the dials and writes of an endpoint say about a fan-out. -/
structure Ledger (i : Nat) (dials writes : List Dial) (s : System) : Prop where
  slot : s.slots[i]? = some (slotOf i writes)
  /-- A dial was written or is still held by its recheck. -/
  mem_dials : ∀ d, d ∈ dials ↔
    d ∈ writes ∨ s.check? d.recheck i = some (.decided d.connection)
  finished : ∀ w ∈ writes, s.rechecks[w.recheck]? = some .finished
  nodup_dials : dials.Nodup
  nodup_writes : writes.Nodup
  endpoint : ∀ d ∈ dials, ∀ c, d.connection = some c → c.endpoint = i

namespace Ledger

variable {i id : Nat} {dials writes : List Dial} {s t : System} {e : Event} {r : Recheck} {m : Move}

/-- Whoever is under way has written nothing. -/
private theorem notMem_writes (h : Ledger i dials writes s) {checks : List Check}
    (hr : s.rechecks[id]? = some (.underWay checks)) (c : Option Connection) :
    ⟨id, c⟩ ∉ writes := by
  intro hmem
  have hfinished := h.finished _ hmem
  exact nomatch hfinished.symm.trans hr

/-- An action that decides and writes nothing for an endpoint. -/
theorem keep (h : Ledger i dials writes s) (hslot : t.slots[i]? = s.slots[i]?)
    (hpending : ∀ id c, t.check? id i = some (.decided c) ↔ s.check? id i = some (.decided c))
    (hfinished : ∀ id : Nat, s.rechecks[id]? = some .finished → t.rechecks[id]? = some .finished) :
    Ledger i dials writes t where
  slot := hslot.trans h.slot
  mem_dials := fun d => by rw [h.mem_dials, hpending]
  finished := fun w hw => hfinished _ (h.finished w hw)
  nodup_dials := h.nodup_dials
  nodup_writes := h.nodup_writes
  endpoint := h.endpoint

/-- Where someone who is under way moves, whoever has written is still finished. -/
private theorem finished_of_moved (h : Ledger i dials writes s) {checks : List Check}
    (hr : s.rechecks[id]? = some (.underWay checks))
    (hothers : ∀ j, j ≠ id → t.rechecks[j]? = s.rechecks[j]?) :
    ∀ w ∈ writes, t.rechecks[w.recheck]? = some .finished := by
  intro w hw
  have hne : w.recheck ≠ id := by
    intro heq
    cases (heq ▸ h.finished w hw).symm.trans hr
  rw [hothers _ hne]
  exact h.finished w hw

/-- Someone has decided what is to be written for an endpoint. -/
theorem decide (h : Ledger i dials writes s) {checks : List Check} {c : Option Connection}
    (hr : s.rechecks[id]? = some (.underWay checks)) (hdialing : s.check? id i = some .dialing)
    (hendpoint : ∀ c', c = some c' → c'.endpoint = i) (hslot : t.slots[i]? = s.slots[i]?)
    (hdecided : t.check? id i = some (.decided c))
    (hothers : ∀ j, j ≠ id → t.rechecks[j]? = s.rechecks[j]?) :
    Ledger i (dials ++ [⟨id, c⟩]) writes t := by
  -- A recheck dials an endpoint once: before that it has neither written nor decided.
  have hnew : ⟨id, c⟩ ∉ dials := by
    intro hmem
    rcases (h.mem_dials _).mp hmem with hwritten | hpending
    · exact h.notMem_writes hr c hwritten
    · cases hdialing.symm.trans hpending
  refine ⟨hslot.trans h.slot, fun d => ?_, h.finished_of_moved hr hothers, ?_, h.nodup_writes,
    fun d hd => ?_⟩
  · obtain ⟨j, c'⟩ := d
    rw [List.mem_append, List.mem_singleton, h.mem_dials]
    -- The entry is about this recheck; for all others nothing changed.
    by_cases hj : j = id
    · subst hj
      have hnot := h.notMem_writes hr c'
      have hheld : s.check? j i ≠ some (.decided c') := by simp [hdialing]
      simp [hnot, hheld, hdecided, eq_comm]
    · have hsame : t.check? j i = s.check? j i := by simp only [System.check?, hothers j hj]
      simp [hj, hsame]
  · rw [← List.concat_eq_append]
    exact List.Nodup.concat hnew h.nodup_dials
  · rcases List.mem_append.mp hd with hd | hd
    · exact h.endpoint d hd
    · cases List.mem_singleton.mp hd
      exact hendpoint

/-- Someone has written what was decided for an endpoint. -/
theorem write (h : Ledger i dials writes s) {checks : List Check} {c : Option Connection}
    (hr : s.rechecks[id]? = some (.underWay checks))
    (hdecided : s.check? id i = some (.decided c)) (hslot : t.slots[i]? = some c)
    (hfinished : t.rechecks[id]? = some .finished)
    (hothers : ∀ j, j ≠ id → t.rechecks[j]? = s.rechecks[j]?) :
    Ledger i dials (writes ++ [⟨id, c⟩]) t := by
  refine ⟨by rw [slotOf_concat, hslot], fun d => ?_, fun w hw => ?_, h.nodup_dials, ?_, h.endpoint⟩
  · obtain ⟨j, c'⟩ := d
    rw [List.mem_append, List.mem_singleton, h.mem_dials]
    -- The decision moves from the pending ones to the written ones.
    by_cases hj : j = id
    · subst hj
      have hnot := h.notMem_writes hr c'
      have hdone : t.check? j i ≠ some (.decided c') := by
        simp [System.check?_of_recheck hfinished]
      simp [hnot, hdone, hdecided, eq_comm]
    · have hsame : t.check? j i = s.check? j i := by simp only [System.check?, hothers j hj]
      simp [hj, hsame]
  · rcases List.mem_append.mp hw with hw | hw
    · exact h.finished_of_moved hr hothers w hw
    · cases List.mem_singleton.mp hw
      exact hfinished
  · rw [← List.concat_eq_append]
    exact List.Nodup.concat (h.notMem_writes hr c) h.nodup_writes

/-- The connection in a slot comes from the first dial or from one of the run. -/
theorem slot_origin (h : Ledger i dials writes s) {c : Connection}
    (hc : s.slots[i]? = some (some c)) :
    c.endpoint = i ∧ (c = ⟨i, i⟩ ∨ ∃ d ∈ dials, d.connection = some c) := by
  have hslot : slotOf i writes = some c := Option.some.inj (h.slot.symm.trans hc)
  rcases List.eq_nil_or_concat writes with rfl | ⟨older, w, rfl⟩
  · cases hslot
    exact ⟨rfl, .inl rfl⟩
  · rw [List.concat_eq_append, slotOf_concat] at hslot
    have hdial : w ∈ dials := (h.mem_dials w).mpr (.inl (by simp))
    exact ⟨h.endpoint w hdial c hslot, .inr ⟨w, hdial, hslot⟩⟩

end Ledger

namespace System

variable {s t : System} {a : Action} {i id : Nat} {e : Event} {dials writes : List Dial}

/-! ## Marks of one action -/

/-- A dial comes to its end only by a move. -/
theorem dial?_ignored
    (unmoved : ∀ r, s.rechecks[id]? = some r → ∀ m, ¬ Transition s.slots s.serial e r m) :
    s.dial? i (.event id e) = none := by
  cases e with
  | dialed j connected =>
    simp only [dial?, ite_eq_right_iff]
    rintro ⟨rfl, hdialing⟩
    -- A check that is dialing would take the answer, and the recheck would move.
    obtain ⟨r, hr, hcheck⟩ := Option.bind_eq_some_iff.mp hdialing
    cases r with
    | underWay checks => exact absurd (.dialed hcheck) (unmoved _ hr _)
    | arriving => exact nomatch hcheck
    | finished => exact nomatch hcheck
  | _ => rfl

/-- A slot is written only by a move. -/
private theorem write?_ignored
    (unmoved : ∀ r, s.rechecks[id]? = some r → ∀ m, ¬ Transition s.slots s.serial e r m) :
    s.write? i (.event id e) = none := by
  cases e with
  | write =>
    refine Option.bind_eq_none_iff.mpr fun r hr => ?_
    cases r with
    | underWay checks =>
      -- Were all checks settled, the write would not be ignored.
      have hunsettled : ¬ checks.all Check.isSettled = true :=
        fun hall => unmoved _ hr _ (.written hall)
      exact if_neg hunsettled
    | arriving => rfl
    | finished => rfl
  | _ => rfl

/-! ## One action -/

/-- The slots and rechecks that a ledger speaks about. -/
private theorem ledger_congr (h : Ledger i dials writes s) (hslots : t.slots = s.slots)
    (hrechecks : t.rechecks = s.rechecks) : Ledger i dials writes t :=
  h.keep (by rw [hslots]) (fun id c => by simp only [check?, hrechecks])
    (fun id hid => by rw [hrechecks, hid])

/-- A recheck that arrives brings no check, and changes none. -/
private theorem check?_entered (s : System) (j i : Nat) :
    { s with rechecks := s.rechecks ++ [Recheck.arriving] }.check? j i = s.check? j i := by
  simp only [check?]
  by_cases hj : j < s.rechecks.length
  · rw [List.getElem?_append_left hj]
  · have hnone : s.rechecks[j]? = none := List.getElem?_eq_none (by omega)
    rw [List.getElem?_append_right (by omega), hnone, List.getElem?_singleton]
    split <;> rfl

/-- A move that decides and writes nothing for an endpoint. -/
private theorem ledger_moved (h : Ledger i dials writes s) {r r' : Recheck}
    {slots : List (Option Connection)} {serial : Nat} (before : s.rechecks[id]? = some r)
    (hundone : r ≠ .finished) (hslot : slots[i]? = s.slots[i]?)
    (hpending : ∀ c, r'.check? i = some (.decided c) ↔ r.check? i = some (.decided c)) :
    Ledger i dials writes
      { s with rechecks := s.rechecks.set id r', slots := slots, serial := serial } := by
  refine h.keep hslot (fun j c => ?_) (fun j hj => ?_)
  · simp only [check?, getElem?_set_recheck before]
    by_cases hj : j = id
    · subst hj
      rw [if_pos rfl, before]
      exact hpending c
    · rw [if_neg hj]
  -- The recheck that moves is not finished, so the finished ones are others.
  · have hne : j ≠ id := by
      rintro rfl
      exact hundone (Option.some.inj (before.symm.trans hj))
    rw [getElem?_set_recheck before, if_neg hne, hj]

/-- A dial of this endpoint is held by its recheck from then on; one of another changes nothing. -/
private theorem ledger_dialed (h : Ledger i dials writes s) {checks : List Check} {j serial : Nat}
    {connected : Bool} (before : s.rechecks[id]? = some (.underWay checks))
    (dialing : checks[j]? = some .dialing) :
    Ledger i (dials ++ (s.dial? i (.event id (.dialed j connected))).toList) writes
      { s with
        rechecks := s.rechecks.set id
          (.underWay (checks.set j (.decided (if connected then some ⟨j, s.serial⟩ else none))))
        serial := serial } := by
  -- The ledger is about the slot `i`; dialing for another slot leaves it as it is.
  by_cases hj : j = i
  · subst hj
    have hlt : j < checks.length := (List.getElem?_eq_some_iff.mp dialing).1
    have hcheck : s.check? id j = some .dialing := by
      rw [check?_of_recheck before, Recheck.check?_underWay, dialing]
    simp only [dial?, hcheck, and_self, ↓reduceIte, Option.toList_some]
    refine h.decide before hcheck ?_ rfl ?_ fun k hk => ?_
    · intro c hc
      cases connected <;> simp at hc
      rw [← hc]
    · simp [check?, getElem?_set_recheck before, List.getElem?_set_self hlt]
    · simp only [getElem?_set_recheck before, if_neg hk]
  · simp only [dial?, hj, false_and, ↓reduceIte, Option.toList_none, List.append_nil]
    refine ledger_moved h before (by simp) rfl fun c => ?_
    simp only [Recheck.check?_underWay, List.getElem?_set, if_neg hj]

/-- A recheck writes what it holds for the endpoint, and else leaves the slot. -/
private theorem ledger_written (h : Ledger i dials writes s) (hs : s.Valid)
    (hi : i < s.endpoints.length)
    {checks : List Check} {serial : Nat} (before : s.rechecks[id]? = some (.underWay checks))
    (settled : checks.all Check.isSettled = true) :
    Ledger i dials (writes ++ (s.write? i (.event id .write)).toList)
      { s with
        rechecks := s.rechecks.set id .finished
        slots := s.slots.zipWith Check.written checks
        serial := serial } := by
  have hslotlt : i < s.slots.length := by rw [hs.slots]; exact hi
  have hlt : i < checks.length := by rw [hs.checks id checks before]; exact hi
  have hslot : (s.slots.zipWith Check.written checks)[i]? =
      some (Check.written s.slots[i] checks[i]) := by
    rw [List.getElem?_zipWith, List.getElem?_eq_getElem hslotlt, List.getElem?_eq_getElem hlt]
  have hcheck : s.check? id i = some checks[i] := by
    rw [check?_of_recheck before, Recheck.check?_underWay, List.getElem?_eq_getElem hlt]
  have hmark : s.write? i (.event id .write) = Check.dial? id checks[i] := by
    simp only [write?, before, Option.bind_some, Recheck.write?, settled, ↓reduceIte,
      List.getElem?_eq_getElem hlt]
  rw [hmark]
  -- A check that decided something writes it; one that found its connection alive leaves the slot.
  cases hentry : checks[i] with
  | decided c =>
    simp only [Check.dial?, Option.toList_some]
    refine h.write before (hentry ▸ hcheck) (by rw [hslot, hentry]; rfl) ?_ fun k hk => ?_
    · simp only [getElem?_set_recheck before, ↓reduceIte]
    · simp only [getElem?_set_recheck before, if_neg hk]
  | _ =>
    simp only [Check.dial?, Option.toList_none, List.append_nil]
    refine ledger_moved h before (by simp) ?_ fun c => ?_
    · rw [hslot, hentry, List.getElem?_eq_getElem hslotlt]
      rfl
    · simp [hlt, hentry]

/-- Every action keeps the ledger, with the dial that it ends and the one that it writes. -/
theorem Acts.ledger (hact : s.Acts a t) (hs : s.Valid) (hi : i < s.endpoints.length)
    (h : Ledger i dials writes s) :
    Ledger i (dials ++ (s.dial? i a).toList) (writes ++ (s.write? i a).toList) t := by
  cases hact with
  | entered =>
    simp only [dial?, write?, Option.toList_none, List.append_nil]
    refine h.keep rfl (fun j c => by rw [check?_entered]) fun j hj => ?_
    have hlt : j < s.rechecks.length := (List.getElem?_eq_some_iff.mp hj).1
    rw [List.getElem?_append_left hlt, hj]
  | asked | told =>
    simp only [dial?, write?, Option.toList_none, List.append_nil]
    exact ledger_congr h rfl rfl
  | ignored unmoved =>
    rw [dial?_ignored unmoved, write?_ignored unmoved]
    simpa only [Option.toList_none, List.append_nil] using h
  | moved before transition =>
    cases transition with
    | looked =>
      simp only [dial?, write?, Option.toList_none, List.append_nil]
      refine ledger_moved h before (by simp) rfl fun c => ?_
      -- Nothing is decided yet where a recheck has only looked.
      simp only [Recheck.check?_underWay, Recheck.check?_arriving, List.getElem?_map]
      cases s.slots[i]? with
      | none => simp
      | some slot => cases slot <;> simp [Check.ofSlot]
    | @probed checks j found alive probing =>
      simp only [dial?, write?, Option.toList_none, List.append_nil]
      refine ledger_moved h before (by simp) rfl fun c => ?_
      simp only [Recheck.check?_underWay, List.getElem?_set]
      by_cases hj : j = i
      · subst hj
        cases alive <;> simp [probing]
      · rw [if_neg hj]
    | dialed dialing =>
      simp only [write?, Option.toList_none, List.append_nil]
      exact ledger_dialed h before dialing
    | written settled =>
      simp only [dial?, Option.toList_none, List.append_nil]
      exact ledger_written h hs hi before settled

/-! ## Runs -/

/-- The ledger of a fan-out that was just connected is empty. -/
private theorem ledger_connected {endpoints : List String} (hi : i < endpoints.length) :
    Ledger i [] [] (connected endpoints) where
  slot := by simp [connected, hi]
  mem_dials := fun d => by simp [check?, connected]
  finished := fun w hw => nomatch hw
  nodup_dials := List.nodup_nil
  nodup_writes := List.nodup_nil
  endpoint := fun d hd => nomatch hd

/-- The ledger of a run goes on from that of what came before. -/
private theorem ledger_from (hs : s.Valid) (hi : i < s.endpoints.length)
    (h : Ledger i dials writes s) (actions : List Action) :
    Ledger i (dials ++ s.dials i actions) (writes ++ s.writes i actions) (s.run actions) := by
  induction actions generalizing s dials writes with
  | nil => simpa only [System.dials, System.writes, List.append_nil, run_nil] using h
  | cons a actions ih =>
    have hact := s.acts_act a
    have hendpoints : (s.act a).endpoints = s.endpoints := endpoints_run s [a]
    have hnext := ih (hact.valid hs) (by rwa [hendpoints]) (hact.ledger hs hi h)
    simpa only [System.dials, System.writes, List.append_assoc, run_cons] using hnext

/-- After every run, the dials and writes of an endpoint are a ledger. -/
theorem ledger_run {endpoints : List String} (hi : i < endpoints.length) (actions : List Action) :
    Ledger i ((connected endpoints).dials i actions) ((connected endpoints).writes i actions)
      ((connected endpoints).run actions) :=
  ledger_from (valid_connected endpoints) hi (ledger_connected hi) actions

end System

end ChainGauge.FanOut
