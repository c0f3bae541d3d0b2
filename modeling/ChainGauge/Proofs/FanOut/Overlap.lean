import ChainGauge.Proofs.FanOut.History

/-!
# Rechecks that overlap

A recheck decides what becomes of a slot when its dial ends, and writes it when all its dials have ended.
Another recheck may dial and write in between, so writes come in another order than dials. Once nobody
is under way, every dial has been written exactly once (`Ledger.writes_perm`), and what counts is
which came last: the slot holds what the last *write* brought, not the last dial. A host that
answered its last dial is lost exactly where a recheck that had dialed it in vain before was the
last to write.

## Key results

- `Ledger.writes_perm`: every dial is written exactly once
- `Ledger.lost_iff`: when a host is lost
- `slot_after_rechecks`: this for every fan-out and every run
- `slot_lost`: a run that loses a host
-/

namespace ChainGauge.FanOut

open Pool (Connection)

/-- Whether a recheck has looked at the slots and not yet written them. -/
def Recheck.isUnderWay : Recheck → Bool
  | .underWay _ => true
  | _ => false

/-- No recheck is under way. -/
def System.IsQuiet (s : System) : Prop :=
  ∀ r ∈ s.rechecks, r.isUnderWay = false

namespace Ledger

variable {i : Nat} {dials writes : List Dial} {s : System}

/-- Only what was dialed is written. -/
private theorem writes_subset (h : Ledger i dials writes s) : writes ⊆ dials :=
  fun d hd => (h.mem_dials d).mpr (.inl hd)

/-- Once nobody is under way, every dial has been written exactly once. -/
theorem writes_perm (h : Ledger i dials writes s) (quiet : s.IsQuiet) : writes.Perm dials := by
  refine (List.perm_ext_iff_of_nodup h.nodup_writes h.nodup_dials).mpr fun d => ?_
  rw [h.mem_dials]
  refine (or_iff_left fun hpending => ?_).symm
  -- Only a recheck that is under way holds a dial.
  obtain ⟨r, hr, hcheck⟩ := Option.bind_eq_some_iff.mp hpending
  cases r with
  | underWay checks => exact nomatch quiet _ (List.mem_of_getElem? hr)
  | arriving => exact nomatch hcheck
  | finished => exact nomatch hcheck

/-- Where the last dial is the last to be written, the slot holds what it brought. -/
private theorem slot_of_last_write (h : Ledger i dials writes s) {d : Dial}
    (hlast : writes.getLast? = some d) : s.slots[i]? = some d.connection := by
  rw [h.slot, slotOf, hlast]

/-- A host that answered its last dial is lost where an older dial, in vain, is the last to be
written. -/
theorem lost_iff (h : Ledger i dials writes s) {d : Dial}
    (hlast : dials.getLast? = some d) (hconnected : d.connection.isSome = true) :
    s.slots[i]? = some none ↔
      ∃ w ∈ dials.dropLast, w.connection = none ∧ writes.getLast? = some w := by
  obtain ⟨older, rfl⟩ := List.getLast?_eq_some_iff.mp hlast
  rw [List.dropLast_concat]
  constructor
  · intro hslot
    have hnone : slotOf i writes = none := Option.some.inj (h.slot.symm.trans hslot)
    -- The first connection is still there where nothing was written.
    obtain rfl | ⟨earlier, w, rfl⟩ := List.eq_nil_or_concat writes
    · exact nomatch hnone
    · rw [List.concat_eq_append, slotOf_concat] at hnone
      have hmem : w ∈ older ++ [d] := h.writes_subset (by simp)
      refine ⟨w, ?_, hnone, by simp⟩
      rcases List.mem_append.mp hmem with hmem | hmem
      · exact hmem
      · cases List.mem_singleton.mp hmem
        simp [hnone] at hconnected
  · rintro ⟨w, -, hnone, hwrite⟩
    rw [h.slot_of_last_write hwrite, hnone]

end Ledger

/-- Of every fan-out, every run of rechecks and every endpoint: the slot holds what the last write
brought, or the first connection before any; only dials are written, none of them twice, and all of
them once no recheck is under way. Where the last dial made a connection, the slot is empty if
and only if an older dial, in vain, was the last to be written, and it holds the connection of the last
dial if that was. -/
theorem slot_after_rechecks (endpoints : List String) (actions : List Action) (i : Nat)
    (hi : i < endpoints.length) :
    let s := (System.connected endpoints).run actions
    let dials := (System.connected endpoints).dials i actions
    let writes := (System.connected endpoints).writes i actions
    s.slots[i]? = some (slotOf i writes) ∧ writes ⊆ dials ∧ writes.Nodup ∧ dials.Nodup ∧
    (s.IsQuiet → writes.Perm dials) ∧
    ∀ d, dials.getLast? = some d → d.connection.isSome = true →
      (s.slots[i]? = some none ↔
        ∃ w ∈ dials.dropLast, w.connection = none ∧ writes.getLast? = some w) ∧
      (writes.getLast? = some d → s.slots[i]? = some d.connection) := by
  intro s dials writes
  -- All of this is in the ledger of the run.
  have h : Ledger i dials writes s := System.ledger_run hi actions
  refine ⟨h.slot, h.writes_subset, h.nodup_writes, h.nodup_dials, h.writes_perm, ?_⟩
  intro d hlast hconnected
  exact ⟨h.lost_iff hlast hconnected, h.slot_of_last_write⟩

/-- One recheck after another: the first finds the host gone, the second has it back. -/
theorem slot_after_rechecks_in_turn :
    let actions : List Action := [.recheck, .event 0 .look, .event 0 (.probed 0 false),
      .event 0 (.dialed 0 false), .event 0 .write, .recheck, .event 1 .look,
      .event 1 (.dialed 0 true), .event 1 .write]
    0 < ["a"].length ∧ ((System.connected ["a"]).run actions).slots[0]? = some (some ⟨0, 1⟩) ∧
      ((System.connected ["a"]).writes 0 actions).Perm [⟨0, none⟩, ⟨1, some ⟨0, 1⟩⟩] := by
  intro actions
  have hi : 0 < ["a"].length := by decide
  have hquiet : ((System.connected ["a"]).run actions).IsQuiet := by
    unfold System.IsQuiet
    decide
  have hdials : (System.connected ["a"]).dials 0 actions = [⟨0, none⟩, ⟨1, some ⟨0, 1⟩⟩] := by
    decide
  -- No recheck is under way, so all dials are written, and the last one is the last write.
  obtain ⟨-, -, -, -, hperm, hlast⟩ := slot_after_rechecks ["a"] actions 0 hi
  rw [hdials] at hperm hlast
  exact ⟨hi, (hlast ⟨1, some ⟨0, 1⟩⟩ rfl rfl).2 (by decide), hperm hquiet⟩

/-- Two rechecks overlap: the slower one dials `a` in vain and then waits for `b`, the faster one
connects to `a` and writes it, and the slower one writes last. All is done, the last dial of `a`
made a connection, and `a` has none. -/
theorem slot_lost :
    let actions : List Action := [.recheck, .event 0 .look, .event 0 (.probed 0 false),
      .event 0 (.dialed 0 false), .recheck, .event 1 .look, .event 1 (.probed 0 false),
      .event 1 (.dialed 0 true), .event 1 (.probed 1 true), .event 1 .write,
      .event 0 (.probed 1 true), .event 0 .write]
    let s := (System.connected ["a", "b"]).run actions
    s.rechecks = [.finished, .finished] ∧
    ((System.connected ["a", "b"]).dials 0 actions).getLast? = some ⟨1, some ⟨0, 2⟩⟩ ∧
    (System.connected ["a", "b"]).writes 0 actions = [⟨1, some ⟨0, 2⟩⟩, ⟨0, none⟩] ∧
    s.slots = [none, some ⟨1, 1⟩] := by
  decide

end ChainGauge.FanOut
