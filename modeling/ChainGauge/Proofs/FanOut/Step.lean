import ChainGauge.Pool.FanOut

/-!
# What one action does to a fan-out

`Transition` lists the moves that rechecks make, and `Recheck.move?_eq_some_iff` says that these are
all of them. `System.Acts` carries the list over to a fan-out with all its rechecks and queries: an
action lets someone new in, changes nothing, tells a query something, or makes one recheck move and
leaves all others where they are. Invariants are proved from these lists and never from the
functions themselves.

## Key results

- `Recheck.move?_eq_some_iff`: the moves of a recheck are the transitions
- `System.acts_act`: what an action does to the slots and the rechecks
- `System.run_induction`: what every action keeps, every run keeps
- `System.valid_run`: there is one slot, and one entry in each recheck, for every endpoint
-/

namespace ChainGauge.FanOut

open Pool (Connection)

/-- The moves of a recheck, from slots and a serial number: the event, where the recheck stands and
what the event makes of them. -/
inductive Transition (slots : List (Option Connection)) (serial : Nat) :
    Event → Recheck → Move → Prop where
  | looked : Transition slots serial .look .arriving ⟨.underWay (slots.map .ofSlot), slots, serial⟩
  | probed {checks : List Check} {i : Nat} {found : Connection} {alive : Bool}
    (probing : checks[i]? = some (.probing found)) :
    Transition slots serial (.probed i alive) (.underWay checks)
      ⟨.underWay (checks.set i (if alive then .alive else .dialing)), slots, serial⟩
  | dialed {checks : List Check} {i : Nat} {connected : Bool}
    (dialing : checks[i]? = some .dialing) :
    Transition slots serial (.dialed i connected) (.underWay checks)
      ⟨.underWay (checks.set i (.decided (if connected then some ⟨i, serial⟩ else none))), slots,
        if connected then serial + 1 else serial⟩
  | written {checks : List Check} (settled : checks.all Check.isSettled = true) :
    Transition slots serial .write (.underWay checks)
      ⟨.finished, slots.zipWith Check.written checks, serial⟩

/-- The moves of a recheck are the transitions. -/
theorem Recheck.move?_eq_some_iff {r : Recheck} {slots : List (Option Connection)} {serial : Nat}
    {e : Event} {m : Move} : r.move? slots serial e = some m ↔ Transition slots serial e r m := by
  constructor
  · intro h
    -- The cases of the function are those of the relation.
    unfold move? at h
    split at h
    case h_1 =>
      cases h
      exact .looked
    case h_2 =>
      split at h
      · rename_i hprobing
        cases h
        exact .probed hprobing
      · exact nomatch h
    case h_3 =>
      split at h
      · rename_i hdialing
        cases h
        exact .dialed hdialing
      · exact nomatch h
    case h_4 =>
      split at h
      · rename_i hsettled
        cases h
        exact .written hsettled
      · exact nomatch h
    case h_5 => exact nomatch h
  · intro h
    cases h with
    | looked => rfl
    | probed probing => simp only [move?, probing]
    | dialed dialing => simp only [move?, dialing, ↓reduceIte]
    | written settled => simp only [move?, settled, ↓reduceIte]

/-- Where a recheck stands with an endpoint. -/
def Recheck.check? (r : Recheck) (i : Nat) : Option Check :=
  match r with
  | .underWay checks => checks[i]?
  | _ => none

@[simp] theorem Recheck.check?_arriving (i : Nat) : Recheck.arriving.check? i = none := rfl

@[simp] theorem Recheck.check?_finished (i : Nat) : Recheck.finished.check? i = none := rfl

@[simp] theorem Recheck.check?_underWay (checks : List Check) (i : Nat) :
    (Recheck.underWay checks).check? i = checks[i]? := rfl

/-- A move keeps the number of slots, and of the entries of its recheck. -/
private theorem Transition.lengths {slots : List (Option Connection)} {serial n : Nat} {e : Event}
    {r : Recheck} {m : Move} (h : Transition slots serial e r m) (hslots : slots.length = n)
    (hchecks : ∀ checks, r = .underWay checks → checks.length = n) :
    m.slots.length = n ∧ ∀ checks, m.recheck = .underWay checks → checks.length = n := by
  -- Entries are mapped or replaced, never added.
  cases h with
  | looked =>
    refine ⟨hslots, ?_⟩
    rintro _ ⟨⟩
    rwa [List.length_map]
  | probed | dialed =>
    refine ⟨hslots, ?_⟩
    rintro _ ⟨⟩
    rw [List.length_set]
    exact hchecks _ rfl
  | written =>
    have hlength := hchecks _ rfl
    refine ⟨?_, fun _ h => nomatch h⟩
    rw [List.length_zipWith]
    omega

namespace System

variable {s t : System} {a : Action} {id i : Nat}

/-- Where a recheck stands with an endpoint, if it has looked and not yet written. -/
def check? (s : System) (id i : Nat) : Option Check :=
  s.rechecks[id]?.bind (·.check? i)

/-- The check of a slot is that of its recheck. -/
theorem check?_of_recheck {r : Recheck} (h : s.rechecks[id]? = some r) :
    s.check? id i = r.check? i := by
  simp [check?, h]

/-- What an action does, seen by the slots and the rechecks. -/
inductive Acts (s : System) : Action → System → Prop where
  | entered : Acts s .recheck { s with rechecks := s.rechecks ++ [.arriving] }
  | ignored {id : Nat} {e : Event}
    (unmoved : ∀ r, s.rechecks[id]? = some r → ∀ m, ¬ Transition s.slots s.serial e r m) :
    Acts s (.event id e) s
  | moved {id : Nat} {e : Event} {r : Recheck} {m : Move}
    (before : s.rechecks[id]? = some r) (transition : Transition s.slots s.serial e r m) :
    Acts s (.event id e)
      { s with rechecks := s.rechecks.set id m.recheck, slots := m.slots, serial := m.serial }
  | asked {q : Query} :
    Acts s (.fetch q) { s with fetches := s.fetches ++ [⟨q, .start q s.live⟩] }
  | told {id : Nat} {c : Connection} {answer : (q : Query) → q.Reply} :
    Acts s (.replied id c answer)
      { s with fetches := s.fetches.modify id fun f => ⟨f.1, f.2.hear c answer⟩ }

/-- Every action does one of these things. -/
theorem acts_act (s : System) (a : Action) : s.Acts a (s.act a) := by
  cases a with
  | recheck => exact .entered
  | fetch q => exact .asked
  | replied id c answer => exact .told
  | event id e =>
    simp only [act, step]
    -- An event is ignored if there is no such recheck, or if it cannot take it.
    split
    · rename_i hnone
      exact .ignored fun r hr => nomatch hnone.symm.trans hr
    · rename_i r hr
      split
      · rename_i hnone
        refine .ignored fun r' hr' m hm => ?_
        cases hr.symm.trans hr'
        exact nomatch hnone.symm.trans (Recheck.move?_eq_some_iff.mpr hm)
      · rename_i m hm
        exact .moved hr (Recheck.move?_eq_some_iff.mp hm)

/-- The rechecks where one of them moved on. -/
theorem getElem?_set_recheck {r : Recheck} (before : s.rechecks[id]? = some r) (r' : Recheck)
    (j : Nat) :
    (s.rechecks.set id r')[j]? = if j = id then some r' else s.rechecks[j]? := by
  have hlt : id < s.rechecks.length := (List.getElem?_eq_some_iff.mp before).1
  split
  · subst j
    exact List.getElem?_set_self hlt
  · rename_i hj
    exact List.getElem?_set_ne (Ne.symm hj)

/-! ## Runs -/

@[simp] theorem run_nil (s : System) : s.run [] = s := rfl

@[simp] theorem run_cons (s : System) (a : Action) (actions : List Action) :
    s.run (a :: actions) = (s.act a).run actions := rfl

/-- Runs in turn. -/
theorem run_append (s : System) (actions more : List Action) :
    s.run (actions ++ more) = (s.run actions).run more :=
  List.foldl_append

/-- What every action keeps, every run keeps. -/
theorem run_induction {P : System → Prop} (keeps : ∀ s a t, s.Acts a t → P s → P t) (hs : P s)
    (actions : List Action) : P (s.run actions) := by
  induction actions generalizing s with
  | nil => exact hs
  | cons a actions ih => exact ih (keeps s a _ (s.acts_act a) hs)

/-- Nobody who rechecks is ever forgotten. -/
theorem lt_length_run (h : id < s.rechecks.length) (actions : List Action) :
    id < (s.run actions).rechecks.length := by
  refine run_induction (P := fun t => id < t.rechecks.length) (fun t a t' hact ht => ?_) h actions
  cases hact with
  | entered =>
    rw [List.length_append]
    omega
  | moved => rwa [List.length_set]
  | ignored | asked | told => exact ht

/-! ## One slot for every endpoint -/

/-- There is one slot for every endpoint, and one entry in every recheck that is under way. -/
structure Valid (s : System) : Prop where
  slots : s.slots.length = s.endpoints.length
  checks : ∀ (id : Nat) (checks : List Check), s.rechecks[id]? = some (.underWay checks) →
    checks.length = s.endpoints.length

/-- A fan-out that was just connected is valid. -/
theorem valid_connected (endpoints : List String) : (connected endpoints).Valid where
  slots := by simp [connected]
  checks := fun id checks h => by simp [connected] at h

/-- No action makes a valid system invalid. -/
theorem Acts.valid (h : s.Acts a t) (hs : s.Valid) : t.Valid := by
  cases h with
  | entered =>
    refine ⟨hs.slots, fun id checks hid => ?_⟩
    -- Who has just arrived has no entries yet.
    rcases List.mem_append.mp (List.mem_of_getElem? hid) with hmem | hmem
    · obtain ⟨j, hj⟩ := List.mem_iff_getElem?.mp hmem
      exact hs.checks j checks hj
    · exact nomatch List.mem_singleton.mp hmem
  | ignored => exact hs
  | moved before transition =>
    obtain ⟨hslots, hchecks⟩ :=
      transition.lengths hs.slots fun checks hr => hs.checks _ checks (hr ▸ before)
    refine ⟨hslots, fun j checks hj => ?_⟩
    rw [getElem?_set_recheck before] at hj
    split at hj
    · exact hchecks checks (Option.some.inj hj)
    · exact hs.checks j checks hj
  | asked => exact ⟨hs.slots, hs.checks⟩
  | told => exact ⟨hs.slots, hs.checks⟩

/-- No run does. -/
theorem valid_run (hs : s.Valid) (actions : List Action) : (s.run actions).Valid :=
  run_induction (fun _ _ _ hact => hact.valid) hs actions

/-- No run changes the endpoints. -/
theorem endpoints_run (s : System) (actions : List Action) :
    (s.run actions).endpoints = s.endpoints :=
  run_induction (P := fun t => t.endpoints = s.endpoints)
    (fun _ _ _ hact h => by cases hact <;> exact h) rfl actions

end System

end ChainGauge.FanOut
