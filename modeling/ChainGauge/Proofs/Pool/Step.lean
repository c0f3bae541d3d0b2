import ChainGauge.Pool.Failover

/-!
# What one action does to a pool

`Transition` lists the moves that askers make, each with what has to hold for it, and
`Call.move?_eq_some_iff` says that these are all of them. `System.Acts` carries the list over to a
pool with all its askers: an action lets someone new in, changes nothing, or makes one asker move
and leaves the phases of all others as they are. Invariants are proved from these lists and never
from the functions themselves.

## Key results

- `Call.move?_eq_some_iff`: the moves of an asker are the transitions
- `System.acts_act`: what an action does to the phases, the pool and the lock
- `System.run_induction`: what every action keeps, every run keeps
-/

namespace ChainGauge.Pool

/-- The moves of an asker with a purpose, from a pool and a holder of the lock: the event, the phase
that it meets and what it makes of them. -/
inductive Transition (id : Nat) (purpose : Purpose) (p : State) (holder : Option Nat) :
    Event → Phase → Move → Prop where
  /-- The pool holds no connection. -/
  | missed (free : holder = none) (lost : p.held = none) :
    Transition id purpose p holder .look .arriving ⟨.waiting none p.generation, p, none⟩
  | found {c : Connection} (free : holder = none) (held : p.held = some c)
    (trusts : purpose.trusts = true) :
    Transition id purpose p holder .look .arriving ⟨.judging c p.generation, p, none⟩
  | checked {c : Connection} (free : holder = none) (held : p.held = some c)
    (trusts : purpose.trusts = false) :
    Transition id purpose p holder .look .arriving ⟨.probing c p.generation, p, none⟩
  | fresh {c : Connection} {g now : Nat} (fresh : p.isFresh now = true) :
    Transition id purpose p holder (.judge now) (.judging c g) ⟨.returned (some c), p, holder⟩
  | stale {c : Connection} {g now : Nat} (stale : p.isFresh now = false) :
    Transition id purpose p holder (.judge now) (.judging c g) ⟨.probing c g, p, holder⟩
  | alive {c : Connection} {g now : Nat} :
    Transition id purpose p holder (.probed true now) (.probing c g)
      ⟨.returned (some c), p.markHealthy now, holder⟩
  | silent {c : Connection} {g now : Nat} :
    Transition id purpose p holder (.probed false now) (.probing c g)
      ⟨.waiting (some c) g, p, holder⟩
  /-- Someone else has replaced the connection. -/
  | taken {found : Option Connection} {g : Nat} {c : Connection} (free : holder = none)
    (held : p.held = some c) (newer : p.generation ≠ g) :
    Transition id purpose p holder .acquire (.waiting found g) ⟨.returned (some c), p, none⟩
  | locked {found : Option Connection} {g : Nat} (free : holder = none)
    (lost : p.held = none ∨ p.generation = g) :
    Transition id purpose p holder .acquire (.waiting found g)
      ⟨.dialing 0, { p with held := none }, some id⟩
  | connected {k now : Nat} :
    Transition id purpose p holder (.dialed true now) (.dialing k)
      ⟨.returned (some ⟨p.target k, p.serial⟩), p.install k now, none⟩
  | refused {k now : Nat} (more : k + 1 < p.size) :
    Transition id purpose p holder (.dialed false now) (.dialing k) ⟨.dialing (k + 1), p, some id⟩
  | exhausted {k now : Nat} (last : p.size ≤ k + 1) :
    Transition id purpose p holder (.dialed false now) (.dialing k) ⟨.returned none, p, none⟩
  | answered {c : Connection} {ok : Bool} (asks : purpose = .query) :
    Transition id purpose p holder (.answered ok) (.returned (some c)) ⟨.answered c ok, p, holder⟩
  | abandoned {phase : Phase} (undone : Call.isDone ⟨purpose, phase⟩ = false) :
    Transition id purpose p holder .abandon phase
      ⟨.abandoned, p, if holder = some id then none else holder⟩

/-! ## The functions make the transitions -/

variable {id : Nat} {purpose : Purpose} {p : State} {holder : Option Nat} {e : Event}
  {phase : Phase} {m : Move}

@[simp] theorem State.install_held (p : State) (k now : Nat) :
    (p.install k now).held = some ⟨p.target k, p.serial⟩ := rfl

/-- Nothing is dropped from an empty pool. -/
private theorem State.drop_eq_self (h : p.held = none) : { p with held := none } = p := by
  cases p
  cases h
  rfl

/-- A look at a pool whose lock is free is a step. -/
private theorem transition_of_look (h : holder = none) :
    Transition id purpose p holder .look .arriving ⟨p.look purpose, p, none⟩ := by
  unfold State.look
  split
  · exact .missed h (by assumption)
  · split
    · exact .found h (by assumption) (by assumption)
    · exact .checked h (by assumption) (Bool.eq_false_iff.mpr (by assumption))

/-- So is getting the lock. -/
private theorem transition_of_acquire {found : Option Connection} {g : Nat} (h : holder = none) :
    Transition id purpose p holder .acquire (.waiting found g) (p.acquire id g) := by
  unfold State.acquire
  split
  · split
    · exact .taken h (by assumption) (by assumption)
    · rename_i hg
      exact .locked h (.inr (Decidable.of_not_not hg))
  -- Nothing is held, so there is nothing to drop.
  · rename_i hheld
    have hlocked : Transition id purpose p holder .acquire (.waiting found g)
        ⟨.dialing 0, { p with held := none }, some id⟩ := .locked h (.inl hheld)
    rwa [State.drop_eq_self hheld] at hlocked

/-- So is the end of a dial, whatever it comes to. -/
private theorem transition_of_dialed {k now : Nat} {connected : Bool} :
    Transition id purpose p holder (.dialed connected now) (.dialing k)
      (p.dialed id k connected now) := by
  unfold State.dialed
  cases connected with
  | true => exact .connected
  | false =>
    simp only [Bool.false_eq_true, ↓reduceIte]
    split
    · exact .refused (by assumption)
    · exact .exhausted (by omega)

/-- Every move of a call is a step. -/
private theorem transition_of_move? {c : Call} (h : c.move? id p holder e = some m) :
    Transition id c.purpose p holder e c.phase m := by
  obtain ⟨purpose, phase⟩ := c
  unfold Call.move? at h
  split at h
  -- One case per phase the event finds, in the order of `Call.move?`.
  case h_1 hphase =>
    subst hphase
    split at h
    · exact nomatch h
    · rename_i hfree
      cases h
      exact transition_of_look (by simpa using hfree)
  case h_2 hphase =>
    subst hphase
    cases h
    unfold State.judge
    split
    · exact .fresh (by assumption)
    · exact .stale (Bool.eq_false_iff.mpr (by assumption))
  case h_3 hphase => subst hphase; cases h; exact .alive
  case h_4 hphase => subst hphase; cases h; exact .silent
  case h_5 hphase =>
    subst hphase
    split at h
    · exact nomatch h
    · rename_i hfree
      cases h
      exact transition_of_acquire (by simpa using hfree)
  case h_6 hphase => subst hphase; cases h; exact transition_of_dialed
  case h_7 hphase =>
    subst hphase
    split at h
    · cases h; exact .answered (by assumption)
    · exact nomatch h
  case h_8 =>
    split at h
    · exact nomatch h
    · rename_i hdone
      cases h
      exact .abandoned (Bool.eq_false_iff.mpr hdone)
  case h_9 => exact nomatch h

/-- Every step is a move. -/
private theorem move?_of_transition {c : Call}
    (h : Transition id c.purpose p holder e c.phase m) : c.move? id p holder e = some m := by
  obtain ⟨purpose, phase⟩ := c
  cases h with
  | missed free lost => simp [Call.move?, State.look, free, lost]
  | found free held trusts => simp_all [Call.move?, State.look]
  | checked free held trusts => simp_all [Call.move?, State.look]
  | fresh fresh => simp [Call.move?, State.judge, fresh]
  | stale stale => simp [Call.move?, State.judge, stale]
  | alive => rfl
  | silent => rfl
  | taken free held newer => simp [Call.move?, State.acquire, free, held, newer]
  | locked free lost =>
    cases hheld : p.held with
    | none => simp [Call.move?, State.acquire, free, hheld, State.drop_eq_self hheld]
    | some c =>
      -- A connection is held, so it is the one the caller saw, and is dropped.
      have hg := lost.resolve_left (by simp [hheld])
      simp [Call.move?, State.acquire, free, hheld, hg]
  | connected => rfl
  | refused more => simp [Call.move?, State.dialed, more]
  | exhausted last => simp [Call.move?, State.dialed, Nat.not_lt.mpr last]
  | answered asks => simpa [Call.move?] using asks
  | abandoned undone => cases phase <;> simp_all [Call.move?]

/-- The moves of an asker are the transitions. -/
theorem Call.move?_eq_some_iff {c : Call} :
    c.move? id p holder e = some m ↔ Transition id c.purpose p holder e c.phase m :=
  ⟨transition_of_move?, move?_of_transition⟩

/-! ## Phases of all askers -/

namespace System

variable {s t : System} {a : Action} {j : Nat}

/-- Where an asker stands is where its call does. -/
theorem phase?_eq_some_iff :
    s.phase? id = some phase ↔ ∃ c, s.calls[id]? = some c ∧ c.phase = phase := by
  simp only [phase?, Option.map_eq_some_iff]

/-- Where nobody asks, nobody stands anywhere. -/
@[simp] theorem phase?_idle (p : State) (id : Nat) : (idle p).phase? id = none := by
  simp [phase?, idle]

/-- Nobody asks a pool at first. -/
theorem phase?_idle_ne {p : State} {id : Nat} {phase : Phase} :
    (idle p).phase? id ≠ some phase := by
  simp

@[simp] theorem idle_pool (p : State) : (idle p).pool = p := rfl

@[simp] theorem ask_pool (s : System) (purpose : Purpose) : (s.ask purpose).pool = s.pool := rfl

/-- Who asks arrives, and all others stay where they are. -/
theorem phase?_ask (s : System) (purpose : Purpose) (j : Nat) :
    (s.ask purpose).phase? j = if j = s.calls.length then some .arriving else s.phase? j := by
  unfold phase? ask
  split
  · subst j
    simp
  · rename_i hj
    by_cases hlt : j < s.calls.length
    · rw [List.getElem?_append_left hlt]
    · rw [List.getElem?_eq_none (by simp; omega), List.getElem?_eq_none (by omega)]

/-- The next number is free. -/
theorem phase?_length (s : System) : s.phase? s.calls.length = none := by
  simp [phase?]

/-- Whoever asks anew was not there before. -/
theorem phase?_ask_of_some (purpose : Purpose) (h : s.phase? j = some phase) :
    (s.ask purpose).phase? j = some phase := by
  rw [phase?_ask, if_neg, h]
  rintro rfl
  exact nomatch s.phase?_length.symm.trans h

/-- A move is that of one asker. -/
theorem phase?_move {c : Call} (h : s.calls[id]? = some c) (m : Move) (j : Nat) :
    (s.move id c m).phase? j = if j = id then some m.phase else s.phase? j := by
  have hlt : id < s.calls.length := (List.getElem?_eq_some_iff.mp h).1
  unfold phase? move
  split
  · subst j
    simp [List.getElem?_set_self hlt]
  · rename_i hj
    rw [List.getElem?_set_ne (Ne.symm hj)]

/-- An event that an asker can take is its move. -/
theorem act_of_move? {c : Call} (hc : s.calls[id]? = some c)
    (hm : c.move? id s.pool s.holder e = some m) : s.act (.event id e) = s.move id c m := by
  simp only [act, step, hc, hm]

/-- A transition that an asker can make for any purpose is made. -/
theorem act_of_transition (hphase : s.phase? id = some phase)
    (h : ∀ purpose, Transition id purpose s.pool s.holder e phase m) :
    (s.act (.event id e)).phase? id = some m.phase ∧ (s.act (.event id e)).pool = m.pool ∧
      (s.act (.event id e)).holder = m.holder := by
  obtain ⟨c, hc, rfl⟩ := phase?_eq_some_iff.mp hphase
  rw [act_of_move? hc (Call.move?_eq_some_iff.mpr (h c.purpose)), phase?_move hc, if_pos rfl]
  exact ⟨rfl, rfl, rfl⟩

/-- What an action does, seen by the phases of the askers. -/
inductive Acts (s : System) : Action → System → Prop where
  | asked {purpose : Purpose} : Acts s (.ask purpose) (s.ask purpose)
  | ignored {id : Nat} {e : Event}
    (unmoved : ∀ c, s.calls[id]? = some c →
      ∀ m, ¬ Transition id c.purpose s.pool s.holder e c.phase m) :
    Acts s (.event id e) s
  | moved {id : Nat} {e : Event} {purpose : Purpose} {phase : Phase} {m : Move} {t : System}
    (before : s.phase? id = some phase)
    (transition : Transition id purpose s.pool s.holder e phase m)
    (pool : t.pool = m.pool) (holder : t.holder = m.holder)
    (phases : ∀ j, t.phase? j = if j = id then some m.phase else s.phase? j) :
    Acts s (.event id e) t

/-- Every action does one of these things. -/
theorem acts_act (s : System) (a : Action) : s.Acts a (s.act a) := by
  cases a with
  | ask purpose => exact .asked
  | event id e =>
    simp only [act, step]
    split
    -- No such call: the event changes nothing.
    · rename_i hnone
      exact .ignored fun c hc => nomatch hnone.symm.trans hc
    · rename_i c hc
      split
      · rename_i hnone
        refine .ignored fun c' hc' m hm => ?_
        cases hc.symm.trans hc'
        exact nomatch hnone.symm.trans (Call.move?_eq_some_iff.mpr hm)
      · rename_i m hm
        exact .moved (phase?_eq_some_iff.mpr ⟨c, hc, rfl⟩) (Call.move?_eq_some_iff.mp hm) rfl rfl
          (phase?_move hc m)

/-- Seen from one asker, an action leaves it where it was, lets it in or is its own move. -/
theorem Acts.phase?_cases (h : s.Acts a t) (hid : t.phase? id = some phase) :
    s.phase? id = some phase ∨ phase = .arriving ∨
      ∃ e purpose before m, a = .event id e ∧ s.phase? id = some before ∧
        Transition id purpose s.pool s.holder e before m ∧ t.pool = m.pool ∧ t.holder = m.holder ∧
          phase = m.phase := by
  cases h with
  | asked =>
    rw [phase?_ask] at hid
    split at hid
    · exact .inr (.inl (Option.some.inj hid).symm)
    · exact .inl hid
  | ignored => exact .inl hid
  -- The call moved is this one or leaves this one as it was.
  | @moved i e purpose before m t hbefore transition pool holder phases =>
    rw [phases] at hid
    split at hid
    · subst i
      exact .inr (.inr ⟨e, purpose, before, m, rfl, hbefore, transition, pool, holder,
        (Option.some.inj hid).symm⟩)
    · exact .inl hid

/-! ## Runs -/

@[simp] theorem run_nil (s : System) : s.run [] = s := rfl

@[simp] theorem run_cons (s : System) (a : Action) (actions : List Action) :
    s.run (a :: actions) = (s.act a).run actions := rfl

/-- Runs in turn. -/
theorem run_append (s : System) (before after : List Action) :
    s.run (before ++ after) = (s.run before).run after :=
  List.foldl_append

/-- A run ends with its last action. -/
theorem run_concat (s : System) (actions : List Action) (a : Action) :
    s.run (actions ++ [a]) = (s.run actions).act a := by
  rw [run_append, run_cons, run_nil]

/-- What every action keeps, every run keeps. -/
theorem run_induction {P : System → Prop} (keeps : ∀ s a t, s.Acts a t → P s → P t) (hs : P s)
    (actions : List Action) : P (s.run actions) := by
  induction actions generalizing s with
  | nil => exact hs
  | cons a actions ih => exact ih (keeps s a _ (s.acts_act a) hs)

end System

end ChainGauge.Pool
