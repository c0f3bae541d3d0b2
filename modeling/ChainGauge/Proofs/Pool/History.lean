import ChainGauge.Proofs.Pool.Step

/-!
# What happened in a run

A run of a pool is looked back on as the list of its moments, each with the pool before an action.
Some moments leave a mark (`Moment.mark?`): a dial came to its end, a connection gave a sign of
life. Statements about several askers are statements about such marks and their order.

## Key results

- `System.mem_moments_iff`: the moments of a run are its actions, each after those before it
- `System.history_induction`: what every action keeps of a history, every run has
- `System.phase?_run_of_rank`: askers only go forward
-/

namespace ChainGauge.Pool

/-- A moment of a run: the pool before an action, and the action. -/
structure Moment where
  before : System
  action : Action

/-- The pool behind a moment. -/
def Moment.after (m : Moment) : System :=
  m.before.act m.action

/-- The moments of a run. -/
def System.moments (s : System) : List Action → List Moment
  | [] => []
  | a :: actions => ⟨s, a⟩ :: (s.act a).moments actions

namespace System

variable {s : System} {a : Action} {id j : Nat} {phase : Phase}

@[simp] theorem moments_nil (s : System) : s.moments [] = [] := rfl

/-- The moments of runs in turn. -/
theorem moments_append (s : System) (before after : List Action) :
    s.moments (before ++ after) = s.moments before ++ (s.run before).moments after := by
  induction before generalizing s with
  | nil => rfl
  | cons a before ih => simp only [List.cons_append, moments, run_cons, ih]

/-- A moment of a run stands between the actions before it and those behind it. -/
theorem mem_moments_iff {m : Moment} {actions : List Action} :
    m ∈ s.moments actions ↔
      ∃ before after, actions = before ++ m.action :: after ∧ m.before = s.run before := by
  constructor
  · intro hm
    induction actions generalizing s with
    | nil => exact nomatch hm
    | cons a actions ih =>
      rcases List.mem_cons.mp hm with rfl | hm
      · exact ⟨[], actions, rfl, rfl⟩
      · obtain ⟨before, after, rfl, hbefore⟩ := ih hm
        exact ⟨a :: before, after, rfl, hbefore⟩
  -- The moment of an action stands behind those of the actions before it.
  · rintro ⟨before, after, rfl, hbefore⟩
    rw [moments_append, ← hbefore]
    exact List.mem_append_right _ List.mem_cons_self

/-- Around a moment of a run there are the moments before and those after it. -/
theorem moments_eq_append_cons {actions : List Action} {pre post : List Moment} {m : Moment}
    (h : s.moments actions = pre ++ m :: post) :
    ∃ before after, actions = before ++ m.action :: after ∧ pre = s.moments before ∧
      m.before = s.run before ∧ post = m.after.moments after := by
  induction actions generalizing s pre with
  | nil => simp at h
  | cons a actions ih =>
    -- The moments run in step with the actions, so splitting the one splits the other.
    cases pre with
    | nil =>
      obtain ⟨rfl, rfl⟩ := List.cons.inj h
      exact ⟨[], actions, rfl, rfl, rfl, rfl⟩
    | cons m' pre =>
      obtain ⟨rfl, htail⟩ := List.cons.inj h
      obtain ⟨before, after, rfl, rfl, hbefore, hpost⟩ := ih htail
      exact ⟨a :: before, after, rfl, rfl, hbefore, hpost⟩

/-- What every action preserves, with the moments so far, holds of the whole run. -/
private theorem history_from {P : List Moment → System → Prop}
    (keeps : ∀ ms s a, P ms s → P (ms ++ [⟨s, a⟩]) (s.act a)) (actions : List Action)
    {ms : List Moment} (hs : P ms s) : P (ms ++ s.moments actions) (s.run actions) := by
  induction actions generalizing s ms with
  | nil => rwa [moments_nil, List.append_nil, run_nil]
  | cons a actions ih =>
    have hnext := ih (keeps ms s a hs)
    rwa [List.append_assoc] at hnext

/-- What every action keeps of the moments so far and the pool behind them, every run has. -/
theorem history_induction {P : List Moment → System → Prop}
    (keeps : ∀ ms s a, P ms s → P (ms ++ [⟨s, a⟩]) (s.act a)) (start : P [] s)
    (actions : List Action) : P (s.moments actions) (s.run actions) :=
  history_from keeps actions start

/-- What every action keeps of the marks that the moments so far left, every run has. -/
theorem marks_induction {α : Type} {f : Moment → Option α} {P : List α → System → Prop}
    (keeps : ∀ xs s a, P xs s → P (xs ++ (f ⟨s, a⟩).toList) (s.act a)) (start : P [] s)
    (actions : List Action) : P ((s.moments actions).filterMap f) (s.run actions) := by
  refine history_induction (P := fun ms t => P (ms.filterMap f) t) ?_ start actions
  intro ms s a hs
  have hnext := keeps _ s a hs
  rw [List.filterMap_append]
  cases hmark : f ⟨s, a⟩ with
  | none => simpa [hmark] using hnext
  | some x => simpa [hmark] using hnext

end System

/-! ## Askers only go forward -/

/-- How far an asker has come. -/
def Phase.rank : Phase → Nat
  | .arriving => 0
  | .judging _ _ => 1
  | .probing _ _ => 2
  | .waiting _ _ => 3
  | .dialing _ => 4
  | .returned _ => 5
  | .answered _ _ => 6
  | .abandoned => 7

/-- A step leads forward. -/
theorem Transition.rank_le {id : Nat} {purpose : Purpose} {p : State} {holder : Option Nat}
    {e : Event} {phase : Phase} {m : Move} (h : Transition id purpose p holder e phase m) :
    phase.rank ≤ m.phase.rank := by
  cases h with
  | abandoned => cases phase <;> simp [Phase.rank]
  | _ => simp [Phase.rank]

/-- So nobody goes back, whatever happens. -/
private theorem System.Acts.phase?_of_rank {s t : System} {a : Action} {j r : Nat} (h : s.Acts a t)
    (hs : ∃ phase, s.phase? j = some phase ∧ r ≤ phase.rank) :
    ∃ phase, t.phase? j = some phase ∧ r ≤ phase.rank := by
  obtain ⟨phase, hphase, hr⟩ := hs
  cases h with
  | asked => exact ⟨phase, phase?_ask_of_some _ hphase, hr⟩
  | ignored => exact ⟨phase, hphase, hr⟩
  -- Only the call that moves changes its phase, and no transition goes down in rank.
  | moved before transition _ _ phases =>
    rw [phases]
    split
    · subst j
      cases before.symm.trans hphase
      exact ⟨_, rfl, Nat.le_trans hr transition.rank_le⟩
    · exact ⟨phase, hphase, hr⟩

/-- An asker who has come so far has come at least as far after a run. -/
theorem System.phase?_run_of_rank {s : System} {j r : Nat} (actions : List Action)
    (h : ∃ phase, s.phase? j = some phase ∧ r ≤ phase.rank) :
    ∃ phase, (s.run actions).phase? j = some phase ∧ r ≤ phase.rank :=
  run_induction (P := fun t => ∃ phase, t.phase? j = some phase ∧ r ≤ phase.rank)
    (fun _ _ _ hact => hact.phase?_of_rank) h actions

/-! ## Marks -/

/-- What the event of a moment leaves behind, by where its asker stands. -/
def Moment.mark? {α : Type} (f : Phase → Nat → State → Event → Option α) (m : Moment) : Option α :=
  match m.action with
  | .ask _ => none
  | .event id e => (m.before.phase? id).bind fun phase => f phase id m.before.pool e

namespace Moment

variable {α : Type} {f : Phase → Nat → State → Event → Option α} {s : System} {id : Nat} {e : Event}

/-- The mark of a moment is that of the step that an asker takes. -/
theorem mark?_moved {phase : Phase} (before : s.phase? id = some phase) :
    (⟨s, .event id e⟩ : Moment).mark? f = f phase id s.pool e := by
  simp [mark?, before]

/-- An event that is ignored leaves no mark, if only moves do. -/
theorem mark?_ignored
    (unmoved : ∀ c, s.calls[id]? = some c →
      ∀ m, ¬ Transition id c.purpose s.pool s.holder e c.phase m)
    (hf : ∀ c x, f (Call.phase c) id s.pool e = some x →
      ∃ m, c.move? id s.pool s.holder e = some m) :
    (⟨s, .event id e⟩ : Moment).mark? f = none := by
  cases hphase : s.phase? id with
  | none => simp [mark?, hphase]
  | some phase =>
    obtain ⟨c, hc, rfl⟩ := System.phase?_eq_some_iff.mp hphase
    rw [mark?_moved hphase]
    -- A mark would be left by a move of the call, and it does not move.
    refine Option.eq_none_iff_forall_ne_some.mpr fun x hx => ?_
    obtain ⟨m, hm⟩ := hf c x hx
    exact unmoved c hc m (Call.move?_eq_some_iff.mp hm)

end Moment

/-! ## Dials -/

/-- A dial that came to its end. -/
structure Dial where
  caller : Nat
  endpoint : Nat
  /-- What came of it. -/
  connection : Option Connection
  deriving DecidableEq, Repr

/-- The dial that an event ends where an asker stands. -/
def Phase.dial? (phase : Phase) (id : Nat) (p : State) (e : Event) : Option Dial :=
  match e, phase with
  | .dialed connected _, .dialing k =>
    some ⟨id, p.target k, if connected then some ⟨p.target k, p.serial⟩ else none⟩
  | _, _ => none

/-- The dial that comes to its end at a moment. -/
def Moment.dial? (m : Moment) : Option Dial :=
  m.mark? Phase.dial?

/-- The dials of a run, in order. -/
def System.dials (s : System) (actions : List Action) : List Dial :=
  (s.moments actions).filterMap Moment.dial?

namespace Moment

variable {s : System} {id : Nat} {e : Event} {phase : Phase}

@[simp] theorem dial?_asked (s : System) (purpose : Purpose) :
    (⟨s, .ask purpose⟩ : Moment).dial? = none := rfl

/-- The dial of a moment is that of the step that an asker takes. -/
theorem dial?_moved (before : s.phase? id = some phase) :
    (⟨s, .event id e⟩ : Moment).dial? = phase.dial? id s.pool e :=
  mark?_moved before

/-- A dial always comes to its end: an event that is ignored is none. -/
theorem dial?_ignored
    (unmoved : ∀ c, s.calls[id]? = some c →
      ∀ m, ¬ Transition id c.purpose s.pool s.holder e c.phase m) :
    (⟨s, .event id e⟩ : Moment).dial? = none := by
  refine mark?_ignored unmoved fun c d hd => ?_
  unfold Phase.dial? at hd
  split at hd
  · rename_i hdialing
    exact ⟨_, by simp only [Call.move?, hdialing]; rfl⟩
  · cases hd

/-- A dial ends in one of three ways: its connection is installed, the next endpoint is dialed, or
no endpoint is left. -/
theorem dial?_cases {m : Moment} {d : Dial} (h : m.dial? = some d) :
    ∃ k, m.before.phase? d.caller = some (.dialing k) ∧ d.endpoint = m.before.pool.target k ∧
      ((∃ now, d.connection = some ⟨d.endpoint, m.before.pool.serial⟩ ∧
          m.after.pool = m.before.pool.install k now ∧
          m.after.phase? d.caller = some (.returned d.connection)) ∨
        (d.connection = none ∧ k + 1 < m.before.pool.size ∧ m.after.pool = m.before.pool ∧
          m.after.phase? d.caller = some (.dialing (k + 1))) ∨
        (d.connection = none ∧ m.before.pool.size ≤ k + 1 ∧ m.after.pool = m.before.pool ∧
          m.after.phase? d.caller = some (.returned none))) := by
  obtain ⟨s, a⟩ := m
  have hact := s.acts_act a
  unfold after
  generalize s.act a = t at hact ⊢
  -- Only a call that moves dials, and only in the three ways in which a dial can end.
  cases hact with
  | asked => exact nomatch h
  | ignored unmoved => exact nomatch (dial?_ignored unmoved).symm.trans h
  | moved before transition pool holder phases =>
    rw [dial?_moved before] at h
    cases transition with
    | @connected k now =>
      cases h
      exact ⟨k, before, rfl, .inl ⟨now, rfl, pool, by rw [phases, if_pos rfl]; rfl⟩⟩
    | @refused k now more =>
      cases h
      exact ⟨k, before, rfl, .inr (.inl ⟨rfl, more, pool, by rw [phases, if_pos rfl]⟩)⟩
    | @exhausted k now last =>
      cases h
      exact ⟨k, before, rfl, .inr (.inr ⟨rfl, last, pool, by rw [phases, if_pos rfl]⟩)⟩
    | _ => exact nomatch h

/-- A dial makes a connection to the endpoint that was dialed. -/
theorem endpoint_of_dial? {m : Moment} {d : Dial} {c : Connection} (h : m.dial? = some d)
    (hc : d.connection = some c) : c.endpoint = d.endpoint := by
  obtain ⟨k, -, -, ⟨now, hsome, -⟩ | ⟨hnone, -⟩ | ⟨hnone, -⟩⟩ := dial?_cases h
  · cases hsome.symm.trans hc
    rfl
  · exact nomatch hnone.symm.trans hc
  · exact nomatch hnone.symm.trans hc

end Moment

end ChainGauge.Pool
