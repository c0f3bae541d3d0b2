import ChainGauge.Proofs.Pool.Representation

/-!
# Whose sign of life the stamp is

A pool notes when it last saw a sign of life: a dial that made a connection, or a probe that found
one alive. Dials happen under the lock, so their signs are of the connection that the pool holds. A
probe takes its time without the lock, and the connection may be replaced meanwhile; its sign is
noted all the same. From then on the pool trusts its connection for the sign of life of another one.

## Key results

- `System.signed_run`: the stamp is the last sign of life, and of the pool's connection unless late
- `stamp_of_fresh`: when a connection that is handed out unprobed is the one that the stamp is about
- `stamp_of_replaced`: a late sign makes the pool hand out a connection that it would have probed
-/

namespace ChainGauge.Pool

/-- A sign of life of a connection. -/
structure Sign where
  connection : Connection
  now : Nat
  /-- Whether the connection had been replaced by then. -/
  late : Bool
  deriving DecidableEq, Repr

/-- The sign of life that an event brings where an asker stands. -/
def Phase.sign? (phase : Phase) (_ : Nat) (p : State) (e : Event) : Option Sign :=
  match e, phase with
  | .probed true now, .probing c g => some ⟨c, now, g ≠ p.generation⟩
  | .dialed true now, .dialing k => some ⟨⟨p.target k, p.serial⟩, now, false⟩
  | _, _ => none

/-- The sign of life that comes at a moment. -/
def Moment.sign? (m : Moment) : Option Sign :=
  m.mark? Phase.sign?

/-- The last sign of life in a run, or the one before it. -/
def System.lastSign (s : System) (first : Sign) (actions : List Action) : Sign :=
  ((s.moments actions).filterMap Moment.sign?).getLastD first

namespace Moment

variable {s : System} {id : Nat} {e : Event} {phase : Phase}

/-- The sign of life at a moment is that of the step that an asker takes. -/
private theorem sign?_moved (before : s.phase? id = some phase) :
    (⟨s, .event id e⟩ : Moment).sign? = phase.sign? id s.pool e :=
  mark?_moved before

/-- An event that moves nobody is no sign of life. -/
private theorem sign?_ignored
    (unmoved : ∀ c, s.calls[id]? = some c →
      ∀ m, ¬ Transition id c.purpose s.pool s.holder e c.phase m) :
    (⟨s, .event id e⟩ : Moment).sign? = none := by
  -- A sign of life is an answered probe or a connected dial, and either moves its call.
  refine mark?_ignored unmoved fun c sign hsign => ?_
  unfold Phase.sign? at hsign
  split at hsign
  · rename_i hprobing
    exact ⟨_, by simp only [Call.move?, hprobing]; rfl⟩
  · rename_i hdialing
    exact ⟨_, by simp only [Call.move?, hdialing]; rfl⟩
  · cases hsign

end Moment

/-- What the stamp of a pool tells: when a sign of life came, and which connection gave it. -/
structure State.Signed (p : State) (sign : Sign) : Prop where
  stamp_eq : p.stamp = sign.now + 1
  connection_eq : sign.late = false → sign.connection = ⟨p.current, p.generation⟩
  serial_lt : sign.late = true → sign.connection.serial < p.generation

section Moves

variable {id : Nat} {purpose : Purpose} {p : State} {holder : Option Nat} {e : Event}
  {phase : Phase} {m : Move} {sign : Sign}

/-- A connection that was found and not replaced since is the last one that was made. -/
private theorem State.Outdates.eq_current {c : Connection} {g : Nat} (h : p.Outdates (some c) g)
    (hg : g = p.generation) : c = ⟨p.current, p.generation⟩ := by
  obtain ⟨endpoint, serial⟩ := c
  have hserial : serial = g := h.serial_eq _ rfl
  have hendpoint : endpoint = p.current := h.endpoint_eq _ rfl hg
  rw [hserial, hendpoint, hg]

/-- The sign of a probe is of the pool's connection, or late. -/
theorem State.Outdates.signed {c : Connection} {g : Nat} (h : p.Outdates (some c) g) (now : Nat) :
    (p.markHealthy now).Signed ⟨c, now, g ≠ p.generation⟩ where
  stamp_eq := rfl
  connection_eq hlate := by
    exact h.eq_current (by simpa using hlate)
  serial_lt hlate := by
    have hg : g ≠ p.generation := by simpa using hlate
    rw [h.serial_eq c rfl]
    exact Nat.lt_of_le_of_ne h.le hg

/-- A move changes the stamp only together with a sign of life. -/
theorem Transition.signed (h : Transition id purpose p holder e phase m) (hp : p.Sound)
    (hseen : ∀ found g, phase.seen? = some (found, g) → p.Outdates found g) (hs : p.Signed sign) :
    m.pool.Signed ((phase.sign? id p e).getD sign) := by
  cases h with
  | alive => exact (hseen _ _ rfl).signed _
  | @connected k now =>
    refine ⟨rfl, fun _ => ?_, fun hlate => nomatch hlate⟩
    simp only [Phase.sign?, Option.getD_some, hp.serial_eq]
    rfl
  | locked => exact ⟨hs.stamp_eq, hs.connection_eq, hs.serial_lt⟩
  | _ => exact hs

end Moves

namespace System

variable {s t : System} {a : Action} {first : Sign} {signs : List Sign}

/-- The stamp of a pool keeps telling the last sign of life. -/
theorem Acts.signed (h : s.Acts a t) (hv : s.Valid) (hs : s.pool.Signed (signs.getLastD first)) :
    t.pool.Signed ((signs ++ ((⟨s, a⟩ : Moment).sign?).toList).getLastD first) := by
  cases h with
  | asked => simpa [Moment.sign?, Moment.mark?] using hs
  | ignored unmoved => simpa [Moment.sign?_ignored unmoved] using hs
  | @moved id e purpose phase m t before transition pool =>
    have hnext := transition.signed hv.sound (fun found g => hv.seen id phase found g before) hs
    rw [pool, Moment.sign?_moved before]
    cases hsign : phase.sign? id s.pool e with
    | none => simpa [hsign] using hnext
    | some sign => simpa [hsign] using hnext

/-- The stamp is the last sign of life. -/
theorem signed_run (hs : s.Valid) (hfirst : s.pool.Signed first) (actions : List Action) :
    (s.run actions).pool.Signed (s.lastSign first actions) := by
  have hall := marks_induction (f := Moment.sign?)
    (P := fun signs t => t.Valid ∧ t.pool.Signed (signs.getLastD first))
    (fun _ s a ⟨hv, hs⟩ => ⟨(s.acts_act a).valid hv, (s.acts_act a).signed hv hs⟩)
    ⟨hs, hfirst⟩ actions
  exact hall.2

end System

/-- The dial that makes the first connection of a pool is its first sign of life. -/
def State.firstSign (p : State) (now : Nat) : Sign :=
  ⟨⟨p.current, 0⟩, now, false⟩

/-- A pool that was just connected tells of the dial that connected it. -/
private theorem signed_of_connect {size interval now : Nat} {connects : Nat → Bool} {p : State}
    (h : connect size interval connects now = some p) : p.Signed (p.firstSign now) := by
  obtain ⟨first, -, rfl⟩ := Option.map_eq_some_iff.mp h
  exact ⟨rfl, fun _ => rfl, fun hlate => nomatch hlate⟩

/-- In every run, let an asker be about to get the connection that it found, without a probe, since
the stamp is fresh. Then it gets it, and the stamp is the last sign of life of the run. If that sign
was not late, it is one of the connection that is handed out if and only if that connection was not
replaced since it was found. If it was late, it is one of a connection that had been replaced, and
not of the one that is handed out, unless that one had been replaced as well. -/
theorem stamp_of_fresh {size interval now : Nat} {connects : Nat → Bool} {p : State}
    (h : connect size interval connects now = some p) (actions : List Action) {id g later : Nat}
    {c : Connection} (hjudging : ((System.idle p).run actions).phase? id = some (.judging c g))
    (hfresh : ((System.idle p).run actions).pool.isFresh later = true) :
    let s := (System.idle p).run actions
    let sign := (System.idle p).lastSign (p.firstSign now) actions
    (s.act (.event id (.judge later))).phase? id = some (.returned (some c)) ∧
      s.pool.stamp = sign.now + 1 ∧
      (sign.late = false → (sign.connection = c ↔ g = s.pool.generation)) ∧
      (sign.late = true → sign.connection.serial < s.pool.generation ∧
        (sign.connection = c → g < s.pool.generation)) := by
  intro s sign
  have hvalid : s.Valid := valid_of_connect h actions
  have hsigned : s.pool.Signed sign :=
    System.signed_run (System.valid_idle (connect_eq_some h).1) (signed_of_connect h) actions
  have hseen : s.pool.Outdates (some c) g := hvalid.seen id _ _ g hjudging rfl
  refine ⟨?_, hsigned.stamp_eq, fun hlate => ?_, fun hlate => ?_⟩
  · exact (System.act_of_transition hjudging fun _ => .fresh hfresh).1
  -- A prompt sign is of the held connection, which the call judges iff no failover came between.
  · rw [hsigned.connection_eq hlate]
    constructor
    · rintro rfl
      exact (hseen.serial_eq _ rfl).symm
    · intro hg
      exact (hseen.eq_current hg).symm
  · have hlt := hsigned.serial_lt hlate
    refine ⟨hlt, ?_⟩
    rintro rfl
    rwa [hseen.serial_eq _ rfl] at hlt

/-- Behind a failover the stamp is about the new connection, which is handed out unprobed. -/
theorem stamp_of_fresh_second :
    let p := State.connected 2 10 0 0
    let actions : List Action := [.ask .recheck, .event 0 .look, .event 0 (.probed false 3),
      .event 0 .acquire, .event 0 (.dialed true 5), .ask .use, .event 1 .look]
    let s := (System.idle p).run actions
    connect 2 10 (fun _ => true) 0 = some p ∧ s.phase? 1 = some (.judging ⟨1, 1⟩ 1) ∧
      s.pool.isFresh 10 = true ∧
      (s.act (.event 1 (.judge 10))).phase? 1 = some (.returned (some ⟨1, 1⟩)) ∧
      ((System.idle p).lastSign (p.firstSign 0) actions).connection = ⟨1, 1⟩ := by
  intro p actions s
  have h : connect 2 10 (fun _ => true) 0 = some p := by decide
  have hjudging : s.phase? 1 = some (.judging ⟨1, 1⟩ 1) := by decide
  have hfresh : s.pool.isFresh 10 = true := by decide
  obtain ⟨hreturned, -, hprompt, -⟩ := stamp_of_fresh h actions hjudging hfresh
  exact ⟨h, hjudging, hfresh, hreturned, (hprompt (by decide)).mpr (by decide)⟩

/-- A late sign of life makes the pool hand out a connection unprobed. One asker probes the first
connection for a long time; meanwhile another one finds it silent and replaces it. Long after that
the probe succeeds, and the next asker gets the second connection on the strength of a sign of the
first one, although there was no sign of the second one since it was made: without the late sign it
would have been probed. -/
theorem stamp_of_replaced :
    let p := State.connected 2 10 0 0
    let failover : List Action := [.ask .recheck, .ask .recheck, .event 0 .look, .event 1 .look,
      .event 1 (.probed false 1), .event 1 .acquire, .event 1 (.dialed true 5)]
    let asked : List Action := [.ask .use, .event 2 .look]
    let s := (System.idle p).run (failover ++ .event 0 (.probed true 100) :: asked)
    let sign := (System.idle p).lastSign (p.firstSign 0)
      (failover ++ .event 0 (.probed true 100) :: asked)
    connect 2 10 (fun _ => true) 0 = some p ∧ s.phase? 2 = some (.judging ⟨1, 1⟩ 1) ∧
      s.pool.held = some ⟨1, 1⟩ ∧
      (s.act (.event 2 (.judge 105))).phase? 2 = some (.returned (some ⟨1, 1⟩)) ∧
      s.pool.stamp = sign.now + 1 ∧ sign = ⟨⟨0, 0⟩, 100, true⟩ ∧
      (((System.idle p).run (failover ++ asked)).act (.event 2 (.judge 105))).phase? 2 =
        some (.probing ⟨1, 1⟩ 1) := by
  decide

end ChainGauge.Pool
