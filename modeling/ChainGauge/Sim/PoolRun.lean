import ChainGauge.Pool.Failover
import ChainGauge.Sim.Bench
import ChainGauge.Sim.Clock

/-!
# Pools on a bench

A pool over scripted nodes whose askers take turns: each one goes on until it has to wait, for the
answer of a slow node or for the lock, which is given in the order in which it was asked for. Rechecks
that timers start take their turns behind all others, also when the others belong to later steps.
-/

namespace ChainGauge.Sim

open Pool (Connection Phase Purpose)

/-- What an asker waits for and what it got. -/
structure Turn where
  id : Nat
  /-- What is to be asked of the connection. -/
  query : Option Query
  /-- How many turns the current wait still takes, once it has begun. -/
  left : Option Nat
  outcome : Option (Option Connection)

/-- A pool over scripted nodes. -/
structure PoolRun where
  bench : Bench
  system : Pool.System
  /-- A time that every event moves on. -/
  now : Nat
  /-- Who waits for the lock, and whether to dial under it. -/
  queue : List (Nat × Bool)
  clock : Clock
  /-- Rechecks that timers have started. -/
  background : List Turn

namespace PoolRun

variable (r : PoolRun)

/-- Lets something happen to an asker. -/
def happen (id : Nat) (event : Pool.Event) : PoolRun :=
  { r with system := r.system.step id event, now := r.now + 1 }

/-- The places in the queue before an asker. -/
def ahead (id : Nat) : List (Nat × Bool) :=
  r.queue.takeWhile (·.1 ≠ id)

/-- Whether an asker may take the lock now: nobody holds it, and only others who want to look, if
anybody, came before one who wants to look. -/
def mayTake (id : Nat) (dials : Bool) : Bool :=
  r.system.holder.isNone && (r.ahead id).all fun w => !w.2 && !dials

/-- An asker stands in the queue. -/
def enqueue (id : Nat) (dials : Bool) : PoolRun :=
  if r.queue.any (·.1 == id) then r else { r with queue := r.queue ++ [(id, dials)] }

/-- An asker leaves the queue. -/
def dequeue (id : Nat) : PoolRun :=
  { r with queue := r.queue.filter (·.1 ≠ id) }

/-- Waits a number of turns, which starts with a note; `none` when the wait is over. -/
def wait (t : Turn) (turns : Nat) (note : PoolRun → PoolRun) : PoolRun × Option Turn :=
  match t.left with
  | none =>
    match turns with
    | 0 => (note r, none)
    | n + 1 => (note r, some { t with left := some n })
  | some 0 => (r, none)
  | some (n + 1) => (r, some { t with left := some n })

/-- One move of an asker, and whether it can go on at once. -/
def move (t : Turn) : PoolRun × Turn × Bool :=
  match r.system.phase? t.id with
  | some .arriving =>
    if r.mayTake t.id false then ((r.dequeue t.id).happen t.id .look, t, true)
    else (r.enqueue t.id false, t, false)
  | some (.judging _ _) => (r.happen t.id (.judge r.now), t, true)
  | some (.probing found _) =>
    match r.wait t (r.bench.probeTurns found.endpoint)
        (fun r => { r with bench := r.bench.noteProbe found.endpoint }) with
    | (r, some t) => (r, t, false)
    | (r, none) =>
      let alive := (r.bench.answer found.endpoint .blockCount).isOk
      (r.happen t.id (.probed alive r.now), { t with left := none }, true)
  | some (.waiting _ _) =>
    if r.mayTake t.id true then ((r.dequeue t.id).happen t.id .acquire, t, true)
    else (r.enqueue t.id true, t, false)
  | some (.dialing offset) =>
    let endpoint := r.system.pool.target offset
    match r.wait t (r.bench.dialTurns endpoint)
        (fun r => { r with bench := r.bench.noteDial endpoint }) with
    | (r, some t) => (r, t, false)
    | (r, none) =>
      let r := { r with bench := r.bench.noteDialed endpoint }
      (r.happen t.id (.dialed (r.bench.connects endpoint) r.now), { t with left := none }, true)
  -- The query goes to the connection itself, after whatever the pool asked to probe it.
  | some (.returned (some c)) =>
    match t.query with
    | none => (r, { t with outcome := some (some c) }, false)
    | some q =>
      let isCount := q = .blockCount
      match r.wait t (if isCount then r.bench.probeTurns c.endpoint else 0)
          (fun r => if isCount then { r with bench := r.bench.noteProbe c.endpoint } else r) with
      | (r, some t) => (r, t, false)
      | (r, none) =>
        (r.happen t.id (.answered (r.bench.answer c.endpoint q).isOk),
          { t with outcome := some (some c) }, false)
  | _ => (r, { t with outcome := some none }, false)

/-- One turn of an asker: it goes on until it has to wait. -/
def turn : PoolRun → Turn → Nat → PoolRun × Turn
  | r, t, 0 => (r, t)
  | r, t, fuel + 1 =>
    match r.move t with
    | (r, t, true) => turn r t fuel
    | (r, t, false) => (r, t)

/-- One turn of every asker that is not done. -/
def round : PoolRun → List Turn → PoolRun × List Turn
  | r, [] => (r, [])
  | r, t :: ts =>
    let (r, t) :=
      if t.outcome.isSome then (r, t) else r.turn t (2 * r.system.pool.size + 8)
    let (r, ts) := round r ts
    (r, t :: ts)

/-- Several begin to ask together. -/
def enter (purpose : Purpose) (query : Option Query) (count : Nat) : PoolRun × List Turn :=
  let first := r.system.calls.length
  let system := (List.range count).foldl (fun s _ => s.ask purpose) r.system
  ({ r with system }, (List.range count).map fun i => ⟨first + i, query, none, none⟩)

/-- One turn of the rechecks in the background; those whose timers have gone off by now begin. -/
def tend : PoolRun :=
  let (r, begun) :=
    match r.clock.next? (r.clock.now + 1) with
    | none => (r, [])
    | some (count, clock) => enter { r with clock } .recheck none count
  let (r, turns) := round r (r.background ++ begun)
  { r with background := turns.filter (·.outcome.isNone) }

/-- Turns until everybody is done, with those in the background in between. -/
def rounds : PoolRun → List Turn → Nat → PoolRun × List Turn
  | r, ts, 0 => (r, ts)
  | r, ts, fuel + 1 =>
    let (r, ts) := round r ts
    if ts.all (·.outcome.isSome) then (r, ts) else rounds r.tend ts fuel

/-- A bound on the number of turns. -/
def maxRounds : Nat := 10000000

/-- Forgets the askers once nobody is left. -/
def forget : PoolRun :=
  if r.background.isEmpty then { r with system := { r.system with calls := [] } } else r

/-- Several ask together. -/
def ask (purpose : Purpose) (query : Option Query) (count : Nat) :
    PoolRun × List (Option Connection) :=
  let (r, turns) := r.enter purpose query count
  let (r, turns) := rounds r turns maxRounds
  (r.forget, turns.map fun t => t.outcome.join)

/-- Turns of the background until it is at rest. -/
def settle : PoolRun → Nat → PoolRun
  | r, 0 => r
  | r, fuel + 1 =>
    let r := r.tend
    if r.background.isEmpty then r.forget else settle r fuel

/-- A query through the pool. -/
def query (q : Query) : PoolRun × q.Reply :=
  match r.ask .query (some q) 1 with
  | (r, [some c]) => (r, r.bench.answer c.endpoint q)
  | (r, _) => (r, .error .noHealthyClient)

/-- A dialogue through the pool. -/
def hold {α : Type} (c : Chain α) : PoolRun × Except ChainError α :=
  let answer (q : Query) : StateM PoolRun q.Reply := fun r => let (r, a) := r.query q; (a, r)
  let (a, r) := (c.run.hold answer : StateM PoolRun _) r
  (r, a)

/-- Several questions for the number of blocks together. -/
def countTogether (count : Nat) : PoolRun × List (Except ChainError Nat) :=
  let (r, found) := r.ask .query (some .blockCount) count
  (r, found.map fun
    | some c => r.bench.answer c.endpoint .blockCount
    | none => .error .noHealthyClient)

/-- A connection that is asked for. -/
def connection : PoolRun × Except ChainError String :=
  match r.ask .use none 1 with
  | (r, [some c]) => (r, .ok (r.bench.endpoint c.endpoint))
  | (r, _) => (r, .error .noHealthyClient)

/-- A recheck of the connection. -/
def recheck : PoolRun × Except ChainError Unit :=
  match r.ask .recheck none 1 with
  | (r, [some _]) => (r, .ok ())
  | (r, _) => (r, .error .noHealthyClient)

/-- Starts a timer of rechecks. -/
def startTimer : PoolRun :=
  { r with clock := r.clock.start r.system.pool.interval }

/-- Cancels the timers. -/
def cancel : PoolRun :=
  { r with clock := r.clock.cancel }

/-- Time passes once the background is at rest; timers that go off together recheck the connection
together. -/
def sleep (nanos : Nat) : PoolRun :=
  if nanos = 0 then r
  else
    let recheck (r : PoolRun) (count : Nat) : PoolRun := (r.ask .recheck none count).1
    let r := r.settle maxRounds
    let (r, clock) := r.clock.sleep recheck (r.clock.now + nanos) r maxRounds
    { r with clock }

/-- Notes that the first endpoints were dialed in turn. -/
def noteDials (b : Bench) (count : Nat) : Bench :=
  (List.range count).foldl (fun b i => (b.noteDial i).noteDialed i) b

/-- Connects a pool; an interval of zero stands for the usual one. -/
def connect (b : Bench) (interval : Nat) : Bench × Except ChainError PoolRun :=
  if b.endpoints.isEmpty then (b, .error .noEndpoint)
  else
    match Pool.connect b.endpoints.length interval b.connects 0 with
    | none => (noteDials b b.endpoints.length, .error .noHealthyClient)
    | some pool =>
      let b := noteDials b (pool.current + 1)
      (b, .ok ⟨b, .idle pool, 1, [], .fresh, []⟩)

end PoolRun

end ChainGauge.Sim
