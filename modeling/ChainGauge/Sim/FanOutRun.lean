import ChainGauge.Pool.FanOut
import ChainGauge.Sim.Bench
import ChainGauge.Sim.Clock

/-!
# Fan-outs on a bench

A fan-out over scripted nodes. Rechecks take turns, and in the turn of each all endpoints do, each one
until it has to wait for a slow node. Rechecks that timers start take their turns behind all others,
also when the others belong to later steps.
-/

namespace ChainGauge.Sim

open FanOut (Check Fetch)

/-- A recheck and how long it waits for each endpoint. -/
structure Round where
  id : Nat
  /-- For each endpoint the number of turns that its wait still takes, once it has begun. -/
  waits : List (Option Nat)
  done : Bool

/-- A fan-out over scripted nodes. -/
structure FanOutRun where
  bench : Bench
  system : FanOut.System
  clock : Clock
  /-- Rechecks that timers have started. -/
  background : List Round

namespace FanOutRun

variable (r : FanOutRun)

/-- Where a recheck stands with an endpoint. -/
def check? (id i : Nat) : Option Check :=
  match r.system.rechecks[id]? with
  | some (.underWay checks) => checks[i]?
  | _ => none

/-- Whether a recheck has written. -/
def isFinished (id : Nat) : Bool :=
  r.system.rechecks[id]? = some .finished

/-- Lets something happen to a recheck. -/
def happen (id : Nat) (event : FanOut.Event) : FanOutRun :=
  { r with system := r.system.step id event }

/-- One turn of an endpoint in a recheck; `fuel` bounds the moves. -/
def turn (id i : Nat) : FanOutRun → Option Nat → Nat → FanOutRun × Option Nat
  | r, left, 0 => (r, left)
  | r, left, fuel + 1 =>
    match r.check? id i, left with
    | some (.probing found), none =>
      let endpoint := found.endpoint
      turn id i { r with bench := r.bench.noteProbe endpoint } (some (r.bench.probeTurns endpoint)) fuel
    | some .dialing, none =>
      turn id i { r with bench := r.bench.noteDial i } (some (r.bench.dialTurns i)) fuel
    | some (.probing found), some 0 =>
      turn id i (r.happen id (.probed i (r.bench.answer found.endpoint .blockCount).isOk)) none fuel
    | some .dialing, some 0 =>
      let r := { r with bench := r.bench.noteDialed i }
      turn id i (r.happen id (.dialed i (r.bench.connects i))) none fuel
    | _, some (n + 1) => (r, some n)
    | _, _ => (r, left)

/-- One turn of every endpoint from one on. -/
def turns (id i : Nat) : FanOutRun → List (Option Nat) → FanOutRun × List (Option Nat)
  | r, [] => (r, [])
  | r, left :: rest =>
    let (r, left) := r.turn id i left 8
    let (r, rest) := turns id (i + 1) r rest
    (r, left :: rest)

/-- One turn of a recheck. It looks at the slots first and writes them last. -/
def move (t : Round) : FanOutRun × Round :=
  let (r, waits) := (r.happen t.id .look).turns t.id 0 t.waits
  let r := r.happen t.id .write
  (r, { t with waits, done := r.isFinished t.id })

/-- One turn of every recheck that is not done. -/
def moves : FanOutRun → List Round → FanOutRun × List Round
  | r, [] => (r, [])
  | r, t :: ts =>
    let (r, t) := if t.done then (r, t) else r.move t
    let (r, ts) := moves r ts
    (r, t :: ts)

/-- Several rechecks begin together. -/
def enter (count : Nat) : FanOutRun × List Round :=
  let first := r.system.rechecks.length
  let system := (List.range count).foldl (fun s _ => s.act .recheck) r.system
  ({ r with system },
    (List.range count).map fun i => ⟨first + i, r.system.slots.map fun _ => none, false⟩)

/-- One turn of the rechecks in the background; those whose timers have gone off by now begin. -/
def tend : FanOutRun :=
  let (r, begun) :=
    match r.clock.next? (r.clock.now + 1) with
    | none => (r, [])
    | some (count, clock) => enter { r with clock } count
  let (r, ts) := moves r (r.background ++ begun)
  { r with background := ts.filter (!·.done) }

/-- Turns until all rechecks are done, with those in the background in between. -/
def rounds : FanOutRun → List Round → Nat → FanOutRun
  | r, _, 0 => r
  | r, ts, fuel + 1 =>
    let (r, ts) := moves r ts
    if ts.all (·.done) then r else rounds r.tend ts fuel

/-- A bound on the number of turns. -/
def maxRounds : Nat := 10000000

/-- Forgets the rechecks once none is left. -/
def forget : FanOutRun :=
  if r.background.isEmpty then { r with system := { r.system with rechecks := [] } } else r

/-- Several rechecks together, from their start to their end. -/
def recheck (count : Nat) : FanOutRun :=
  let (r, ts) := r.enter count
  (rounds r ts maxRounds).forget

/-- Turns of the background until it is at rest. -/
def settle : FanOutRun → Nat → FanOutRun
  | r, 0 => r
  | r, fuel + 1 =>
    let r := r.tend
    if r.background.isEmpty then r.forget else settle r fuel

/-- Starts a timer of rechecks. -/
def startTimer (period : Nat) : FanOutRun :=
  { r with clock := r.clock.start period }

/-- Cancels the timers. -/
def cancel : FanOutRun :=
  { r with clock := r.clock.cancel }

/-- Time passes once the background is at rest; timers that go off together recheck together. -/
def sleep (nanos : Nat) : FanOutRun :=
  if nanos = 0 then r
  else
    let r := r.settle maxRounds
    let (r, clock) := r.clock.sleep recheck (r.clock.now + nanos) r maxRounds
    { r with clock }

/-- The answers to a query of all endpoints with a connection, by their names. -/
def gather (q : Query) : List (String × q.Value) :=
  let live := r.system.live
  let answered := live.foldl (fun f (_, c) => f.hear c (r.bench.answer c.endpoint)) (Fetch.start q live)
  answered.results

/-- The heights up to which the endpoints have computed states. -/
def heights : List (String × Nat) :=
  (r.gather .stateHeight).map fun (name, h) => (name, h.computed)

/-- The roots of the state of a height. -/
def roots (height : Nat) : List (String × Bytes) :=
  r.gather (.stateRoot height)

/-- Connects a fan-out; every endpoint must be there. -/
def connect (b : Bench) : Bench × Except ChainError FanOutRun :=
  if b.endpoints.isEmpty then (b, .error .noEndpoint)
  else
    let (r, b) := (FanOut.connect Bench.dial b.endpoints).run b
    (b, r.map fun system => ⟨b, system, .fresh, []⟩)

end FanOutRun

end ChainGauge.Sim
