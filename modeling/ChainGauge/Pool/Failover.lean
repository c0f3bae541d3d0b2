/-!
# One connection to one of several endpoints

A pool holds at most one connection, to one of its endpoints. Who needs it asks for it: while the last
sign of life is young enough the connection is handed out as it is, otherwise it is probed first.
When the probe fails, or there is no connection, the endpoints are dialed in turn from a cursor on,
each at most once, under a lock; whoever waited for the lock meanwhile takes the new connection
instead of dialing again. The generation counts the connections that replaced another one.

Asking for the connection is not one step: a probe and each dial take time, in which others may ask
too, and who asks may give up while waiting. The stamp and the endpoint in use are read without the
lock, so others may also come between the look at the pool and the question whether the connection
is fresh. What the end of a dial changes is one step: all of it but the stamp is seen only under the
lock or through the endpoint in use, and the stamp is written last.

`Call` is the place where an asker stands, `Call.move?` says what an event makes of it and
`System.act` is one action of a pool with all its askers; an event that does not apply where an
asker stands changes nothing. What probes, dials and queries bring, and the time, come with the
events.
-/

namespace ChainGauge.Pool

/-- A connection: the endpoint that was dialed, and a number that no other connection has. -/
structure Connection where
  endpoint : Nat
  serial : Nat
  deriving DecidableEq, Repr, Inhabited

/-- The shared state of a pool. -/
structure State where
  /-- The number of endpoints. -/
  size : Nat
  /-- How long a sign of life counts. -/
  interval : Nat
  /-- The endpoint to dial first the next time. -/
  next : Nat
  held : Option Connection
  /-- The number of connections that replaced another one. -/
  generation : Nat
  /-- The endpoint of the last connection. -/
  current : Nat
  /-- One more than the time of the last sign of life; zero stands for none. -/
  stamp : Nat
  /-- The number for the next connection. -/
  serial : Nat
  deriving DecidableEq, Repr

/-- Whether the last sign of life still counts at a time. -/
def State.isFresh (p : State) (now : Nat) : Bool :=
  p.stamp ≠ 0 && (now + 1 - p.stamp < p.interval)

/-- Notes a sign of life at a time. -/
def State.markHealthy (p : State) (now : Nat) : State :=
  { p with stamp := now + 1 }

/-- The endpoint of a dial: so many places behind the cursor, in turn. -/
def State.target (p : State) (offset : Nat) : Nat :=
  (p.next + offset) % p.size

/-- Takes the connection that a dial made. -/
def State.install (p : State) (offset now : Nat) : State :=
  let endpoint := p.target offset
  { p with
    current := endpoint
    next := (endpoint + 1) % p.size
    held := some ⟨endpoint, p.serial⟩
    generation := p.generation + 1
    stamp := now + 1
    serial := p.serial + 1 }

/-- The state of a pool whose first connection a dial made, with every endpoint before it dialed in
vain. -/
def State.connected (size interval offset now : Nat) : State :=
  { size, interval
    next := (offset + 1) % size
    held := some ⟨offset, 0⟩
    generation := 0
    current := offset
    stamp := now + 1
    serial := 1 }

/-- Why someone asks for the connection. -/
inductive Purpose where
  /-- To have it; a fresh connection is not probed. -/
  | use
  /-- To send a query on it at once; a fresh connection is not probed. -/
  | query
  /-- To see whether it is alive. -/
  | recheck
  deriving DecidableEq, Repr

/-- Whether a fresh connection will do without a probe. -/
def Purpose.trusts : Purpose → Bool
  | .recheck => false
  | _ => true

/-- Where an asker stands. -/
inductive Phase where
  | arriving
  /-- The connection of this generation was found; whether it is fresh is looked up next. -/
  | judging (found : Connection) (generation : Nat)
  /-- The connection that was found is being probed. -/
  | probing (found : Connection) (generation : Nat)
  /-- What was found, if anything, will not do; the lock is awaited. -/
  | waiting (found : Option Connection) (generation : Nat)
  /-- The lock is held and the endpoint at this offset is being dialed. -/
  | dialing (offset : Nat)
  /-- The connection was handed out, or no endpoint could be dialed. -/
  | returned (connection : Option Connection)
  /-- The query on the connection that was handed out came to its end. -/
  | answered (connection : Connection) (ok : Bool)
  | abandoned
  deriving DecidableEq, Repr

/-- Someone who asks for the connection. -/
structure Call where
  purpose : Purpose
  phase : Phase
  deriving DecidableEq, Repr

/-- Whether nothing is left to wait for. -/
def Call.isDone (c : Call) : Bool :=
  match c.phase with
  | .returned none | .answered _ _ | .abandoned => true
  | .returned (some _) => c.purpose ≠ .query
  | _ => false

/-- What happens to an asker. -/
inductive Event where
  /-- The asker looks at the pool. -/
  | look
  /-- The asker looks up whether the connection that it found is fresh. -/
  | judge (now : Nat)
  | probed (alive : Bool) (now : Nat)
  /-- The asker gets the lock. -/
  | acquire
  | dialed (connected : Bool) (now : Nat)
  | answered (ok : Bool)
  | abandon
  deriving DecidableEq, Repr

/-- What an asker goes on to, with the pool and the holder of the lock as it leaves them. -/
structure Move where
  phase : Phase
  pool : State
  holder : Option Nat
  deriving DecidableEq, Repr

namespace State

variable (p : State)

/-- An asker looks at the pool. -/
def look (purpose : Purpose) : Phase :=
  match p.held with
  | none => .waiting none p.generation
  | some found =>
    if purpose.trusts then .judging found p.generation else .probing found p.generation

/-- An asker looks up whether the connection that it found is fresh. -/
def judge (found : Connection) (generation now : Nat) : Phase :=
  if p.isFresh now then .returned (some found) else .probing found generation

/-- An asker gets the lock. If a newer connection than the one that it found is there, it is taken;
otherwise the pool drops its connection and the first endpoint is dialed. -/
def acquire (id generation : Nat) : Move :=
  match p.held with
  | some found =>
    -- Whoever held the lock before may already have replaced the connection.
    if p.generation ≠ generation then ⟨.returned (some found), p, none⟩
    else ⟨.dialing 0, { p with held := none }, some id⟩
  | none => ⟨.dialing 0, p, some id⟩

/-- A dial under the lock comes to its end. -/
def dialed (id offset : Nat) (connected : Bool) (now : Nat) : Move :=
  if connected then
    let pool := p.install offset now
    ⟨.returned pool.held, pool, none⟩
  else if offset + 1 < p.size then ⟨.dialing (offset + 1), p, some id⟩
  else ⟨.returned none, p, none⟩

end State

/-- What an event makes of an asker; `none` where it does not apply. Nobody looks at the pool or gets
the lock while it is held. -/
def Call.move? (c : Call) (id : Nat) (p : State) (holder : Option Nat) (event : Event) :
    Option Move :=
  match event, c.phase with
  -- A look only reads, but it has to wait for whoever holds the lock to write.
  | .look, .arriving => if holder.isSome then none else some ⟨p.look c.purpose, p, none⟩
  | .judge now, .judging found generation => some ⟨p.judge found generation now, p, holder⟩
  | .probed true now, .probing found _ => some ⟨.returned (some found), p.markHealthy now, holder⟩
  | .probed false _, .probing found generation => some ⟨.waiting (some found) generation, p, holder⟩
  | .acquire, .waiting _ generation =>
    if holder.isSome then none else some (p.acquire id generation)
  | .dialed connected now, .dialing offset => some (p.dialed id offset connected now)
  | .answered ok, .returned (some connection) =>
    if c.purpose = .query then some ⟨.answered connection ok, p, holder⟩ else none
  -- Giving up frees the lock if it was held.
  | .abandon, _ =>
    if c.isDone then none else some ⟨.abandoned, p, if holder = some id then none else holder⟩
  | _, _ => none

/-- A pool with those who ask for its connection. -/
structure System where
  pool : State
  calls : List Call
  /-- Who holds the lock. -/
  holder : Option Nat
  deriving DecidableEq, Repr

/-- Something that happens: someone new asks, or an event meets an asker. -/
inductive Action where
  | ask (purpose : Purpose)
  | event (id : Nat) (event : Event)
  deriving DecidableEq, Repr

/-- A pool that nobody asks. -/
def System.idle (pool : State) : System :=
  ⟨pool, [], none⟩

namespace System

/-- Where an asker stands. -/
def phase? (s : System) (id : Nat) : Option Phase :=
  s.calls[id]?.map Call.phase

/-- Someone new asks. -/
def ask (s : System) (purpose : Purpose) : System :=
  { s with calls := s.calls ++ [⟨purpose, .arriving⟩] }

/-- Makes the move of an asker. -/
def move (s : System) (id : Nat) (c : Call) (m : Move) : System :=
  ⟨m.pool, s.calls.set id { c with phase := m.phase }, m.holder⟩

/-- One event of one asker. -/
def step (s : System) (id : Nat) (event : Event) : System :=
  match s.calls[id]? with
  | none => s
  | some c =>
    match c.move? id s.pool s.holder event with
    | none => s
    | some m => s.move id c m

/-- What an action makes of a pool. -/
def act (s : System) : Action → System
  | .ask purpose => s.ask purpose
  | .event id event => s.step id event

/-- What a run of actions makes of a pool. -/
def run (s : System) (actions : List Action) : System :=
  actions.foldl act s

end System

/-- The first endpoint that can be dialed when a pool connects. -/
def firstOf (size : Nat) (connects : Nat → Bool) : Option Nat :=
  (List.range size).find? connects

/-- How long a sign of life counts where nothing else is said, in nanoseconds. -/
def defaultInterval : Nat := 5 * 1000000000

/-- Connects a pool: the endpoints are dialed in turn until one can be dialed. An interval of zero
stands for the usual one. -/
def connect (size interval : Nat) (connects : Nat → Bool) (now : Nat) : Option State :=
  (firstOf size connects).map fun offset =>
    .connected size (if interval = 0 then defaultInterval else interval) offset now

end ChainGauge.Pool
