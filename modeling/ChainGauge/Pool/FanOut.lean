import ChainGauge.Pool.Failover
import ChainGauge.Rpc.Query

/-!
# A connection to every endpoint

A fan-out holds one connection for each endpoint, or none for an endpoint that could not be reached
the last time. A query goes to all connections that are held when it starts (`Fetch`); the answers
come in the order of the endpoints, and who fails is left out. A recheck looks at all slots at once,
probes the connections that it found, dials the endpoints whose connection is missing or silent, and
only when all is decided writes the slots that it dialed for, whatever others wrote to them meanwhile.

A fan-out is there once every endpoint was dialed; one that cannot be dialed is enough that it is not.
The first dials run at the same time too, but nobody can tell: each is one of its own endpoint, and
all of them are awaited before any counts. So they stand one behind the other in `dialEvery`.

Any number of rechecks and queries may be under way together. A look and a write are one step each,
since nobody waits for anything under the lock; every probe, dial and answer is a step of its own.
Who is given up simply has no more steps. `Recheck.move?` says what an event makes of a recheck and
`System.act` is one action; one that does not apply changes nothing.
-/

namespace ChainGauge.FanOut

open Pool (Connection)

/-- Where a recheck stands with one endpoint. -/
inductive Check where
  /-- The connection that was found is being probed. -/
  | probing (found : Connection)
  | dialing
  /-- The connection answered; its slot stays as it is. -/
  | alive
  /-- The endpoint was dialed; the slot is to hold what came of it. -/
  | decided (connection : Option Connection)
  deriving DecidableEq, Repr

/-- A recheck. -/
inductive Recheck where
  | arriving
  /-- It has looked at the slots, and has one entry for each endpoint. -/
  | underWay (checks : List Check)
  | finished
  deriving DecidableEq, Repr

/-- What happens to a recheck. -/
inductive Event where
  | look
  | probed (endpoint : Nat) (alive : Bool)
  | dialed (endpoint : Nat) (connected : Bool)
  | write
  deriving DecidableEq, Repr

/-- What a recheck goes on to, with the slots and the next serial number as it leaves them. -/
structure Move where
  recheck : Recheck
  slots : List (Option Connection)
  serial : Nat
  deriving DecidableEq, Repr

/-- Where a recheck starts with the endpoint of a slot. -/
def Check.ofSlot : Option Connection → Check
  | some found => .probing found
  | none => .dialing

/-- Whether nothing is left to wait for. -/
def Check.isSettled : Check → Bool
  | .alive | .decided _ => true
  | _ => false

/-- The slot after a recheck has written. -/
def Check.written (slot : Option Connection) : Check → Option Connection
  | .decided connection => connection
  | _ => slot

/-- What an event makes of a recheck; `none` where it does not apply. -/
def Recheck.move? (r : Recheck) (slots : List (Option Connection)) (serial : Nat) (event : Event) :
    Option Move :=
  match event, r with
  | .look, .arriving => some ⟨.underWay (slots.map .ofSlot), slots, serial⟩
  | .probed endpoint alive, .underWay checks =>
    match checks[endpoint]? with
    | some (.probing _) =>
      let check := if alive then .alive else .dialing
      some ⟨.underWay (checks.set endpoint check), slots, serial⟩
    | _ => none
  | .dialed endpoint connected, .underWay checks =>
    if checks[endpoint]? = some .dialing then
      let connection := if connected then some ⟨endpoint, serial⟩ else none
      some ⟨.underWay (checks.set endpoint (.decided connection)), slots,
        if connected then serial + 1 else serial⟩
    else none
  | .write, .underWay checks =>
    -- The slots may have changed since the look; those of live connections keep what they hold now.
    if checks.all Check.isSettled then some ⟨.finished, slots.zipWith Check.written checks, serial⟩
    else none
  | _, _ => none

/-- A connection that was asked something, under the address of its endpoint. -/
structure Asked (q : Query) where
  host : String
  connection : Connection
  /-- What came of it, once there is something. -/
  reply : Option q.Reply

/-- A query to all connections that were held when it started, in the order of their endpoints. -/
structure Fetch (q : Query) where
  asked : List (Asked q)

/-- The value that a connection gave, under the address of its endpoint. -/
def Asked.result? {q : Query} (a : Asked q) : Option (String × q.Value) :=
  match a.reply with
  | some (.ok value) => some (a.host, value)
  | _ => none

/-- Notes what a connection answers, unless it has answered already. -/
def Asked.hear {q : Query} (a : Asked q) (connection : Connection) (answer : (q : Query) → q.Reply) :
    Asked q :=
  if a.connection = connection then { a with reply := a.reply.or (some (answer q)) } else a

namespace Fetch

variable {q : Query}

/-- A query that starts with the connections that are held. -/
def start (q : Query) (live : List (String × Connection)) : Fetch q :=
  ⟨live.map fun (host, connection) => ⟨host, connection, none⟩⟩

/-- Notes what a connection answers. -/
def hear (f : Fetch q) (connection : Connection) (answer : (q : Query) → q.Reply) : Fetch q :=
  ⟨f.asked.map (·.hear connection answer)⟩

/-- Whether nothing is left to wait for. -/
def isAnswered (f : Fetch q) : Bool :=
  f.asked.all (·.reply.isSome)

/-- The values that connections gave; who failed is left out. -/
def results (f : Fetch q) : List (String × q.Value) :=
  f.asked.filterMap Asked.result?

end Fetch

/-- The slots of all endpoints with the rechecks and queries that use them. -/
structure System where
  endpoints : List String
  slots : List (Option Connection)
  rechecks : List Recheck
  fetches : List ((q : Query) × Fetch q)
  /-- The number for the next connection. -/
  serial : Nat

/-- Something that happens: a recheck or a query starts, or goes on. -/
inductive Action where
  | recheck
  | event (id : Nat) (event : Event)
  | fetch (q : Query)
  | replied (id : Nat) (connection : Connection) (answer : (q : Query) → q.Reply)

namespace System

/-- The fan-out after every endpoint was dialed. -/
def connected (endpoints : List String) : System :=
  ⟨endpoints, (List.range endpoints.length).map fun i => some ⟨i, i⟩, [], [], endpoints.length⟩

end System

/-- Dials all addresses with someone who dials an address. The first that cannot be dialed decides,
but only when all have been dialed. -/
def dialEvery {m : Type → Type} [Monad m] (dial : String → m (Except ChainError Unit)) :
    List String → m (Except ChainError Unit)
  | [] => pure (.ok ())
  | text :: rest => do
    let r ← dial text
    let rs ← dialEvery dial rest
    pure <|
      match r with
      | .ok () => rs
      | .error e => .error (.during (.dial text) e)

/-- Connects a fan-out with someone who dials an address. -/
def connect {m : Type → Type} [Monad m] (dial : String → m (Except ChainError Unit))
    (endpoints : List String) : m (Except ChainError System) := do
  let r ← dialEvery dial endpoints
  pure (r.map fun _ => .connected endpoints)

namespace System

variable (s : System)

/-- The connections that are held, in the order of their endpoints. -/
def live : List (String × Connection) :=
  (s.endpoints.zip s.slots).filterMap fun (host, slot) => slot.map fun c => (host, c)

/-- One event of one recheck. -/
def step (id : Nat) (event : Event) : System :=
  match s.rechecks[id]? with
  | none => s
  | some r =>
    match r.move? s.slots s.serial event with
    | none => s
    | some m =>
      { s with rechecks := s.rechecks.set id m.recheck, slots := m.slots, serial := m.serial }

/-- What an action makes of a fan-out. -/
def act : Action → System
  | .recheck => { s with rechecks := s.rechecks ++ [.arriving] }
  | .event id event => s.step id event
  | .fetch q => { s with fetches := s.fetches ++ [⟨q, .start q s.live⟩] }
  | .replied id connection answer =>
    { s with fetches := s.fetches.modify id fun f => ⟨f.1, f.2.hear connection answer⟩ }

/-- What a run of actions makes of a fan-out. -/
def run (actions : List Action) : System :=
  actions.foldl act s

end System

end ChainGauge.FanOut
