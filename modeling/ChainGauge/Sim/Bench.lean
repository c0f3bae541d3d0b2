import ChainGauge.Sim.ScriptedNode

/-!
# A bench of scripted nodes

Scripted nodes under the names of endpoints, with a log of what was asked of them: which endpoints
were dialed, with what success, and how often each node was asked for its number of blocks.
-/

namespace ChainGauge.Sim

/-- Scripted nodes with a log. -/
structure Bench where
  endpoints : List String
  nodes : List ScriptedNode
  /-- The endpoints dialed since the log was last read, in order. -/
  dialed : List String
  /-- Every successful dial. -/
  connections : List String
  /-- Every question for a number of blocks. -/
  probes : List String

namespace Bench

/-- A bench where nothing has been asked. -/
def fresh (endpoints : List String) (nodes : List ScriptedNode) : Bench :=
  ⟨endpoints, nodes, [], [], []⟩

variable (b : Bench)

/-- The name of an endpoint. -/
def endpoint (i : Nat) : String :=
  b.endpoints.getD i ""

/-- The node behind an endpoint. -/
def node? (i : Nat) : Option ScriptedNode :=
  b.nodes.find? (·.name == b.endpoint i)

/-- What comes of a query to an endpoint. -/
def answer (i : Nat) (q : Query) : q.Reply :=
  match b.node? i with
  | some n => n.answer q
  | none => ScriptedNode.failure s!"unknown endpoint {b.endpoint i}"

/-- Whether an endpoint can be dialed. -/
def connects (i : Nat) : Bool :=
  (b.node? i).any ScriptedNode.connects

/-- How many turns a question for the number of blocks takes. -/
def probeTurns (i : Nat) : Nat :=
  ((b.node? i).map ScriptedNode.slowness).getD 0

/-- How many turns a dial takes. -/
def dialTurns (i : Nat) : Nat :=
  if (b.node? i).any ScriptedNode.isSlowToDial then 1 else 0

/-- Notes a question for the number of blocks. -/
def noteProbe (i : Nat) : Bench :=
  { b with probes := b.probes ++ [b.endpoint i] }

/-- Notes the start of a dial. -/
def noteDial (i : Nat) : Bench :=
  { b with dialed := b.dialed ++ [b.endpoint i] }

/-- Notes what came of a dial. -/
def noteDialed (i : Nat) : Bench :=
  if b.connects i then { b with connections := b.connections ++ [b.endpoint i] } else b

/-- Dials a name and notes the dial. -/
def dial (name : String) : StateM Bench (Except ChainError Unit) := do
  let b ← get
  let r : Except ChainError NodeVersion :=
    match b.nodes.find? (·.name == name) with
    | some n => n.answer .version
    | none => ScriptedNode.failure s!"unknown endpoint {name}"
  set { b with
    dialed := b.dialed ++ [name]
    connections := if r.isOk then b.connections ++ [name] else b.connections }
  pure (r.map fun _ => ())

/-- Forgets the dials whose log was read. -/
def readLog : Bench :=
  { b with dialed := [] }

/-- Changes the script of a node. -/
def patch (name : String) (change : Json) : Bench :=
  { b with nodes := b.nodes.map fun n => if n.name == name then n.patched change else n }

/-- How often a name appears in a log. -/
def count (log : List String) (name : String) : Nat :=
  log.countP (· == name)

end Bench

end ChainGauge.Sim
