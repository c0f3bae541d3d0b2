import ChainGauge.Rpc.Query

/-!
# Scripted nodes

A scripted node stands in for a node of a chain: it answers queries from a script in JSON. The script
says whether the node is up, whether its calls fail, and what it answers; invocations are looked up
by contract, method and first parameter, the more specific entry first.
-/

namespace ChainGauge.Sim

/-- A node that answers from a script. -/
structure ScriptedNode where
  name : String
  script : Json

namespace ScriptedNode

variable (n : ScriptedNode)

/-- Whether the node answers at all. -/
def isUp : Bool :=
  (n.script.field "up").asBool?.getD true

/-- Whether every call but the one for the number of blocks fails. -/
def failsCalls : Bool :=
  (n.script.field "fail_calls").asBool?.getD false

/-- The number of blocks, a word of thirty-two bits. -/
def height : Nat :=
  (n.script.field "height").asNat?.getD 100 % 0x100000000

/-- How many turns the number of blocks takes. -/
def slowness : Nat :=
  (n.script.field "slow").asNat?.getD 0

/-- Whether dialing the node takes a turn. -/
def isSlowToDial : Bool :=
  (n.script.field "slow_dial").asBool?.getD false

/-- A failure in the node's own words. -/
def failure {α : Type} (text : String) : Except ChainError α :=
  .error (.call (.reported text))

/-- The entry of a table for an invocation. -/
def findEntry (table : Json) (contract : ScriptHash) (method : String) (params : List Param) :
    Option Json :=
  let plain := [contract.toHex ++ "." ++ method, method]
  let keys :=
    match params with
    | [] => plain
    | p :: _ => plain.map (fun k => k ++ "(" ++ p.value ++ ")") ++ plain
  keys.findSome? table.member?

/-- What a failing entry says. -/
def scriptedFailure? (entry : Json) : Option ChainError :=
  match (entry.field "rpc_error").asString?, (entry.field "invocation_error").asString? with
  | some m, _ => some (.call (.reported m))
  | none, some m => some (.invocation (.reported m))
  | none, none => none

/-- Reads what an entry answers. -/
def readEntry {α : Type} (method : String) (read : Json.Reader α) :
    Option Json → Except ChainError α
  | none => failure s!"no response for {method}"
  | some entry =>
    match scriptedFailure? entry with
    | some e => .error e
    | none => (read entry.canonical).mapError fun _ => .call (.body method)

/-- The root of every state. -/
def root : Bytes :=
  List.replicate 32 <|
    match Hex.decode ((n.script.field "root").asString?.getD "") with
    | .ok (b :: _) => b
    | _ => 0

/-- The answer of a node that is up and whose calls do not fail. -/
def answerUp : (q : Query) → q.Reply
  | .version => .ok ⟨"", 0⟩
  | .blockCount => .ok n.height
  | .committee =>
    (((n.script.field "committee").asArray?.getD []).mapM fun j =>
      PublicKey.ofHex (j.asString?.getD "")).mapError .key
  | .nativeContracts =>
    (Json.readEach Json.readContract
      ((n.script.field "natives").asArray?.getD [])).mapError fun _ =>
        .call (.body "getnativecontracts")
  | .contractState id =>
    match (n.script.field "contracts").member? (toString id) with
    | none => failure s!"unknown contract {id}"
    | some j => (Json.readContract j).mapError fun _ => .call (.body "getcontractstate")
  | .invoke contract method params =>
    readEntry method Json.readInvocation (findEntry (n.script.field "invoke") contract method params)
  | .traverse contract method params _ =>
    readEntry method (fun j => Json.readStack (j.field "items"))
      (findEntry (n.script.field "traverse") contract method params)
  | .stateHeight => .ok ⟨n.height, n.height - 1⟩
  | .stateRoot height =>
    if height < (n.script.field "root_from").asNat?.getD 0 then failure "unknown state root"
    else .ok n.root

/-- The answer of the node. -/
def answer (q : Query) : q.Reply :=
  if !n.isUp then failure s!"{n.name} is down"
  else if n.failsCalls ∧ q ≠ .blockCount then failure s!"{n.name} call failed"
  else n.answerUp q

/-- Whether the node notes a query; invocations only if it is up and its calls do not fail. -/
def notes : Query → Bool
  | .blockCount | .committee | .nativeContracts | .contractState _ => true
  | .invoke _ _ _ | .traverse _ _ _ _ => n.isUp && !n.failsCalls
  | .version | .stateHeight | .stateRoot _ => false

/-- Whether a dial of the node succeeds: it must tell its version. -/
def connects : Bool :=
  match n.answer .version with
  | .ok _ => true
  | .error _ => false

/-- Replaces fields of an object; fields that are objects on both sides are merged. -/
def merge (old patch : Json) : Json :=
  match old, patch with
  | .object _, .object changes =>
    changes.foldl (fun acc m =>
      let value :=
        match acc.member? m.1, m.2 with
        | some (.object inner), .object added =>
          .object (added.foldl (fun done a => Json.insertMember a.1 a.2 done)
            (Json.canonicalMembers [] inner))
        | _, v => v
      .object (Json.insertMember m.1 value (acc.asObject?.getD []))) old.canonical
  | _, _ => patch

/-- The node with a changed script. -/
def patched (patch : Json) : ScriptedNode :=
  { n with script := merge n.script patch }

end ScriptedNode

end ChainGauge.Sim
