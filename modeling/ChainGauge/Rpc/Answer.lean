import ChainGauge.Stack.Json

/-!
# Answers of a node

What a node answers to the calls that this library makes, as far as the library looks at it. Every
answer is a record in JSON; members that are not looked at may be anything.
-/

namespace ChainGauge

/-- What a node says about its own software and network. -/
structure NodeVersion where
  userAgent : String
  network : Nat
  deriving DecidableEq, Repr, Inhabited

/-- The identity of a deployed contract. -/
structure ContractState where
  id : Int
  hash : ScriptHash
  name : String
  deriving DecidableEq, Inhabited

/-- The heights up to which a node has state roots: computed by itself, and confirmed. -/
structure StateHeight where
  computed : Nat
  confirmed : Nat
  deriving DecidableEq, Repr, Inhabited

/-- The outcome of a read-only invocation. -/
structure Invocation where
  state : String
  exception : Option String
  stack : List StackItem
  session : Option String
  deriving BEq, Inhabited

/-- Why an invocation gives no item. -/
inductive Invocation.Fault where
  /-- The machine did not halt in good order. -/
  | state (name : String) (exception : Option String)
  | emptyStack
  /-- Another cause, in the words it was reported with. -/
  | reported (text : String)
  deriving DecidableEq, Repr

/-- The wording of a fault. -/
def Invocation.Fault.message : Invocation.Fault → String
  | .state name exception => "state " ++ name ++ ": " ++ exception.getD ""
  | .emptyStack => "result stack is empty"
  | .reported s => s

/-- The stack of an invocation that halted and left an item. -/
def Invocation.items (r : Invocation) : Except Invocation.Fault (List StackItem) :=
  if r.state ≠ "HALT" then .error (.state r.state r.exception)
  else if r.stack.isEmpty then .error .emptyStack
  else .ok r.stack

/-- The last item of the stack. -/
def Invocation.top (r : Invocation) : Except Invocation.Fault StackItem :=
  match r.items with
  | .error e => .error e
  | .ok items =>
    match items.getLast? with
    | none => .error .emptyStack
    | some item => .ok item

namespace Json

/-- Reads the part of a version that names the network. -/
def readNetwork : Reader Nat := fun j => do
  let fs ← j.fields [.ofReader "network" readWord]
  optional "network" readWord 0 fs

/-- Reads a version. -/
def readVersion : Reader NodeVersion := fun j => do
  let fs ← j.fields [.ofReader "useragent" readString, .ofReader "protocol" readNetwork]
  let userAgent ← optional "useragent" readString "" fs
  let network ← optional "protocol" readNetwork 0 fs
  .ok ⟨userAgent, network⟩

/-- Reads a script hash in its display form. -/
def readHash : Reader ScriptHash := fun j => do
  let s ← readString j
  (ScriptHash.ofHex s).mapError .hash

/-- Reads the part of a contract's state that names it. -/
def readManifest : Reader String := fun j => do
  let fs ← j.fields [.ofReader "name" readString]
  required "name" readString fs

/-- Reads the state of a contract. -/
def readContract : Reader ContractState := fun j => do
  let readId := readInt (-0x80000000) 0x7fffffff
  let fs ← j.fields
    [.ofReader "id" readId, .ofReader "hash" readHash, .ofReader "manifest" readManifest]
  let id ← required "id" readId fs
  let hash ← required "hash" readHash fs
  let name ← required "manifest" readManifest fs
  .ok ⟨id, hash, name⟩

/-- Reads the heights of a node's state roots. -/
def readStateHeight : Reader StateHeight := fun j => do
  let fs ← j.fields
    [.ofReader "localrootindex" readWord, .ofReader "validatedrootindex" readWord]
  let computed ← required "localrootindex" readWord fs
  let confirmed ← required "validatedrootindex" readWord fs
  .ok ⟨computed, confirmed⟩

/-- Reads a stack. -/
def readStack : Reader (List StackItem) :=
  readArray fun j => StackItem.ofJson j.settled

/-- Reads the outcome of an invocation. -/
def readInvocation : Reader Invocation := fun j => do
  let fs ← j.fields
    [.ofReader "state" readString, .ofReader "exception" readString?,
     .ofReader "stack" readStack, .ofReader "session" readString?]
  let state ← required "state" readString fs
  let exception ← optional "exception" readString? none fs
  let stack ← optional "stack" readStack [] fs
  let session ← optional "session" readString? none fs
  .ok ⟨state, exception, stack, session⟩

/-! ## What counts of a result -/

/-- What counts of the state of a contract. -/
def contractShape : Shape :=
  .record [("id", .whole), ("hash", .whole), ("manifest", .flat ["name"])]

/-- What counts of the outcome of an invocation. -/
def invocationShape : Shape :=
  .record [("state", .whole), ("exception", .whole), ("stack", .list StackItem.shape),
    ("session", .whole)]

/-- What counts of the result of a method. -/
def resultShape : String → Shape
  | "getversion" => .record [("useragent", .whole), ("protocol", .flat ["network"])]
  | "getnativecontracts" => .list contractShape
  | "getcontractstate" => contractShape
  | "invokefunction" => invocationShape
  | "traverseiterator" => .list StackItem.shape
  | "getstateheight" => .flat ["localrootindex", "validatedrootindex"]
  | "getstateroot" => .flat ["roothash"]
  | _ => .whole

end Json

end ChainGauge
