import ChainGauge.Rpc.Query

/-!
# Exchanges with a node

A call is a request in JSON that is sent to a node, with a number that no other request of the same
client has. The node's answer is a record of a result or an error. `call` sends a request and reads
the result; everything short of a result is a `CallFault`.
-/

namespace ChainGauge

/-- A request to a node. -/
structure Request where
  id : Nat
  method : String
  params : List Json
  deriving BEq, Inhabited

/-- The record that is sent. -/
def Request.toJson (r : Request) : Json :=
  .object [("id", .nat r.id), ("jsonrpc", .string "2.0"), ("method", .string r.method),
    ("params", .array r.params)]

/-- What comes of sending a request. -/
inductive Delivery where
  /-- The connection was refused, broke off or took too long. -/
  | failed
  | answered (status : Nat) (body : String)
  deriving DecidableEq, Repr, Inhabited

/-- A node's own report of a failure. -/
structure ReportedError where
  code : Int
  text : String
  data : Option Json

/-- Calls to a node, in which requests are numbered. -/
abbrev Calls (α : Type) : Type :=
  ExceptT ChainError (StateT Nat (Dialogue Request fun _ => Delivery)) α

namespace Calls

/-- A result that needs no call. -/
def outcome {α : Type} (r : Except ChainError α) : Calls α :=
  ExceptT.mk (pure r)

/-- The number for the next request. -/
def takeNumber : Calls Nat :=
  ExceptT.mk fun n => pure (.ok n, n + 1)

/-- Sends a request. -/
def send (r : Request) : Calls Delivery :=
  ExceptT.mk fun n => .ask r fun d => pure (.ok d, n)

/-- Goes on with what came of calls, be it a failure or not. -/
def attempt {α : Type} (c : Calls α) : Calls (Except ChainError α) :=
  ExceptT.mk do
    let r ← c.run
    pure (.ok r)

end Calls

namespace Json

/-- Reads a value, or null for none. -/
def readOption {α : Type} (read : Reader α) : Reader (Option α)
  | .null => .ok none
  | j => (read j).map some

/-- Reads a node's report of a failure. -/
def readReportedError : Reader ReportedError := fun j => do
  let readCode := readInt (-0x8000000000000000) 0x7fffffffffffffff
  let readData : Reader (Option Json) := readOption .ok
  let fs ← j.fields [.ofReader "code" readCode, .ofReader "message" readString,
    .ofReader "data" readData]
  let code ← required "code" readCode fs
  let text ← required "message" readString fs
  let data ← optional "data" readData none fs
  .ok ⟨code, text, data.map canonical⟩

/-- Reads an answer: the result, if there is one, and the report of a failure, if there is one. -/
def readReply {α : Type} (read : Reader α) : Reader (Option α × Option ReportedError) := fun j => do
  let readResult := readOption read
  let readError := readOption readReportedError
  let fs ← j.fields [.ofReader "result" readResult, .ofReader "error" readError]
  let result ←
    if fs.2 then required "result" readResult fs else optional "result" readResult none fs
  let error ← optional "error" readError none fs
  .ok (result, error)

/-- What counts of an answer. -/
def replyShape (result : Shape) : Shape :=
  .record [("result", result), ("error", .flat ["code", "message", "data"])]

end Json

/-- Whether the status of an exchange means success. -/
def isSuccess (status : Nat) : Bool :=
  200 ≤ status && status < 300

/-- The result in the body of an answer. -/
def readBody {α : Type} (method : String) (read : Json.Reader α) (body : String) :
    Except CallFault α :=
  match (Json.select? (Json.replyShape (Json.resultShape method)) body).map
    (Json.readReply read) with
  | none | some (.error _) => .error (.body method)
  -- A reported failure counts more than a result beside it.
  | some (.ok (_, some e)) => .error (.answer method e.code e.text e.data)
  | some (.ok (none, none)) => .error (.empty method)
  | some (.ok (some a, none)) => .ok a

/-- The result that an exchange brought. -/
def readDelivery {α : Type} (url method : String) (read : Json.Reader α) :
    Delivery → Except CallFault α
  | .failed => .error (.exchange method url)
  | .answered status body =>
    if isSuccess status then readBody method read body else .error (.status method status)

end ChainGauge
