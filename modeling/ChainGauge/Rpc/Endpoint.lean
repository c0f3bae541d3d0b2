import ChainGauge.Rpc.Exchange

/-!
# Endpoints

The address of a node, and the calls by which the node answers queries. An iterator is read page by
page until a page is empty; the session that holds it is ended behind the last page, also when a page
could not be read.
-/

namespace ChainGauge

/-- The address of a node. -/
structure Endpoint where
  /-- The address as it was given. -/
  text : String
  url : Url

namespace Endpoint

/-- Reads an address. -/
def parse (text : String) : Except ChainError Endpoint :=
  match Url.parse text with
  | .ok url => .ok ⟨text, url⟩
  | .error e => .error (.call (.endpoint text e))

variable (e : Endpoint)

/-- The most bytes of an address that fit into a request. -/
def maxLength : Nat := 65534

/-- Whether a request can name a host, which quotes and braces in its name prevent. -/
def isReachable (h : Url.Host) : Bool :=
  h.text.toList.all fun c => !"\x22\x60\x7b\x7d".toList.contains c

/-- Whether requests can be sent to the address. -/
def takesRequests : Bool :=
  ["http", "https"].contains e.url.scheme && e.url.host?.any isReachable &&
    e.url.text.utf8ByteSize ≤ maxLength

/-- Calls a method. -/
def call {α : Type} (method : String) (params : List Json) (read : Json.Reader α) : Calls α := do
  let id ← Calls.takeNumber
  if e.takesRequests then
    let delivery ← Calls.send ⟨id, method, params⟩
    Calls.outcome ((readDelivery e.url.text method read delivery).mapError .call)
  else Calls.outcome (.error (.call (.request method e.url.text)))

/-- Invokes a method of a contract. -/
def invoke (contract : ScriptHash) (method : String) (params : List Param) : Calls Invocation :=
  e.call "invokefunction"
    [.string ("0x" ++ contract.toHex), .string method, .array (params.map (·.toJson))]
    Json.readInvocation

/-- The most pages that are read of one iterator; a longer one counts as an exchange that took too
long. -/
def maxPages : Nat := 1000000000

/-- Reads the next page of an iterator. -/
def page (session iterator : String) (size : Nat) : Calls (List StackItem) :=
  e.call "traverseiterator" [.string session, .string iterator, .nat size] Json.readStack

/-- Reads pages up to an empty one; `left` bounds their number. -/
def pages (session iterator : String) (size : Nat) : Nat → Calls (List StackItem)
  | 0 => Calls.outcome (.error (.call (.exchange "traverseiterator" e.url.text)))
  | left + 1 => do
    let items ← e.page session iterator size
    if items.isEmpty then pure []
    else
      let more ← pages session iterator size left
      pure (items ++ more)

/-- Ends a session; it does not matter whether that succeeds. -/
def endSession (session : String) : Calls Unit := do
  let _ ← Calls.attempt (e.call "terminatesession" [.string session] Json.readBool)
  pure ()

/-- Invokes a method that answers with an iterator and reads all of its items, up to a number of
pages. -/
def traverse (limit : Nat) (contract : ScriptHash) (method : String) (params : List Param)
    (size : Nat) : Calls (List StackItem) := do
  let r ← e.invoke contract method params
  let top ← Calls.outcome (r.top.mapError .invocation)
  let iterator ← Calls.outcome (top.iterator?.mapError fun f => .shape (.view f))
  match r.session with
  | none => Calls.outcome (.error (.noSession method))
  | some session =>
    -- A failed page is kept back until the session has ended.
    let items ← Calls.attempt (e.pages session iterator size limit)
    e.endSession session
    Calls.outcome items

/-- The bytes of a state root that is written with the marker or without. -/
def readRoot (s : String) : Except CallFault Bytes :=
  let bare := Hex.unmarked s
  let raw := Utf8.encode bare
  if raw.length % 2 = 1 then .error (.rootOddLength s)
  else if raw.length ≠ 64 then .error (.rootLength s)
  else
    match Hex.decodeBytes raw with
    | .ok bs => .ok bs
    | .error _ =>
      let i := raw.findIdx fun b => (Hex.digitValue? b).isNone
      .error (.rootDigit s i (Char.ofNat (raw.getD i 0).toNat))

/-- Reads the record of a state root. -/
def readRootRecord : Json.Reader String := fun j => do
  let fs ← j.fields [.ofReader "roothash" Json.readString]
  Json.required "roothash" Json.readString fs

/-- The calls by which the node answers a query. -/
def answer : (q : Query) → Calls q.Value
  | .version => e.call "getversion" [] Json.readVersion
  | .blockCount => e.call "getblockcount" [] Json.readWord
  | .committee => do
    let keys ← e.call "getcommittee" [] (Json.readArray Json.readString)
    Calls.outcome ((keys.mapM PublicKey.ofHex).mapError .key)
  | .nativeContracts => e.call "getnativecontracts" [] (Json.readArray Json.readContract)
  | .contractState id => e.call "getcontractstate" [.int id] Json.readContract
  | .invoke contract method params => e.invoke contract method params
  | .traverse contract method params size => e.traverse maxPages contract method params size
  | .stateHeight => e.call "getstateheight" [] Json.readStateHeight
  | .stateRoot height => do
    let root ← e.call "getstateroot" [.nat height] readRootRecord
    Calls.outcome ((readRoot root).mapError .call)

/-- The calls of a dialogue with the node. -/
def converse {α : Type} (c : Chain α) : Calls α :=
  ExceptT.mk (c.run.hold fun q => (e.answer q).run)

/-- Reads an address and sees that its node tells its version. -/
def dial (text : String) : Calls Endpoint := do
  let e ← Calls.outcome (parse text)
  let _ ← e.answer .version
  pure e

end Endpoint

end ChainGauge
