import ChainGauge.Locode
import ChainGauge.Node.Node
import ChainGauge.Rpc.Answer
import ChainGauge.Rpc.CallFault

/-!
# Failures of chain access

Everything that can go wrong between a query and the value a caller wants. A failure has a kind,
which says where it arose, and a wording. A step that consists of calls reports a failure of any
kind as a failed call of its own, with the failure's wording behind its name.
-/

namespace ChainGauge

/-- A step that reports failures under its own name. -/
inductive Step where
  | epoch
  | netmap
  | candidates
  | innerRing
  | designatedAlphabet
  | summaries
  | nameService
  | resolve (domain : String)
  | symbol (contract : String)
  | dial (endpoint : String)
  deriving DecidableEq, Repr

/-- The name of a step in a report. -/
def Step.name : Step → String
  | .epoch => "can't fetch epoch number"
  | .netmap => "can't fetch network map"
  | .candidates => "can't fetch netmap candidates"
  | .innerRing => "can't fetch inner ring keys"
  | .designatedAlphabet => "can't get designated alphabet"
  | .summaries => "can't iterate report summaries"
  | .nameService => "NNS contract state"
  | .resolve domain => s!"resolve {domain}"
  | .symbol contract => s!"nep17 contract {contract} symbol"
  | .dial endpoint => s!"can't dial {endpoint}"

/-- Why a stack item does not have the shape that its reader expects. -/
inductive ShapeFault where
  | view (cause : StackItem.Fault)
  | negativeEpoch (n : Int)
  | emptyEntry
  | emptyNode
  | descriptor (cause : Wire.Fault)
  | negativeCandidateEpoch
  | emptyInnerRingNode
  | negativeCount (n : Int)
  | summary
  | containerId (bytes : Nat)
  | usage
  | decimals (n : Int) (token : ScriptHash)
  deriving DecidableEq

/-- The wording of a shape fault. -/
def ShapeFault.message : ShapeFault → String
  | .view e => e.message
  | .negativeEpoch n => s!"negative epoch {n}"
  | .emptyEntry => "empty netmap entry"
  | .emptyNode => "empty node struct"
  | .descriptor e => s!"can't unmarshal peer info: {e.message}"
  | .negativeCandidateEpoch => "negative candidate epoch"
  | .emptyInnerRingNode => "empty inner ring node"
  | .negativeCount n => s!"negative count {n}"
  | .summary => "malformed report summary"
  | .containerId n => s!"container id of {n} bytes"
  | .usage => "malformed container summary"
  | .decimals n token => s!"invalid decimals {n} of {token.toHex}"

/-- A failure of chain access. -/
inductive ChainError where
  | call (cause : CallFault)
  /-- A step failed. -/
  | during (step : Step) (cause : ChainError)
  | noRecord (domain : String)
  | noNameService (name : String)
  | noNative (name : String)
  | noSession (method : String)
  | invocation (cause : Invocation.Fault)
  | noHealthyClient
  | shape (cause : ShapeFault)
  | key (cause : PublicKey.Fault)
  /-- The key in the descriptor of a storage node is none. -/
  | nodeKey (bytes : Bytes) (cause : PublicKey.Fault)
  | hash (cause : ScriptHash.Fault)
  | address (cause : NodeAddress.Fault)
  | locode (cause : LocodeTable.Fault)
  /-- There is no endpoint to connect to. -/
  | noEndpoint
  /-- The text names no contract to track. -/
  | trackedContract (text : String) (cause : ScriptHash.Fault)
  /-- A text in JSON does not decode. -/
  | format

/-- Where a failure arose. -/
inductive ErrorKind where
  | call
  | invocation
  | noHealthyClient
  | shape
  | key
  | hash
  | address
  | locode
  | config
  | format
  deriving DecidableEq, Repr

/-- The words in front of every failure of a kind. -/
def ErrorKind.heading : ErrorKind → String
  | .call => "rpc error: "
  | .invocation => "invocation failed: "
  | .noHealthyClient => "no healthy client"
  | .shape => "unexpected stack item: "
  | .key => "invalid public key: "
  | .hash => "invalid script hash: "
  | .address => "invalid network address: "
  | .locode => "locode error: "
  | .config => "config error: "
  | .format => "serialization error: "

namespace ChainError

/-- The kind of a failure. -/
def kind : ChainError → ErrorKind
  | .call _ | .during _ _ | .noRecord _ | .noNameService _ | .noNative _ | .noSession _ => .call
  | .invocation _ => .invocation
  | .noHealthyClient => .noHealthyClient
  | .shape _ => .shape
  | .key _ | .nodeKey _ _ => .key
  | .hash _ => .hash
  | .address _ => .address
  | .locode _ => .locode
  | .noEndpoint | .trackedContract _ _ => .config
  | .format => .format

/-- The wording of a failure behind the heading of its kind. -/
def detail : ChainError → String
  | .call e => e.message
  | .during step e => step.name ++ ": " ++ e.kind.heading ++ e.detail
  | .noRecord domain => s!"NNS record for {domain} is missing"
  | .noNameService name => s!"can't resolve {name}: no name service on this chain"
  | .noNative name => s!"native contract {name} not found"
  | .noSession method => s!"{method}: node returned no iterator session"
  | .invocation e => e.message
  | .noHealthyClient | .format => ""
  | .shape e => e.message
  | .key e => e.message
  | .nodeKey bytes e =>
    "can't parse storage node public key <" ++ Hex.encode bytes ++ ">: invalid public key: " ++
      e.message
  | .hash e => e.message
  | .address e => e.message
  | .locode e => e.message
  | .noEndpoint => "at least one rpc endpoint is required"
  | .trackedContract text e => s!"nep17 contract {text} is invalid: invalid script hash: {e.message}"

/-- The wording of a failure. -/
def message (e : ChainError) : String :=
  e.kind.heading ++ e.detail

end ChainError

end ChainGauge
