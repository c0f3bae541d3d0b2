import ChainGauge.Config.Duration
import ChainGauge.Config.File
import ChainGauge.Config.Overrides
import ChainGauge.Config.Settings
import ChainGauge.Contract.Container
import ChainGauge.Contract.Names
import ChainGauge.Contract.Native
import ChainGauge.Contract.Netmap
import ChainGauge.Contract.Token
import ChainGauge.Curve.P256
import ChainGauge.Dialogue
import ChainGauge.Digest.Ripemd160
import ChainGauge.Digest.Sha256
import ChainGauge.Job.FsChain
import ChainGauge.Job.MainChain
import ChainGauge.Job.Poll
import ChainGauge.Job.Scrape
import ChainGauge.Job.Sources
import ChainGauge.Job.Tracker
import ChainGauge.Job.Tracking
import ChainGauge.Json.Parser
import ChainGauge.Json.Printer
import ChainGauge.Json.Record
import ChainGauge.Json.Selection
import ChainGauge.Json.Value
import ChainGauge.Locode
import ChainGauge.Main
import ChainGauge.Metrics.Exposition
import ChainGauge.Metrics.Family
import ChainGauge.Metrics.Registry
import ChainGauge.Metrics.Routes
import ChainGauge.Net.Idna
import ChainGauge.Net.Idna.Direction
import ChainGauge.Net.Idna.Joiner
import ChainGauge.Net.Idna.Mapping
import ChainGauge.Net.Idna.Spelling
import ChainGauge.Net.Ip
import ChainGauge.Net.NodeAddress
import ChainGauge.Net.Punycode
import ChainGauge.Net.SocketAddress
import ChainGauge.Net.Url
import ChainGauge.Node.Membership
import ChainGauge.Node.Node
import ChainGauge.Number.Binary64
import ChainGauge.Number.DecimalText
import ChainGauge.Number.Int256
import ChainGauge.Number.Shortest
import ChainGauge.Pool.Failover
import ChainGauge.Pool.FanOut
import ChainGauge.Proofs.Config.Check
import ChainGauge.Proofs.Config.Duration
import ChainGauge.Proofs.Config.Overrides
import ChainGauge.Proofs.Contract.Agreement
import ChainGauge.Proofs.Contract.Decimals
import ChainGauge.Proofs.Contract.Entries
import ChainGauge.Proofs.Contract.Heard
import ChainGauge.Proofs.Contract.Identity
import ChainGauge.Proofs.Contract.Reports
import ChainGauge.Proofs.Contract.Token
import ChainGauge.Proofs.Curve.P256
import ChainGauge.Proofs.Dialogue
import ChainGauge.Proofs.Except
import ChainGauge.Proofs.FanOut.Alignment
import ChainGauge.Proofs.FanOut.Convergence
import ChainGauge.Proofs.FanOut.History
import ChainGauge.Proofs.FanOut.Overlap
import ChainGauge.Proofs.FanOut.Step
import ChainGauge.Proofs.Job.Poll
import ChainGauge.Proofs.Job.Tracking
import ChainGauge.Proofs.Json.Record
import ChainGauge.Proofs.Metrics.Samples
import ChainGauge.Proofs.Net.BareHost
import ChainGauge.Proofs.Net.Ip
import ChainGauge.Proofs.Net.NodeAddress
import ChainGauge.Proofs.Net.Number
import ChainGauge.Proofs.Net.Url
import ChainGauge.Proofs.Net.UrlIp
import ChainGauge.Proofs.Node.Alphabets
import ChainGauge.Proofs.Node.Declared
import ChainGauge.Proofs.Node.Membership
import ChainGauge.Proofs.Node.SortedKeys
import ChainGauge.Proofs.Number.Int256
import ChainGauge.Proofs.Number.Nearest
import ChainGauge.Proofs.Number.Power
import ChainGauge.Proofs.Number.TwosComplement
import ChainGauge.Proofs.Outcomes
import ChainGauge.Proofs.Pool.Deduplication
import ChainGauge.Proofs.Pool.Freshness
import ChainGauge.Proofs.Pool.History
import ChainGauge.Proofs.Pool.Recovery
import ChainGauge.Proofs.Pool.Representation
import ChainGauge.Proofs.Pool.RoundRobin
import ChainGauge.Proofs.Pool.Step
import ChainGauge.Proofs.Rpc.Blame
import ChainGauge.Proofs.Rpc.Paging
import ChainGauge.Proofs.Rpc.Session
import ChainGauge.Proofs.Scrape.Cancellation
import ChainGauge.Proofs.Scrape.Containers
import ChainGauge.Proofs.Scrape.Course
import ChainGauge.Proofs.Scrape.Divergence
import ChainGauge.Proofs.Scrape.Independence
import ChainGauge.Proofs.Scrape.Locations
import ChainGauge.Proofs.Scrape.NetworkMap
import ChainGauge.Proofs.Scrape.Publication
import ChainGauge.Proofs.Scrape.Refill
import ChainGauge.Proofs.Scrape.Round
import ChainGauge.Proofs.Scrape.Stage
import ChainGauge.Proofs.Scrape.StateRoots
import ChainGauge.Proofs.Scrape.Steps
import ChainGauge.Proofs.Scrape.TrackedTokens
import ChainGauge.Proofs.ScriptHash.Forms
import ChainGauge.Proofs.ScriptHash.Literal
import ChainGauge.Proofs.Stack.Json
import ChainGauge.Proofs.Stack.Param
import ChainGauge.Proofs.Stack.Views
import ChainGauge.Proofs.Startup.Checked
import ChainGauge.Proofs.Startup.Contracts
import ChainGauge.Proofs.Text.Base58
import ChainGauge.Proofs.Text.Base64
import ChainGauge.Proofs.Text.Hex
import ChainGauge.Proofs.Text.Split
import ChainGauge.Proofs.Text.Trim
import ChainGauge.Proofs.Text.Utf8
import ChainGauge.Proofs.Wire.Field
import ChainGauge.Proofs.Wire.NodeInfo
import ChainGauge.PublicKey
import ChainGauge.Rpc.Answer
import ChainGauge.Rpc.CallFault
import ChainGauge.Rpc.ChainError
import ChainGauge.Rpc.Endpoint
import ChainGauge.Rpc.Exchange
import ChainGauge.Rpc.Query
import ChainGauge.ScriptHash
import ChainGauge.Sim.Bench
import ChainGauge.Sim.Clock
import ChainGauge.Sim.FanOutRun
import ChainGauge.Sim.PoolRun
import ChainGauge.Sim.ScriptedNode
import ChainGauge.Stack.Item
import ChainGauge.Stack.Json
import ChainGauge.Stack.Param
import ChainGauge.Startup.CommandLine
import ChainGauge.Startup.Offline
import ChainGauge.Startup.Plan
import ChainGauge.Startup.Variables
import ChainGauge.Text.Base58
import ChainGauge.Text.Base64
import ChainGauge.Text.CharSet
import ChainGauge.Text.Composed
import ChainGauge.Text.Hex
import ChainGauge.Text.Marks
import ChainGauge.Text.Message
import ChainGauge.Text.Split
import ChainGauge.Text.Utf8
import ChainGauge.Wire.Field
import ChainGauge.Wire.NodeInfo
import ChainGauge.Yaml.Cursor
import ChainGauge.Yaml.Node
import ChainGauge.Yaml.Reader
import ChainGauge.Yaml.Scalar
import ChainGauge.Yaml.Token
