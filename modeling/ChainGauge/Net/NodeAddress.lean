import ChainGauge.Net.Url

/-!
# Addresses that storage nodes announce

A node announces where it can be reached in one of three forms: a path of protocols such as
`/ip4/1.2.3.4/tcp/8080`, a URL of the scheme `grpc` or `grpcs`, or a host with a port. Only the host
matters here.
-/

namespace ChainGauge.NodeAddress

/-- Why an announced address names no host. -/
inductive Fault where
  | scheme (address scheme : String)
  | url (url : String) (cause : Url.Fault)
  | noHost (url : String)
  /-- The path ends before the host. -/
  | noValue (address : String)
  | ip4 (address : String)
  | ip6 (address : String)
  | network (address protocol : String)
  | transport (address : String)
  | port (address : String)
  deriving DecidableEq, Repr

/-- The wording of a fault. -/
def Fault.message : Fault → String
  | .scheme a s => s!"{a}: unsupported scheme {s}"
  | .url u e => s!"{u}: {e.message}"
  | .noHost u => s!"{u}: missing host"
  | .noValue a => s!"{a}: missing host value"
  | .ip4 a => s!"{a}: invalid ip4"
  | .ip6 a => s!"{a}: invalid ip6"
  | .network a p => s!"{a}: unsupported network protocol {p}"
  | .transport a => s!"{a}: missing transport protocol"
  | .port a => s!"{a}: invalid port"

/-- The host of a URL. -/
def urlHost (url : String) : Except Fault String :=
  match Url.parse url with
  | .error e => .error (.url url e)
  | .ok u =>
    match u.host? with
    | some (.name s) => .ok s
    | some (.ip4 ip) => .ok ip.text
    | some (.ip6 ip) => .ok ip.text
    | none => .error (.noHost url)

/-- The host that a protocol and its value name. -/
def networkHost (address protocol value : String) : Except Fault String :=
  match protocol with
  | "ip4" =>
    match Ip4.ofText? value with
    | some ip => .ok ip.text
    | none => .error (.ip4 address)
  | "ip6" =>
    match Ip6.ofText? value with
    | some ip => .ok ip.text
    | none => .error (.ip6 address)
  | "dns" | "dns4" | "dns6" =>
    if value.isEmpty then .error (.network address protocol) else .ok value
  | _ => .error (.network address protocol)

/-- The host of a path of protocols, whose transport and port must be there. -/
def pathHost (address : String) : Except Fault String :=
  match Text.splitAt '/' (address.toList.dropWhile (· = '/')) with
  | protocol :: value :: rest =>
    match networkHost address (String.ofList protocol) (String.ofList value) with
    | .error e => .error e
    | .ok host =>
      match rest with
      | transport :: rest =>
        if transport ≠ ['t', 'c', 'p'] ∧ transport ≠ ['u', 'd', 'p'] then
          .error (.transport address)
        else if (rest.head?.bind (Text.natBelow? 0x10000)).isSome then .ok host
        else .error (.port address)
      | [] => .error (.transport address)
  | _ => .error (.noValue address)

/-- The host of an announced address. -/
def host (address : String) : Except Fault String :=
  if address.toList.head? = some '/' then pathHost address
  else
    match Text.splitOnce [':', '/', '/'] address.toList with
    | some (scheme, _) =>
      let scheme := String.ofList scheme
      if scheme = "grpc" ∨ scheme = "grpcs" then urlHost address
      else .error (.scheme address scheme)
    -- A host with a port is read as a URL, so that both forms give the same host.
    | none => urlHost ("grpc://" ++ address)

end ChainGauge.NodeAddress
