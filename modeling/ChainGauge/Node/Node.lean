import ChainGauge.Net.NodeAddress
import ChainGauge.PublicKey
import ChainGauge.Wire.NodeInfo

/-!
# Storage nodes

A storage node as the network map declares it. Its identifier is made from its key and joins the
descriptions of one node in several maps.
-/

namespace ChainGauge

/-- A storage node. -/
structure Node where
  id : Nat
  /-- The host of the first announced address that names one; empty if none does. -/
  address : String
  key : PublicKey
  /-- The attributes in the order of their names. -/
  attributes : List (String × String)
  /-- The code of the node's location. -/
  locode : Option String
  /-- The declared capacity in gigabytes. -/
  capacity : Option Nat
  deriving DecidableEq

namespace Node

/-- Puts an attribute into sorted ones; it replaces one of its name. -/
def insertAttribute (name value : String) : List (String × String) → List (String × String)
  | [] => [(name, value)]
  | (n, v) :: rest =>
    if name < n then (name, value) :: (n, v) :: rest
    else if name = n then (name, value) :: rest
    else (n, v) :: insertAttribute name value rest

/-- The attributes of a descriptor by name; the last of one name counts. -/
def attributesOf (attributes : List NodeAttribute) : List (String × String) :=
  attributes.foldl (fun acc a => insertAttribute a.key a.value acc) []

/-- The identifier that the bytes of a key make: the first eight bytes of their digest. -/
def idOf (key : Bytes) : Nat :=
  Bytes.toNat ((Sha256.hash key).take 8)

/-- The name of the attribute with the code of the location. -/
def locodeAttribute : String := "UN-LOCODE"

/-- The name of the attribute with the capacity. -/
def capacityAttribute : String := "Capacity"

/-- The first host that the addresses name. -/
def hostOf (addresses : List String) : String :=
  (addresses.findSome? fun a => (NodeAddress.host a).toOption).getD ""

/-- The node that a descriptor declares. -/
def ofInfo (info : NodeInfo) : Except PublicKey.Fault Node :=
  match PublicKey.ofBytes info.publicKey with
  | .error e => .error e
  | .ok key =>
    let attributes := attributesOf info.attributes
    .ok
      { id := idOf info.publicKey
        address := hostOf info.addresses
        key
        attributes
        locode := attributes.lookup locodeAttribute
        capacity := (attributes.lookup capacityAttribute).bind
          fun c => Text.natBelow? 0x10000000000000000 c.toList }

end Node

/-- The network map of an epoch. -/
structure Netmap where
  epoch : Nat
  nodes : List Node
  deriving DecidableEq

/-- A node that is proposed for the next epoch. -/
structure Candidate where
  node : Node
  /-- The last epoch in which the node renewed its candidacy, if the contract tells. -/
  lastActive : Option Nat
  deriving DecidableEq

/-- The usage that was reported for a container. -/
structure ContainerUsage where
  /-- The identifier in base 58. -/
  id : String
  size : Nat
  objects : Nat
  deriving DecidableEq, Repr

end ChainGauge
