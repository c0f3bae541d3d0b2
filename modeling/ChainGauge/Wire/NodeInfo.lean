import ChainGauge.Wire.Field

/-!
# Descriptors of storage nodes

The network map holds each node as a message: its public key, the addresses it announces, its
attributes and its state. A key or state that is written more than once counts as last written.
Fields without content are not written.
-/

namespace ChainGauge

/-- An attribute of a node, with the names of attributes it derives from. -/
structure NodeAttribute where
  key : String
  value : String
  parents : List String
  deriving DecidableEq, Repr, Inhabited

/-- The descriptor of a storage node. -/
structure NodeInfo where
  publicKey : Bytes
  addresses : List String
  attributes : List NodeAttribute
  state : Int
  deriving DecidableEq, Repr, Inhabited

open Wire

namespace NodeAttribute

/-- Reads one field. -/
def readField : FieldReader NodeAttribute := fun a tag layout bs =>
  match tag with
  | 1 => within "NodeAttribute.key" do
    let (key, rest) ← takeText layout bs
    .ok ({ a with key }, rest)
  | 2 => within "NodeAttribute.value" do
    let (value, rest) ← takeText layout bs
    .ok ({ a with value }, rest)
  | 3 => within "NodeAttribute.parents" do
    let (parent, rest) ← takeText layout bs
    .ok ({ a with parents := a.parents ++ [parent] }, rest)
  | _ => (skip 1 tag layout bs.length bs).map fun rest => (a, rest)

/-- Writes the fields. -/
def encode (a : NodeAttribute) : Bytes :=
  (if a.key.isEmpty then [] else putText 1 a.key) ++
    (if a.value.isEmpty then [] else putText 2 a.value) ++ a.parents.flatMap (putText 3)

end NodeAttribute

namespace NodeInfo

/-- Reads one field. -/
def readField : FieldReader NodeInfo := fun i tag layout bs =>
  match tag with
  | 1 => within "NodeInfo.public_key" do
    let (publicKey, rest) ← takeBytes layout bs
    .ok ({ i with publicKey }, rest)
  | 2 => within "NodeInfo.addresses" do
    let (address, rest) ← takeText layout bs
    .ok ({ i with addresses := i.addresses ++ [address] }, rest)
  | 3 => within "NodeInfo.attributes" do
    let (a, rest) ← takeMessage NodeAttribute.readField ⟨"", "", []⟩ layout bs
    .ok ({ i with attributes := i.attributes ++ [a] }, rest)
  | 4 => within "NodeInfo.state" do
    let (state, rest) ← takeInt32 layout bs
    .ok ({ i with state }, rest)
  | _ => (skip 0 tag layout bs.length bs).map fun rest => (i, rest)

/-- Reads a descriptor. -/
def decode (bs : Bytes) : Except Fault NodeInfo :=
  readMessage readField ⟨[], [], [], 0⟩ bs

/-- Writes a descriptor. -/
def encode (i : NodeInfo) : Bytes :=
  (if i.publicKey.isEmpty then [] else putBytes 1 i.publicKey) ++ i.addresses.flatMap (putText 2) ++
    i.attributes.flatMap (fun a => putBytes 3 a.encode) ++
    (if i.state = 0 then [] else putInt32 4 i.state)

end NodeInfo

end ChainGauge
