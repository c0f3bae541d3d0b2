import ChainGauge.Metrics.Family
import ChainGauge.Text.Utf8

/-!
# The registry of gauges

The registry holds the samples of all families. Within a family samples are told apart by a hash of
64 bits, made of their label values written one behind the other. So label values that give the same
text that way share a sample, and so do those that give two texts with one hash; the sample keeps the
label values it was made with.

What is published may come out of a hash table, and then in whatever order the table is listed in
(`Listing`).
-/

namespace ChainGauge

/-- The FNV-1a hash of bytes. -/
def fnv1a (bytes : Bytes) : UInt64 :=
  bytes.foldl (fun h b => (h ^^^ b.toUInt64) * 0x100000001b3) 0xcbf29ce484222325

/-- What the samples of a family are told apart by: a hash of their label values, one behind the
other. -/
def seriesKey (labels : List String) : UInt64 :=
  fnv1a (labels.flatMap Utf8.encode)

/-- Label values, in the order of a family's labels, with the value that is published for them. -/
abbrev Entry := List String × Float

/-- A gauge with its current value. -/
structure Sample where
  family : Family
  /-- The label values in the order of the family's labels. -/
  labels : List String
  value : Float
  deriving Repr

/-- The key of a sample. -/
def Sample.key (s : Sample) : UInt64 :=
  seriesKey s.labels

/-- A change of the registry. -/
inductive Update where
  /-- Removes all samples of a family. -/
  | reset (family : Family)
  | set (family : Family) (labels : List String) (value : Float)
  deriving Repr

/-- The changes that replace a family by entries. -/
def Update.replacing (f : Family) (entries : List Entry) : List Update :=
  .reset f :: entries.map fun e => .set f e.1 e.2

/-- The gauges of a chain that is watched. -/
structure Metrics where
  mode : ChainMode
  samples : List Sample
  deriving Repr

namespace Metrics

/-- The registry at the start: one zero for every family without labels. -/
def empty (mode : ChainMode) : Metrics :=
  ⟨mode, (Family.all.filter (·.labels.isEmpty)).map fun f => ⟨f, [], 0⟩⟩

/-- Puts a sample into others; the value of one with the same key is replaced. -/
def put (s : Sample) : List Sample → List Sample
  | [] => [s]
  | x :: xs =>
    -- The sample keeps its labels, even where those of `s` only have the same hash.
    if x.family = s.family ∧ x.key = s.key then { x with value := s.value } :: xs
    else x :: put s xs

/-- The registry after a change. -/
def apply (m : Metrics) : Update → Metrics
  | .reset f => { m with samples := m.samples.filter (·.family ≠ f) }
  | .set f labels value => { m with samples := put ⟨f, labels, value⟩ m.samples }

/-- The registry after several changes. -/
def applyAll (m : Metrics) (updates : List Update) : Metrics :=
  updates.foldl apply m

/-- The samples of a family. -/
def samplesOf (m : Metrics) (f : Family) : List Sample :=
  m.samples.filter (·.family = f)

/-- Publishes the version of the program. -/
def setVersion (m : Metrics) (version : String) : Metrics :=
  m.apply (.set .version [version] 1)

end Metrics

/-! ## Hash tables -/

namespace Table

variable {κ β : Type} [DecidableEq κ]

/-- Changes what a table has under a key, or adds the key. -/
def alter (k : κ) (change : Option β → β) : List (κ × β) → List (κ × β)
  | [] => [(k, change none)]
  | (q, b) :: rest => if q = k then (q, change (some b)) :: rest else (q, b) :: alter k change rest

/-- A table of what was entered under each key last. -/
def latest (entries : List (κ × β)) : List (κ × β) :=
  entries.foldl (fun table e => alter e.1 (fun _ => e.2) table) []

end Table

/-- The orders in which the entries of hash tables come out. Nothing that was entered tells them, and
they may change from one scrape to the next. -/
structure Listing where
  order : Family → List Entry → List Entry
  perm (f : Family) (entries : List Entry) : (order f entries).Perm entries

/-- Every table comes out in the order in which its keys were entered. -/
def Listing.asEntered : Listing where
  order _ entries := entries
  perm _ entries := .refl entries

end ChainGauge
