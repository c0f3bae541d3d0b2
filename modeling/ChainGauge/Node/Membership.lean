import ChainGauge.Node.Node

/-!
# Changes of membership

Which nodes join and leave between two maps, and which keys stand in one of two alphabets only.

Nodes are compared by their identifiers. A table holds what is known of each identifier; it is filled
from the current map and then from the candidates, and what joins and leaves is read off its entries,
in whatever order they are. Alphabets are put in order and walked along side by side.
-/

namespace ChainGauge.Membership

/-- What is known of an identifier: its node in the current map, and its node among the candidates. -/
structure Standing where
  current : Option Node
  candidate : Option Node
  deriving DecidableEq

namespace Standing

/-- Nothing is known. -/
def unknown : Standing :=
  ⟨none, none⟩

/-- The node, if it is a candidate only. -/
def joined? : Standing → Option Node
  | ⟨none, some n⟩ => some n
  | _ => none

/-- The node, if it is in the current map only. -/
def dropped? : Standing → Option Node
  | ⟨some n, none⟩ => some n
  | _ => none

end Standing

/-- What is known of identifiers. -/
abbrev Table := List (Nat × Standing)

namespace Table

/-- Changes what is known of an identifier, which gets an entry if it has none. -/
def note (id : Nat) (change : Standing → Standing) : Table → Table
  | [] => [(id, change .unknown)]
  | (i, s) :: rest =>
    if i = id then (i, change s) :: rest else (i, s) :: note id change rest

/-- Notes a node of the current map; a later one of an identifier takes the place of one before. -/
def noteCurrent (t : Table) (n : Node) : Table :=
  note n.id (fun s => { s with current := some n }) t

/-- Notes a candidate; a later one of an identifier takes the place of one before. -/
def noteCandidate (t : Table) (n : Node) : Table :=
  note n.id (fun s => { s with candidate := some n }) t

/-- The table of a map and its candidates. -/
def of (current candidates : List Node) : Table :=
  candidates.foldl noteCandidate (current.foldl noteCurrent [])

/-- The nodes that are candidates only. -/
def joined (t : Table) : List Node :=
  t.filterMap fun e => e.2.joined?

/-- The nodes that are in the current map only. -/
def dropped (t : Table) : List Node :=
  t.filterMap fun e => e.2.dropped?

end Table

/-- The candidates that are new. -/
def joined (current candidates : List Node) : List Node :=
  (Table.of current candidates).joined

/-- The current nodes that are no candidates any more. -/
def dropped (current candidates : List Node) : List Node :=
  (Table.of current candidates).dropped

/-- Walks along two sorted lists and keeps what stands in one of them only. Every match uses up one
entry on each side. -/
def walk : List String → List String → List String × List String
  | [], bs => ([], bs)
  | as, [] => (as, [])
  | a :: as, b :: bs =>
    if a = b then walk as bs
    else if a < b then let (x, y) := walk as (b :: bs); (a :: x, y)
    else let (x, y) := walk (a :: as) bs; (x, b :: y)
termination_by as bs => as.length + bs.length

/-- Whether no entry is greater than the one behind it. -/
def isSorted : List String → Bool
  | a :: b :: rest => a ≤ b && isSorted (b :: rest)
  | _ => true

/-- The list in ascending order. -/
def sorted (list : List String) : List String :=
  list.mergeSort (· ≤ ·)

/-- The list in ascending order; one that is in order is taken as it is. -/
def ensureSorted (list : List String) : List String :=
  if isSorted list then list else sorted list

/-- The entries that stand in the first list only and in the second list only. -/
def unique (as bs : List String) : List String × List String :=
  walk (ensureSorted as) (ensureSorted bs)

end ChainGauge.Membership
