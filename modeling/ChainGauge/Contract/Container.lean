import ChainGauge.Contract.Netmap

/-!
# The contract of containers

The contract counts the containers and reports the usage of each one as a struct of its identifier
and a struct of its size and number of objects.
-/

namespace ChainGauge.ContainerContract

open Chain
open NetmapContract (natural viewed)

/-- The length of an identifier. -/
def idLength : Nat := 32

/-- The number of items wanted at a time. -/
def pageSize : Nat := 100

/-- The number of containers. -/
def total (contract : ScriptHash) : Chain Nat := do
  let top ← invokeTop contract "count" []
  let n ← view top.int64?
  outcome (natural .negativeCount n)

/-- Reads a reported usage; negative numbers count as zero. -/
def readUsage (item : StackItem) : Except ChainError ContainerUsage := do
  match ← viewed item.list? with
  | id :: usage :: _ => do
    let id ← viewed id.bytes?
    let usage ← viewed usage.list?
    if id.length ≠ idLength then throw (.shape (.containerId id.length))
    match usage with
    | size :: objects :: _ => do
      let size ← viewed size.int64?
      let objects ← viewed objects.int64?
      .ok ⟨Base58.encode id, size.toNat, objects.toNat⟩
    | _ => .error (.shape .usage)
  | _ => .error (.shape .summary)

/-- The usage of all containers. -/
def usages (contract : ScriptHash) : Chain (List ContainerUsage) := do
  let items ←
    during .summaries (query (.traverse contract "iterateAllReportSummaries" [] pageSize))
  outcome (items.mapM readUsage)

end ChainGauge.ContainerContract
