import ChainGauge.Metrics.Registry
import ChainGauge.Number.DecimalText

/-!
# The exposition

The text in which the registry is read: families in the order of their names, each with its help
and kind, then its samples in the order of their label values, the labels in the order of their
names. A family without samples is left out.
-/

namespace ChainGauge.Exposition

/-- The labels of a sample with their values, in the order of their names. -/
def labelsOf (s : Sample) : List (String × String) :=
  (s.family.labels.zip s.labels).mergeSort fun a b => a.1 ≤ b.1

/-- The values of the labels in the order of their names. -/
def sortKey (s : Sample) : List String :=
  (labelsOf s).map (·.2)

/-- The order of samples within a family. -/
def le (a b : Sample) : Bool :=
  decide (¬ sortKey b < sortKey a)

/-- Escapes a character of a label value. -/
def escape : Char → List Char
  | '\\' => ['\\', '\\']
  | '\n' => ['\\', 'n']
  | '\x22' => ['\\', '\x22']
  | c => [c]

/-- A label with its value. -/
def labelText (l : String × String) : String :=
  l.1 ++ "=\x22" ++ String.ofList (l.2.toList.flatMap escape) ++ "\x22"

/-- The line of a sample. -/
def sampleLine (s : Sample) : String :=
  let labels := (labelsOf s).map labelText
  let block := if labels.isEmpty then "" else "\x7b" ++ String.intercalate "," labels ++ "\x7d"
  s.family.name ++ block ++ " " ++ DecimalText.plain s.value

/-- The families with their samples, in the order in which they are read. -/
def gather (m : Metrics) : List (Family × List Sample) :=
  let exposed := (Family.all.filter (·.isExposed m.mode)).mergeSort fun a b => a.name ≤ b.name
  (exposed.map fun f => (f, (m.samplesOf f).mergeSort le)).filter fun g => !g.2.isEmpty

/-- The names of the families. -/
def families (m : Metrics) : List String :=
  (gather m).map fun g => g.1.name

/-- The lines of the samples. -/
def sampleLines (m : Metrics) : List String :=
  (gather m).flatMap fun g => g.2.map sampleLine

/-- The lines of a family. -/
def familyLines (g : Family × List Sample) : List String :=
  ["# HELP " ++ g.1.name ++ " " ++ g.1.help, "# TYPE " ++ g.1.name ++ " gauge"] ++
    g.2.map sampleLine

/-- The whole text. -/
def render (m : Metrics) : String :=
  String.join (((gather m).flatMap familyLines).map (· ++ "\n"))

end ChainGauge.Exposition
