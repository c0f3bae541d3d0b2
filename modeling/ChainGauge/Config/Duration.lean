import ChainGauge.Text.Message
import ChainGauge.Text.Split

/-!
# Durations

A duration is written as numbers with units, such as `1m30s`, or as a bare number of seconds. It is
less than `2 ^ 64` seconds.
-/

namespace ChainGauge

/-- A length of time. -/
structure Duration where
  nanos : Nat
  deriving DecidableEq, Repr, Inhabited

namespace Duration

/-- A number of whole seconds. -/
def ofSeconds (n : Nat) : Duration :=
  ⟨n * 1000000000⟩

/-- The number of whole seconds. -/
def seconds (d : Duration) : Nat :=
  d.nanos / 1000000000

/-- The nanoseconds beyond the whole seconds. -/
def subsecond (d : Duration) : Nat :=
  d.nanos % 1000000000

/-- Why a text is no duration; each holds the text without blanks around it. -/
inductive Fault where
  | empty
  | malformed (text : String)
  | tooLarge (text : String)
  | noUnit (text : String)
  | unknownUnit (text : String)
  deriving DecidableEq, Repr

/-- The wording of a fault. -/
def Fault.message : Fault → String
  | .empty => "empty duration"
  | .malformed s => "invalid duration " ++ Quoted.text s
  | .tooLarge s => "duration " ++ Quoted.text s ++ " is too large"
  | .noUnit s => "missing unit in duration " ++ Quoted.text s
  | .unknownUnit s => "invalid duration unit in " ++ Quoted.text s

/-- The largest duration, in nanoseconds. -/
def maxNanos : Nat := 0x10000000000000000 * 1000000000 - 1

/-- The sum of two durations, if it is one. -/
def add? (a b : Duration) : Option Duration :=
  if a.nanos + b.nanos ≤ maxNanos then some ⟨a.nanos + b.nanos⟩ else none

/-- A number of groups of seconds, if the number of seconds is a word of sixty-four bits. -/
def ofGroups? (n size : Nat) : Option Duration :=
  if n * size < 0x10000000000000000 then some (ofSeconds (n * size)) else none

/-- A unit of time. -/
inductive TimeUnit where
  | nanosecond
  | microsecond
  | millisecond
  | second
  | minute
  | hour
  deriving DecidableEq, Repr

/-- The unit of a name. -/
def TimeUnit.ofName? : String → Option TimeUnit
  | "ns" => some .nanosecond
  | "us" | "µs" => some .microsecond
  | "ms" => some .millisecond
  | "s" => some .second
  | "m" => some .minute
  | "h" => some .hour
  | _ => none

/-- A number of units, if it is a duration. -/
def ofUnits? (n : Nat) : TimeUnit → Option Duration
  | .nanosecond => some ⟨n⟩
  | .microsecond => some ⟨n * 1000⟩
  | .millisecond => some ⟨n * 1000000⟩
  | .second => some (ofSeconds n)
  | .minute => ofGroups? n 60
  | .hour => ofGroups? n 3600

/-- What is left behind digits and the name of a unit is shorter. -/
theorem length_behind_lt {cs : List Char} (h : cs.takeWhile Char.isDigit ≠ []) :
    ((cs.dropWhile Char.isDigit).dropWhile (!·.isDigit)).length < cs.length := by
  have hunit := (List.dropWhile_suffix (!·.isDigit) (l := cs.dropWhile Char.isDigit)).length_le
  have hsplit := congrArg List.length (List.takeWhile_append_dropWhile (p := Char.isDigit) (l := cs))
  rw [List.length_append] at hsplit
  have hpos := List.length_pos_iff.mpr h
  omega

/-- Reads numbers with units and adds them to a total. -/
def readFrom (whole : String) (total : Duration) (cs : List Char) : Except Fault Duration :=
  if cs = [] then .ok total
  else
    let digits := cs.takeWhile Char.isDigit
    let behind := cs.dropWhile Char.isDigit
    let name := behind.takeWhile (!·.isDigit)
    if digits = [] then .error (.malformed whole)
    else
      match Text.natBelow? 0x10000000000000000 digits with
      | none => .error (.tooLarge whole)
      | some n =>
        if name = [] then .error (.noUnit whole)
        else
          match TimeUnit.ofName? (String.ofList name) with
          | none => .error (.unknownUnit whole)
          | some unit =>
            match (ofUnits? n unit).bind total.add? with
            | none => .error (.tooLarge whole)
            | some sum => readFrom whole sum (behind.dropWhile (!·.isDigit))
termination_by cs.length
decreasing_by exact length_behind_lt ‹_›

/-- Reads a duration. -/
def parse (s : String) : Except Fault Duration :=
  let s := Text.trim s
  let cs := s.toList
  if cs.isEmpty then .error .empty
  else if cs.all Char.isDigit then
    match Text.natBelow? 0x10000000000000000 cs with
    | some n => .ok (.ofSeconds n)
    | none => .error (.malformed s)
  else readFrom s ⟨0⟩ cs

end Duration

end ChainGauge
