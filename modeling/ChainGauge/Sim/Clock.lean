/-!
# Clocks with timers

A clock stands still until someone sleeps. While time passes, timers go off again and again at their
periods; those that are due together go off together. All timers are cancelled at once, and for good.
Times are in nanoseconds, but a timer goes off only at full milliseconds.
-/

namespace ChainGauge.Sim

/-- A timer. -/
structure Timer where
  period : Nat
  due : Nat
  deriving DecidableEq, Repr

/-- The full millisecond at which a timer goes off. -/
def Timer.moment (t : Timer) : Nat :=
  (t.due + 999999) / 1000000 * 1000000

/-- A clock. -/
structure Clock where
  now : Nat
  timers : List Timer
  cancelled : Bool
  deriving DecidableEq, Repr

namespace Clock

/-- A clock without timers. -/
def fresh : Clock :=
  ⟨0, [], false⟩

variable (c : Clock)

/-- Starts a timer. One without a period never goes off, nor does one that starts after timers were
cancelled. -/
def start (period : Nat) : Clock :=
  if c.cancelled || period = 0 then c
  else { c with timers := c.timers ++ [⟨period, c.now + period⟩] }

/-- Cancels all timers. -/
def cancel : Clock :=
  { c with timers := [], cancelled := true }

/-- How many timers go off next before a time, and the clock behind that. A timer that is due at the
very time goes off when more time passes. -/
def next? (time : Nat) : Option (Nat × Clock) :=
  match (c.timers.map Timer.moment).min? with
  | none => none
  | some moment =>
    if moment < time then
      let (due, others) := c.timers.partition (·.moment = moment)
      let renewed := due.map fun t => { t with due := t.due + t.period }
      some (due.length, { c with timers := renewed ++ others })
    else none

/-- Lets time pass and does something with `a` whenever timers go off, of which it is told the number;
`fuel` bounds how often that is. -/
def sleep {α : Type} (goOff : α → Nat → α) (time : Nat) (a : α) (c : Clock) : Nat → α × Clock
  | 0 => (a, { c with now := time })
  | fuel + 1 =>
    match c.next? time with
    | none => (a, { c with now := time })
    | some (count, c) => sleep goOff time (goOff a count) c fuel

end Clock

end ChainGauge.Sim
