/-!
# The scrape loop

The loop runs a scrape, sleeps, and starts over, until it is cancelled. It waits twice in each round,
for the scrape or its cancellation and for the sleep or its cancellation. When both are there at
once, either may be seen first; `workFirst` says which one, for each wait by its number.
-/

namespace ChainGauge.Poll

/-- What the loop meets. Times are in milliseconds since its start. -/
structure Setting where
  /-- How long the scrape of a number takes; `none` if it never ends. -/
  duration : Nat → Option Nat
  interval : Nat
  /-- When the loop is cancelled from outside. -/
  cancelAt : Option Nat
  /-- The number of the scrape, from one, at whose end the loop is cancelled. -/
  cancelInRun : Option Nat
  /-- Whether a wait looks at its work before it looks at the cancellation. -/
  workFirst : Nat → Bool

/-- What the loop did. -/
structure Trace where
  started : List Nat
  finished : List Nat
  stopped : Nat
  deriving DecidableEq, Repr

/-- How a wait that begins at a time ends: `true` if the work was done, and when. The work is ready
after a number of milliseconds, if ever; `none` if the wait never ends. -/
def await (work : Option Nat) (cancel : Option Nat) (workFirst : Bool) (time : Nat) :
    Option (Bool × Nat) :=
  match work.map (time + ·), cancel.map (max time ·) with
  | none, none => none
  | some w, none => some (true, w)
  | none, some c => some (false, c)
  | some w, some c =>
    if w < c then some (true, w)
    else if c < w then some (false, c)
    else some (workFirst, w)

/-- Whether a scrape is started when the loop comes to it. -/
def starts (cancel : Option Nat) (workFirst : Bool) (time : Nat) : Bool :=
  workFirst || cancel.all (time < ·)

/-- When the loop is cancelled, once the scrape of a number has ended at a time. -/
def cancelAfter (s : Setting) (run time : Nat) (cancel : Option Nat) : Option Nat :=
  if s.cancelInRun = some run then some (cancel.elim time (min time)) else cancel

/-- The loop from a scrape on; `fuel` bounds the number of scrapes, and `none` stands for a loop that
does not stop within it. -/
def loop (s : Setting) (run time : Nat) (cancel : Option Nat) (t : Trace) : Nat → Option Trace
  | 0 => none
  | fuel + 1 =>
    if !starts cancel (s.workFirst (2 * run)) time then some { t with stopped := time }
    else
      let t := { t with started := t.started ++ [time] }
      match await (s.duration run) cancel (s.workFirst (2 * run)) time with
      | none => none
      | some (false, c) => some { t with stopped := c }
      | some (true, f) =>
        let t := { t with finished := t.finished ++ [f] }
        -- From here on the sleep sees the cancellation, but a sleep that is over may still win.
        let cancel := cancelAfter s run f cancel
        match await (some s.interval) cancel (s.workFirst (2 * run + 1)) f with
        | none => none
        | some (false, c) => some { t with stopped := c }
        | some (true, w) => loop s (run + 1) w cancel t fuel

/-- The loop from its start. -/
def poll (s : Setting) (fuel : Nat) : Option Trace :=
  loop s 1 0 s.cancelAt ⟨[], [], 0⟩ fuel

end ChainGauge.Poll
