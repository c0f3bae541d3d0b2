import ChainGauge.Number.Binary64

/-!
# The fewest digits that read back

`shortest` gives the decimal with the fewest digits among those that round to a given double, and
of these the nearest one. The reals that round to a double form an interval around it, closed when
the last bit of the double is even. For one digit, two digits and so on, the two neighbours of the
value on that decimal grid are tried: a grid has a point in the interval only if one of the two is.
-/

namespace ChainGauge

/-- A decimal `digits · 10 ^ exponent`. -/
structure Decimal where
  digits : Nat
  exponent : Int
  deriving DecidableEq, Repr

namespace Decimal

/-- A quotient of whole numbers, as numerator and denominator. -/
structure Ratio where
  num : Nat
  den : Nat

/-- `m · 2 ^ q` as a quotient. -/
def Ratio.ofBinary (m : Nat) (q : Int) : Ratio :=
  if 0 ≤ q then ⟨m * Nat.pow 2 q.toNat, 1⟩ else ⟨m, Nat.pow 2 (-q).toNat⟩

/-- `c · 10 ^ k` as a quotient. -/
def Ratio.ofDecimal (c : Nat) (k : Int) : Ratio :=
  if 0 ≤ k then ⟨c * Nat.pow 10 k.toNat, 1⟩ else ⟨c, Nat.pow 10 (-k).toNat⟩

/-- Whether one quotient is below another. -/
def Ratio.blt (a b : Ratio) : Bool :=
  a.num * b.den < b.num * a.den

/-- The largest whole number of steps of `10 ^ k` that is not above the quotient. -/
def Ratio.steps (a : Ratio) (k : Int) : Nat :=
  if 0 ≤ k then a.num / (a.den * Nat.pow 10 k.toNat)
  else a.num * Nat.pow 10 (-k).toNat / a.den

/-- How many decimal digits a number has. -/
def digitCount (n : Nat) : Nat :=
  (Nat.toDigits 10 n).length

/-- The exponent `e` with `10 ^ (e - 1) ≤ a < 10 ^ e`, for a positive quotient. -/
def Ratio.magnitude (a : Ratio) : Int :=
  let e : Int := (digitCount a.num : Int) - digitCount a.den
  if a.blt (.ofDecimal 1 e) then e else e + 1

/-- The same decimal without zeros at the end of its digits. -/
def trim (digits : Nat) (exponent : Int) : Nat → Decimal
  | 0 => ⟨digits, exponent⟩
  | fuel + 1 =>
    if digits ≠ 0 ∧ digits % 10 = 0 then trim (digits / 10) (exponent + 1) fuel
    else ⟨digits, exponent⟩

/-- The interval of reals that round to a double. -/
structure Interval where
  low : Ratio
  high : Ratio
  closed : Bool

/-- Whether a decimal lies in the interval. -/
def Interval.contains (i : Interval) (a : Ratio) : Bool :=
  if i.closed then !a.blt i.low && !i.high.blt a else i.low.blt a && a.blt i.high

/-- The distance of two quotients with the denominators multiplied out. -/
def Ratio.distance (a b : Ratio) : Ratio :=
  let x := a.num * b.den
  let y := b.num * a.den
  ⟨if x ≤ y then y - x else x - y, a.den * b.den⟩

/-- Tries grids of `count`, `count + 1`, … digits; `left` grids are left. -/
def search (value : Ratio) (interval : Interval) (e : Int) (count : Nat) : Nat → Decimal
  | 0 => ⟨value.steps (e - count), e - count⟩
  | left + 1 =>
    let k := e - count
    let below := value.steps k
    let above := below + 1
    let inBelow := interval.contains (.ofDecimal below k)
    let inAbove := interval.contains (.ofDecimal above k)
    let choose (c : Nat) : Decimal := trim c k (digitCount c)
    -- Of two decimals on one grid the nearer one counts, then the one with the even last digit.
    if inBelow && inAbove then
      let down := value.distance (.ofDecimal below k)
      let up := value.distance (.ofDecimal above k)
      if down.blt up then choose below
      else if up.blt down then choose above
      else choose (if below % 2 = 0 then below else above)
    else if inBelow then choose below
    else if inAbove then choose above
    else search value interval e (count + 1) left

/-- The fewest digits that read back as `m · 2 ^ q`, for positive `m`. -/
def shortest (m : Nat) (q : Int) (even spacing : Bool) : Decimal :=
  let value := Ratio.ofBinary m q
  let interval : Interval :=
    ⟨.ofBinary (4 * m - (if spacing then 2 else 1)) (q - 2), .ofBinary (4 * m + 2) (q - 2), even⟩
  search value interval value.magnitude 1 17

end Decimal

end ChainGauge
