import ChainGauge.Text.Base58

/-!
# Points of the curve P-256

The curve is y² = x³ − 3x + b over the integers modulo a prime p with p ≡ 3 (mod 4), so a square
root is a power. A point is written as a tag and its coordinates; `Point.decode?` reads the
uncompressed form (tag 4), the compressed form (tags 2 and 3, by the parity of y) and the compact
form (tag 5, the smaller of the two values of y).
-/

namespace ChainGauge.P256

/-- The prime modulus of the coordinates. -/
def p : Nat := 0xffffffff00000001000000000000000000000000ffffffffffffffffffffffff

/-- The constant term of the curve's equation. -/
def b : Nat := 0x5ac635d8aa3a93e7b3ebbd55769886bc651d06b0cc53b0f63bce3c3e27d2604b

/-- `base ^ e % m`, by squaring. -/
def powMod (base e m : Nat) : Nat :=
  if h : e = 0 then 1 % m
  else
    have : e / 2 < e := Nat.div_lt_self (Nat.pos_of_ne_zero h) (by omega)
    let half := powMod (base * base % m) (e / 2) m
    if e % 2 = 1 then base * half % m else half
termination_by e

/-- The right-hand side of the curve's equation. -/
def rhs (x : Nat) : Nat :=
  (x * x * x + (p - 3) * x + b) % p

/-- A square root modulo the prime. -/
def sqrt? (n : Nat) : Option Nat :=
  -- A number that is no square has no root, so the power is checked.
  let r := powMod n ((p + 1) / 4) p
  if r * r % p = n % p then some r else none

/-- A point of the curve other than the one at infinity. -/
structure Point where
  x : Nat
  y : Nat
  deriving DecidableEq, Repr

/-- Whether the coordinates are reduced and satisfy the equation. -/
def Point.OnCurve (q : Point) : Prop :=
  q.x < p ∧ q.y < p ∧ q.y * q.y % p = rhs q.x

instance (q : Point) : Decidable q.OnCurve :=
  inferInstanceAs (Decidable (_ ∧ _ ∧ _))

/-- The point over `x` that `choose` picks of its two values of y. -/
def lift? (x : Nat) (choose : Nat → Nat → Nat) : Option Point :=
  if x < p then
    (sqrt? (rhs x)).map fun r => ⟨x, choose r ((p - r) % p)⟩
  else none

/-- Picks the value with the given parity. -/
def byParity (odd : Bool) (r s : Nat) : Nat :=
  if (r % 2 = 1) = odd then r else s

/-- Reads a written point. -/
def Point.decode? (bs : Bytes) : Option Point :=
  match bs with
  | [] => none
  | tag :: rest =>
    if tag = 4 ∧ rest.length = 64 then
      let q : Point := ⟨Bytes.toNat (rest.take 32), Bytes.toNat (rest.drop 32)⟩
      if q.OnCurve then some q else none
    else if rest.length = 32 then
      let x := Bytes.toNat rest
      if tag = 2 then lift? x (byParity false)
      else if tag = 3 then lift? x (byParity true)
      else if tag = 5 then lift? x min
      else none
    else none

/-- Writes a number in thirty-two bytes. -/
def field (n : Nat) : Bytes :=
  (List.range 32).map fun i => UInt8.ofNat (n / Nat.pow 256 (31 - i))

/-- The compressed form of a point, thirty-three bytes. -/
def Point.encode (q : Point) : Bytes :=
  (if q.y % 2 = 1 then 3 else 2) :: field q.x

end ChainGauge.P256
