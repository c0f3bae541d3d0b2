import ChainGauge.Number.Binary64
import Mathlib.Algebra.Ring.Nat

/-!
# What amounts are divided by

Repeated squaring takes the low bits of the exponent first, so it may be cut behind any number of
bits (`powerFrom_add`). Nine bits tell all powers of ten that are doubles; they are the products of a
short list (`powersBelow`) and are checked one by one. From ten to the 309th on every power is
infinite.

A number of decimals is read as a word with a sign before it becomes the exponent. Where that changes
it, the power is the reciprocal of another one: an amount is then multiplied or divided by zero.

## Key results

- `powerFrom_add`: the course of repeated squaring, some bits at a time
- `graded_powerOfTen`: what every power of ten is, with any exponent that is raised to
- `divisorLaw`: what every number of decimals makes of an amount
-/

namespace ChainGauge

/-! ## The order of doubles -/

namespace Binary64

open Float.Model (UnpackedFloat)

/-- Comparing the other way round gives the other result. -/
private theorem compare_swap (x y : UnpackedFloat) :
    y.compare x = (x.compare y).map Ordering.swap := by
  have hsize (e e' : Int) (m m' : Nat) :
      (compare e' e).then (compare m' m) = ((compare e e').then (compare m m')).swap := by
    rw [Ordering.swap_then, ← Std.OrientedOrd.eq_swap, ← Std.OrientedOrd.eq_swap]
  rcases x with s | _ | s | ⟨s, m, e, _⟩ <;> rcases y with t | _ | t | ⟨t, m', e', _⟩ <;>
    (try cases s) <;> (try cases t) <;> (try rfl)
  -- Two finite doubles of one sign are compared by their exponents and then by their significands.
  · exact congrArg (fun o => some o.swap) (hsize e e' m m')
  · exact congrArg some (hsize e e' m m')

/-- Doubles that are comparable are so in one way. -/
private theorem not_lt_of_le {a b : Float} (h : a ≤ b) : ¬ b < a := by
  intro hlt
  have hle : (a.toModel.unpack.compare b.toModel.unpack).any (·.isLE) = true := of_decide_eq_true h
  have hbelow : (b.toModel.unpack.compare a.toModel.unpack == some .lt) = true :=
    of_decide_eq_true hlt
  rw [compare_swap, beq_iff_eq, Option.map_eq_some_iff] at hbelow
  obtain ⟨o, ho, hswap⟩ := hbelow
  rw [ho] at hle
  cases o with
  | gt => cases hle
  | lt | eq => cases hswap

/-- The number that a double stands for as a fraction, if it is finite and has no sign. -/
def Value.fraction? : Value → Option (Nat × Nat)
  | .finite false m q _ _ => some (m * 2 ^ q.toNat, 2 ^ (-q).toNat)
  | _ => none

end Binary64

namespace Amount

open Binary64 (Value not_lt_of_le)

/-- Positive infinity. -/
def infinity : Float := 1 / 0

/-- A double is a power of ten up to one part in `2 ^ 50`, and exactly up to the twenty-second. -/
def IsTenTo (n : Nat) (x : Float) : Prop :=
  ∃ f ∈ (Value.ofFloat x).fraction?,
    (2 ^ 50 - 1) * (10 ^ n * f.2) ≤ 2 ^ 50 * f.1 ∧ 2 ^ 50 * f.1 ≤ (2 ^ 50 + 1) * (10 ^ n * f.2) ∧
      (n ≤ 22 → f.1 = 10 ^ n * f.2)

instance (n : Nat) (x : Float) : Decidable (IsTenTo n x) :=
  inferInstanceAs (Decidable (∃ _ ∈ _, _))

/-! ## Repeated squaring -/

/-- `a` squared `k` times. -/
def squared (a : Float) : Nat → Float
  | 0 => a
  | k + 1 => squared (a * a) k

section Squaring

variable {r a : Float} {n : Nat}

/-- The power with the exponent zero. -/
private theorem powerFrom_zero (r a : Float) (fuel : Nat) : powerFrom r a 0 fuel = r := by
  cases fuel <;> rfl

/-- That no bit is left makes no difference. -/
private theorem powerFrom_succ (r a : Float) (n fuel : Nat) :
    powerFrom r a n (fuel + 1) =
      powerFrom (if n % 2 = 1 then r * a else r) (a * a) (n / 2) fuel := by
  by_cases hn : n / 2 = 0
  · rw [hn, powerFrom_zero, powerFrom]
    exact if_pos hn
  · rw [powerFrom]
    exact if_neg hn

/-- Some bits, and then the other ones. -/
theorem powerFrom_add (r a : Float) (n j k : Nat) :
    powerFrom r a n (j + k) = powerFrom (powerFrom r a n j) (squared a j) (n / 2 ^ j) k := by
  induction j generalizing r a n with
  | zero => simp [powerFrom, squared]
  | succ j ih =>
    rw [Nat.add_right_comm, powerFrom_succ, ih, powerFrom_succ r a n j, squared,
      Nat.div_div_eq_div_mul, ← Nat.pow_succ']

/-- Fuel beyond the bits of the exponent does not matter. -/
private theorem powerFrom_of_lt {j : Nat} (h : n < 2 ^ j) (k : Nat) :
    powerFrom r a n (j + k) = powerFrom r a n j := by
  rw [powerFrom_add, Nat.div_eq_of_lt h, powerFrom_zero]

/-- Only the bits that are taken count. -/
private theorem powerFrom_mod (r a : Float) (n j : Nat) :
    powerFrom r a (n % 2 ^ j) j = powerFrom r a n j := by
  induction j generalizing r a n with
  | zero => rfl
  | succ j ih =>
    have hbit : n % 2 ^ (j + 1) % 2 = n % 2 := Nat.mod_mod_of_dvd n ⟨2 ^ j, Nat.pow_succ'⟩
    have hrest : n % 2 ^ (j + 1) / 2 = n / 2 % 2 ^ j := by
      rw [Nat.pow_succ', Nat.mod_mul_right_div_self]
    rw [powerFrom_succ, powerFrom_succ, hbit, hrest, ih]

/-- Once the squares are infinite, so is the power. -/
private theorem powerFrom_infinity {k : Nat} (hr : r * infinity = infinity) (hn : 0 < n)
    (h : n < 2 ^ k) : powerFrom r infinity n k = infinity := by
  have hsquare : infinity * infinity = infinity := by decide +kernel
  -- Whatever is multiplied so far, it stays a factor that infinity takes up.
  induction k generalizing r n with
  | zero => omega
  | succ k ih =>
    rw [powerFrom_succ, hsquare]
    by_cases hrest : n / 2 = 0
    · rw [hrest, powerFrom_zero, if_pos (by omega), hr]
    · refine ih ?_ (by omega) (by omega)
      split
      · rw [hr, hsquare]
      · exact hr

end Squaring

/-! ## Powers of ten -/

/-- The powers of ten below `2 ^ k`. -/
def powersBelow : Nat → List Float
  | 0 => [1]
  | k + 1 => powersBelow k ++ (powersBelow k).map (· * squared 10 k)

/-- There are as many powers as exponents. -/
private theorem length_powersBelow (k : Nat) : (powersBelow k).length = 2 ^ k := by
  induction k with
  | zero => rfl
  | succ k ih => rw [powersBelow, List.length_append, List.length_map, ih, Nat.pow_succ, Nat.mul_two]

/-- The powers stand in the order of their exponents. -/
private theorem getElem?_powersBelow {n k : Nat} (h : n < 2 ^ k) :
    (powersBelow k)[n]? = some (powerFrom 1 10 n k) := by
  induction k generalizing n with
  | zero =>
    obtain rfl : n = 0 := by omega
    rfl
  | succ k ih =>
    by_cases hn : n < 2 ^ k
    · rw [powersBelow, List.getElem?_append_left (by rwa [length_powersBelow]), ih hn,
        powerFrom_of_lt hn]
    -- Without its highest bit, the exponent is one of before.
    · have hmod : n % 2 ^ k = n - 2 ^ k := by
        rw [Nat.mod_eq_sub_mod (by omega), Nat.mod_eq_of_lt (by omega)]
      have hdiv : n / 2 ^ k = 1 := Nat.div_eq_of_lt_le (by omega) (by omega)
      rw [powersBelow, List.getElem?_append_right (by rw [length_powersBelow]; omega),
        length_powersBelow, List.getElem?_map, ih (by omega), powerFrom_add, hdiv, ← hmod,
        powerFrom_mod]
      rfl

/-- A double is as large as a finite power of ten, and its reciprocal as small. -/
def Sized (n : Nat) (x : Float) : Prop :=
  1 ≤ x ∧ x * infinity = infinity ∧ 0 < 1 / x ∧ (n ≠ 0 → 1 / x < 1)

instance (n : Nat) (x : Float) : Decidable (Sized n x) :=
  inferInstanceAs (Decidable (_ ∧ _))

/-- What holds of the power of ten with an exponent. -/
def Graded (n : Nat) (x : Float) : Prop :=
  (n ≤ 308 → IsTenTo n x ∧ Sized n x) ∧ (308 < n → x = infinity)

instance (n : Nat) (x : Float) : Decidable (Graded n x) :=
  inferInstanceAs (Decidable (_ ∧ _))

/-- What holds of powers of ten holds of the first five hundred and twelve, one by one. -/
private theorem graded_powersBelow :
    ∀ p ∈ (powersBelow 9).zipIdx, Graded p.2 p.1 := by decide +kernel

section Graded

variable {n k : Nat} {x : Float}

private theorem graded_of_lt (h : n < 2 ^ 9) : Graded n (powerFrom 1 10 n 9) :=
  graded_powersBelow _ (List.mk_mem_zipIdx_iff_getElem?.mpr (getElem?_powersBelow h))

/-- A power times infinity is infinity. -/
private theorem Graded.mul_infinity (h : Graded n x) : x * infinity = infinity := by
  by_cases hn : n ≤ 308
  · exact (h.1 hn).2.2.1
  · rw [h.2 (by omega)]
    decide +kernel

/-- No power with a natural exponent is below one. -/
private theorem Graded.one_le (h : Graded n x) : 1 ≤ x := by
  by_cases hn : n ≤ 308
  · exact (h.1 hn).2.1
  · rw [h.2 (by omega)]
    decide +kernel

/-- Every power of ten that the bits suffice for is as it should be. -/
private theorem graded_powerFrom (h : n < 2 ^ (9 + k)) : Graded n (powerFrom 1 10 n (9 + k)) := by
  by_cases hn : n < 2 ^ 9
  · rw [powerFrom_of_lt hn]
    exact graded_of_lt hn
  · have hsquared : squared 10 9 = infinity := by decide +kernel
    have hrest : n / 2 ^ 9 < 2 ^ k := by
      rw [Nat.pow_add] at h
      exact Nat.div_lt_of_lt_mul h
    have hlow : powerFrom 1 10 n 9 * infinity = infinity := by
      rw [← powerFrom_mod]
      exact (graded_of_lt (Nat.mod_lt n (by decide))).mul_infinity
    -- Behind nine bits the squares are infinite, and there is a bit left to multiply by one.
    refine ⟨fun hle => absurd hle (by omega), fun _ => ?_⟩
    rw [powerFrom_add, hsquared, powerFrom_infinity hlow (Nat.div_pos (by omega) (by decide)) hrest]

/-- What holds of powers of ten, for exponents of thirty-three bits. -/
theorem graded_powerOfTen (h : n < 2 ^ 33) : Graded n (powerOfTen n) := by
  rw [powerOfTen, if_neg (by omega), Int.natAbs_natCast]
  exact graded_powerFrom (k := 24) h

/-- A power with a negative exponent is the reciprocal of one without a sign. -/
private theorem powerOfTen_neg (h : 0 < n) : powerOfTen (-(n : Int)) = 1 / powerOfTen n := by
  rw [powerOfTen, powerOfTen, if_pos (by omega), if_neg (by omega), Int.natAbs_neg]

end Graded

/-! ## Divisors -/

/-- What an amount with a number of decimals is divided by. -/
def divisor (decimals : Nat) : Float :=
  powerOfTen (signedDecimals decimals)

/-- An amount is divided by its divisor. -/
theorem scale_eq (count : Int) (decimals : Nat) :
    scale count decimals = nearest count / divisor decimals := rfl

/-- What is true of the divisor for a number of decimals, a word without a sign: below `2 ^ 31` it is
a power of ten, and from there on the reciprocal of one, which is zero unless the decimals are among
the last ones. -/
structure DivisorLaw (d : Nat) : Prop where
  exponent : signedDecimals d = d ↔ d < 2 ^ 31
  power : d ≤ 308 → IsTenTo d (divisor d)
  infinite : 308 < d → d < 2 ^ 31 → divisor d = infinity
  divides : 1 ≤ divisor d ↔ d < 2 ^ 31
  zero : divisor d = 0 ↔ 2 ^ 31 ≤ d ∧ d + 308 < 2 ^ 32
  multiplies : 0 < divisor d ∧ divisor d < 1 ↔ 2 ^ 32 ≤ d + 308

section Law

variable {d : Nat}

/-- Below `2 ^ 31` a word is the number of decimals itself. -/
private theorem signedDecimals_of_lt (h : d < 2 ^ 31) : signedDecimals d = d :=
  if_pos h

/-- From there on it is a negative number. -/
private theorem signedDecimals_of_le (h : 2 ^ 31 ≤ d) (hd : d < 2 ^ 32) :
    signedDecimals d = -((2 ^ 32 - d : Nat) : Int) := by
  rw [signedDecimals, if_neg (by omega)]
  omega

/-- Where the exponent keeps its sign, an amount is divided by a power of ten. -/
private theorem divisorLaw_of_lt (h : d < 2 ^ 31) : DivisorLaw d := by
  have hexponent := signedDecimals_of_lt h
  -- Below two to the thirty-one the decimals keep their sign.
  have hgraded : Graded d (divisor d) := by
    rw [divisor, hexponent]
    exact graded_powerOfTen (by omega)
  have hone := hgraded.one_le
  refine ⟨iff_of_true hexponent h, fun hd => (hgraded.1 hd).1, fun hd _ => hgraded.2 hd,
    iff_of_true hone h, ?_, ?_⟩
  · refine iff_of_false (fun hzero => ?_) (by omega)
    rw [hzero] at hone
    exact absurd hone (by decide +kernel)
  · exact iff_of_false (fun hsmall => not_lt_of_le hone hsmall.2) (by omega)

/-- Where it does not, an amount is divided by the reciprocal of one. -/
private theorem divisorLaw_of_le (h : 2 ^ 31 ≤ d) (hd : d < 2 ^ 32) : DivisorLaw d := by
  have hexponent := signedDecimals_of_le h hd
  have hdivisor : divisor d = 1 / powerOfTen (2 ^ 32 - d : Nat) := by
    rw [divisor, hexponent, powerOfTen_neg (by omega)]
  have hgraded : Graded (2 ^ 32 - d) (powerOfTen (2 ^ 32 - d : Nat)) :=
    graded_powerOfTen (by omega)
  have hsign : signedDecimals d ≠ d := by omega
  -- Only powers up to the 308th are finite, and only their reciprocals are not zero.
  by_cases hlast : 2 ^ 32 ≤ d + 308
  · obtain ⟨-, -, -, hpos, hsmall⟩ := hgraded.1 (by omega)
    rw [← hdivisor] at hpos hsmall
    have hone : divisor d < 1 := hsmall (by omega)
    refine ⟨iff_of_false hsign (by omega), by omega, by omega,
      iff_of_false (fun hle => not_lt_of_le hle hone) (by omega),
      iff_of_false (fun hzero => ?_) (by omega), iff_of_true ⟨hpos, hone⟩ hlast⟩
    rw [hzero] at hpos
    exact absurd hpos (by decide +kernel)
  · have hzero : divisor d = 0 := by
      rw [hdivisor, hgraded.2 (by omega)]
      decide +kernel
    refine ⟨iff_of_false hsign (by omega), by omega, by omega,
      iff_of_false ?_ (by omega), iff_of_true hzero (by omega), iff_of_false ?_ hlast⟩
    · rw [hzero]
      decide +kernel
    · rw [hzero]
      decide +kernel

/-- The law of divisors holds for every word. -/
theorem divisorLaw (h : d < 2 ^ 32) : DivisorLaw d := by
  by_cases hd : d < 2 ^ 31
  · exact divisorLaw_of_lt hd
  · exact divisorLaw_of_le (by omega) h

end Law

end Amount

end ChainGauge
