import ChainGauge.Number.Binary64
import Mathlib.Algebra.Order.Field.Power
import Mathlib.Algebra.Order.Field.Rat
import Mathlib.Tactic.Linarith
import Mathlib.Tactic.Ring

/-!
# The nearest double of a natural number

Between two powers of two the doubles are evenly spaced, and rounding takes the multiple of the
spacing that is nearest to a number. No double lies between the two multiples next to the number, so
none is nearer (`IsNearest`); a number of fifty-three bits is a multiple itself.

## Key results

- `Binary64.rat?_nearestNat`: what the rounded number stands for
- `Binary64.le_or_le_of_rat?`: no double lies between two neighbouring multiples
- `Binary64.isNearest_nearestNat`: the rounded number is the nearest double
-/

namespace ChainGauge.Binary64

/-- The number that a double stands for, if it is finite. -/
def Value.rat? : Value → Option ℚ
  | .finite negative m q _ _ => some ((if negative then -1 else 1) * (m * 2 ^ q))
  | _ => none

/-- A double is the nearest one to a natural number, of up to 1023 bits: it is the number itself where
that has no more than fifty-three bits, and no other double is nearer. -/
def IsNearest (n : Nat) (x : Float) : Prop :=
  n.log2 < 1023 → ∃ r, (Value.ofFloat x).rat? = some r ∧ (n < 2 ^ 53 → r = n) ∧
    ∀ y s, (Value.ofFloat y).rat? = some s → |(n : ℚ) - r| ≤ |(n : ℚ) - s|

/-! ## Rounding -/

section Rounding

variable {n k : Nat}

/-- Rounding by what is cut off, against a half. -/
private theorem roundShift_eq (n k : Nat) :
    roundShift n k =
      if 2 * (n % 2 ^ k) < 2 ^ k then n / 2 ^ k
      else if 2 ^ k < 2 * (n % 2 ^ k) then n / 2 ^ k + 1
      else n / 2 ^ k + n / 2 ^ k % 2 :=
  rfl

/-- A multiple is not rounded. -/
private theorem roundShift_of_dvd (h : 2 ^ k ∣ n) : roundShift n k = n / 2 ^ k := by
  have hrest : n % 2 ^ k = 0 := Nat.mod_eq_zero_of_dvd h
  have hpos : 0 < 2 ^ k := Nat.two_pow_pos k
  rw [roundShift_eq, hrest, if_pos (by omega)]

/-- Rounding goes down where the number is not above the middle, and up where it is not below. -/
private theorem roundShift_cases (n k : Nat) :
    (roundShift n k = n / 2 ^ k ∧ 2 * (n % 2 ^ k) ≤ 2 ^ k) ∨
      (roundShift n k = n / 2 ^ k + 1 ∧ 2 ^ k ≤ 2 * (n % 2 ^ k)) := by
  rw [roundShift_eq]
  split
  · exact .inl ⟨rfl, by omega⟩
  · split
    · exact .inr ⟨rfl, by omega⟩
    · rcases Nat.mod_two_eq_zero_or_one (n / 2 ^ k) with heven | hodd
      · exact .inl ⟨by rw [heven]; rfl, by omega⟩
      · exact .inr ⟨by rw [hodd], by omega⟩

end Rounding

/-! ## What the bits stand for -/

section Bits

variable {n e m : Nat}

/-- The highest fifty-three bits of a number. -/
private theorem highest_bounds (h : n ≠ 0) :
    0x10000000000000 ≤ 0x10000000000000 * n / 2 ^ n.log2 ∧
      0x10000000000000 * n / 2 ^ n.log2 < 0x20000000000000 := by
  have hle : 2 ^ n.log2 ≤ n := Nat.log2_self_le h
  have hlt : n < 2 ^ (n.log2 + 1) := Nat.lt_log2_self
  have hpos : 0 < 2 ^ n.log2 := Nat.two_pow_pos _
  rw [Nat.pow_succ] at hlt
  rw [Nat.le_div_iff_mul_le hpos, Nat.div_lt_iff_lt_mul hpos]
  omega

/-- What the bits of a positive double stand for that is not among the lowest ones. -/
private theorem rat?_of_parts {bits : UInt64} (exponent fraction : Nat) (hexponent : 0 < exponent)
    (hreach : exponent < 2047) (hfraction : fraction < 0x10000000000000)
    (h : bits.toNat = 0x10000000000000 * exponent + fraction) :
    (Value.ofBits bits).rat? =
      some (((0x10000000000000 + fraction : Nat) : ℚ) * 2 ^ ((exponent : ℤ) - 1075)) := by
  have hexponent' : bits.toNat / 0x10000000000000 % 0x800 = exponent := by omega
  have hfraction' : bits.toNat % 0x10000000000000 = fraction := by omega
  have hsign : decide (0x8000000000000000 ≤ bits.toNat) = false := decide_eq_false (by omega)
  rw [Value.ofBits, hexponent', hfraction', hsign, if_neg (by omega), if_neg (by omega), Value.rat?]
  simp only [Bool.false_eq_true, if_false, one_mul]

/-- A significand with its exponent, also where the significand was rounded up to a power of two. -/
private theorem rat?_ofBits (he : e < 1023) (hlow : 0x10000000000000 ≤ m)
    (hhigh : m ≤ 0x20000000000000) :
    (Value.ofBits (.ofNat (0x10000000000000 * (e + 1022) + m))).rat? =
      some ((m : ℚ) * 2 ^ ((e : ℤ) - 52)) := by
  have hbits : (UInt64.ofNat (0x10000000000000 * (e + 1022) + m)).toNat =
      0x10000000000000 * (e + 1022) + m := by
    rw [UInt64.toNat_ofNat', Nat.mod_eq_of_lt (by omega)]
  rcases Nat.lt_or_eq_of_le hhigh with hlt | rfl
  · obtain ⟨fraction, rfl⟩ := Nat.exists_eq_add_of_le hlow
    rw [rat?_of_parts (e + 1023) fraction (by omega) (by omega) (by omega)
      (by rw [hbits]; omega)]
    have hscale : ((e + 1023 : Nat) : ℤ) - 1075 = (e : ℤ) - 52 := by omega
    rw [hscale]
  -- The carry went into the exponent and left no other bits.
  · rw [rat?_of_parts (e + 1024) 0 (by omega) (by omega) (by omega)
      (by rw [hbits]; omega)]
    have hscale : ((e + 1024 : Nat) : ℤ) - 1075 = (e : ℤ) - 52 + 1 := by omega
    rw [hscale, zpow_add_one₀ two_ne_zero]
    norm_num
    ring

/-- What a rounded number stands for: its highest fifty-three bits, rounded. -/
theorem rat?_nearestNat (h : n ≠ 0) (he : n.log2 < 1023) :
    (Value.ofFloat (nearestNat n)).rat? =
      some ((roundShift (0x10000000000000 * n) n.log2 : ℚ) * 2 ^ ((n.log2 : ℤ) - 52)) := by
  obtain ⟨hlow, hhigh⟩ := highest_bounds h
  -- Rounding up may carry to the next power of two, but not beyond it.
  have hround : 0x10000000000000 ≤ roundShift (0x10000000000000 * n) n.log2 ∧
      roundShift (0x10000000000000 * n) n.log2 ≤ 0x20000000000000 := by
    rcases roundShift_cases (0x10000000000000 * n) n.log2 with ⟨heq, -⟩ | ⟨heq, -⟩ <;>
      rw [heq] <;> omega
  have hbits : nearestBits n =
      0x10000000000000 * (n.log2 + 1022) + roundShift (0x10000000000000 * n) n.log2 := by
    rw [nearestBits, if_neg h, infinityBits]
    omega
  have hfloat : Value.ofFloat (nearestNat n) = Value.ofBits (.ofNat (nearestBits n)) := rfl
  rw [hfloat, hbits]
  exact rat?_ofBits he hround.1 hround.2

end Bits

/-! ## Doubles between multiples -/

/-- A finite double has a significand of fifty-three bits. -/
private theorem lt_of_ofBits {bits : UInt64} {negative even spacing : Bool} {m : Nat} {q : ℤ}
    (h : Value.ofBits bits = .finite negative m q even spacing) : m < 0x20000000000000 := by
  rw [Value.ofBits] at h
  split at h
  · split at h <;> cases h
  · split at h
    · injection h
      omega
    · injection h
      omega

/-- No multiple lies between two neighbouring ones. -/
private theorem le_or_le_of_multiple {u : ℚ} (hu : 0 ≤ u) (j k : Nat) :
    (k : ℚ) * u ≤ j * u ∨ (j + 1) * u ≤ k * u := by
  rcases Nat.lt_or_ge j k with hlt | hge
  · right
    refine mul_le_mul_of_nonneg_right ?_ hu
    exact_mod_cast hlt
  · left
    refine mul_le_mul_of_nonneg_right ?_ hu
    exact_mod_cast hge

/-- A significand of fifty-three bits with a smaller exponent does not come up to multiples of
fifty-three bits. -/
private theorem mul_zpow_le_of_lt {m j : Nat} {q t : ℤ} (hm : m ≤ 2 * j) (hq : q < t) :
    (m : ℚ) * 2 ^ q ≤ j * 2 ^ t := by
  have hstep : (2 : ℚ) ^ q ≤ 2 ^ (t - 1) := zpow_le_zpow_right₀ one_le_two (by omega)
  have hm' : (m : ℚ) ≤ 2 * j := by exact_mod_cast hm
  calc (m : ℚ) * 2 ^ q ≤ 2 * j * 2 ^ (t - 1) :=
        mul_le_mul hm' hstep (by positivity) (by positivity)
    _ = j * 2 ^ t := by
        rw [zpow_sub_one₀ two_ne_zero]
        ring

/-- No double lies between two neighbouring multiples of a power of two, where the multiples have
fifty-three bits. -/
theorem le_or_le_of_rat? {y : Float} {s : ℚ} {j : Nat} {t : ℤ}
    (h : (Value.ofFloat y).rat? = some s) (hj : 0x10000000000000 ≤ j) :
    s ≤ j * 2 ^ t ∨ (j + 1) * 2 ^ t ≤ s := by
  have hpos : (0 : ℚ) < 2 ^ t := by positivity
  cases hvalue : Value.ofFloat y with
  | nan => rw [hvalue] at h; cases h
  | infinite negative => rw [hvalue] at h; cases h
  | finite negative m q even spacing =>
    have hm : m < 0x20000000000000 := lt_of_ofBits hvalue
    rw [hvalue, Value.rat?] at h
    obtain rfl := Option.some.inj h
    cases negative with
    | true =>
      left
      have hvalue : (0 : ℚ) ≤ m * 2 ^ q := by positivity
      have hmultiple : (0 : ℚ) ≤ j * 2 ^ t := by positivity
      simp only [if_true]
      linarith
    | false =>
      simp only [Bool.false_eq_true, if_false, one_mul]
      rcases lt_or_ge q t with hq | hq
      · exact .inl (mul_zpow_le_of_lt (by omega) hq)
      -- The double is a multiple of the power as well.
      · obtain ⟨d, rfl⟩ := Int.le.dest hq
        have hmultiple : (m : ℚ) * 2 ^ (t + d) = (m * 2 ^ d : Nat) * 2 ^ t := by
          rw [zpow_add₀ two_ne_zero, zpow_natCast]
          push_cast
          ring
        rw [hmultiple]
        exact le_or_le_of_multiple hpos.le j _

/-- The nearer one of two neighbours is nearer than anything that does not lie between them. -/
private theorem abs_sub_le_of_neighbours {x lo hi r s : ℚ} (hlo : lo ≤ x) (hhi : x ≤ hi)
    (hr : (r = lo ∧ x - lo ≤ hi - x) ∨ (r = hi ∧ hi - x ≤ x - lo)) (hs : s ≤ lo ∨ hi ≤ s) :
    |x - r| ≤ |x - s| := by
  have hbelow : x - s ≤ |x - s| := le_abs_self _
  have habove : s - x ≤ |x - s| := by
    rw [abs_sub_comm]
    exact le_abs_self _
  -- The distance to `r` is at most the other neighbour's, and `s` lies beyond one of the two.
  rcases hr with ⟨rfl, hnear⟩ | ⟨rfl, hnear⟩
  · rw [abs_of_nonneg (by linarith)]
    rcases hs with hs | hs <;> linarith
  · rw [abs_of_nonpos (by linarith)]
    rcases hs with hs | hs <;> linarith

section Neighbours

variable {n : Nat}

/-- A number lies between two neighbouring multiples, and its distance to the lower one is what is cut
off. -/
private theorem eq_multiple_add_rest (n : Nat) :
    (n : ℚ) = ((0x10000000000000 * n / 2 ^ n.log2 : Nat) : ℚ) * 2 ^ ((n.log2 : ℤ) - 52) +
      ((0x10000000000000 * n % 2 ^ n.log2 : Nat) : ℚ) / 0x10000000000000 := by
  have hsplit : ((2 : ℚ) ^ n.log2) * ((0x10000000000000 * n / 2 ^ n.log2 : Nat) : ℚ) +
      ((0x10000000000000 * n % 2 ^ n.log2 : Nat) : ℚ) = 0x10000000000000 * n := by
    exact_mod_cast Nat.div_add_mod (0x10000000000000 * n) (2 ^ n.log2)
  rw [zpow_sub₀ two_ne_zero, zpow_natCast]
  have hplaces : (2 : ℚ) ^ (52 : ℤ) = 0x10000000000000 := by norm_num
  rw [hplaces]
  linarith

/-- Zero is its own double. -/
private theorem rat?_nearestNat_zero : (Value.ofFloat (nearestNat 0)).rat? = some 0 := by
  have hvalue : Value.ofFloat (nearestNat 0) = .finite false 0 (-1074) true true := by
    decide +kernel
  rw [hvalue, Value.rat?]
  simp

/-- Nothing is cut off a number of fifty-three bits. -/
private theorem rounded_eq_of_lt (h0 : n ≠ 0) (h : n < 2 ^ 53) :
    (roundShift (0x10000000000000 * n) n.log2 : ℚ) * 2 ^ ((n.log2 : ℤ) - 52) = n := by
  have hlog : n.log2 ≤ 52 := Nat.le_of_lt_succ ((Nat.log2_lt h0).mpr h)
  have hdvd : 2 ^ n.log2 ∣ 0x10000000000000 * n :=
    Dvd.dvd.mul_right (pow_dvd_pow 2 hlog : 2 ^ n.log2 ∣ 2 ^ 52) n
  have hsum := eq_multiple_add_rest n
  rw [Nat.mod_eq_zero_of_dvd hdvd, Nat.cast_zero, zero_div, add_zero] at hsum
  rw [roundShift_of_dvd hdvd, ← hsum]

/-- No double is nearer to a number than the multiple it is rounded to. -/
private theorem abs_sub_rounded_le {y : Float} {s : ℚ} (h0 : n ≠ 0)
    (hs : (Value.ofFloat y).rat? = some s) :
    |(n : ℚ) - roundShift (0x10000000000000 * n) n.log2 * 2 ^ ((n.log2 : ℤ) - 52)| ≤
      |(n : ℚ) - s| := by
  have hsum := eq_multiple_add_rest n
  -- Distances are compared in parts of the spacing: what is cut off, against all of it.
  have hunit : (2 : ℚ) ^ ((n.log2 : ℤ) - 52) = (2 : ℚ) ^ n.log2 / 0x10000000000000 := by
    rw [zpow_sub₀ two_ne_zero, zpow_natCast]
    norm_num
  have hrest : ((0x10000000000000 * n % 2 ^ n.log2 : Nat) : ℚ) < 2 ^ n.log2 := by
    exact_mod_cast Nat.mod_lt _ (Nat.two_pow_pos _)
  have hrest0 : (0 : ℚ) ≤ ((0x10000000000000 * n % 2 ^ n.log2 : Nat) : ℚ) := Nat.cast_nonneg _
  have hoff := le_or_le_of_rat? (t := (n.log2 : ℤ) - 52) hs (highest_bounds h0).1
  refine abs_sub_le_of_neighbours ?_ ?_ ?_ hoff
  · linarith
  · linarith
  · rcases roundShift_cases (0x10000000000000 * n) n.log2 with ⟨heq, hle⟩ | ⟨heq, hle⟩
    · left
      have hle' : (2 : ℚ) * ((0x10000000000000 * n % 2 ^ n.log2 : Nat) : ℚ) ≤ 2 ^ n.log2 := by
        exact_mod_cast hle
      exact ⟨by rw [heq], by linarith⟩
    · right
      have hle' : (2 : ℚ) ^ n.log2 ≤ 2 * ((0x10000000000000 * n % 2 ^ n.log2 : Nat) : ℚ) := by
        exact_mod_cast hle
      exact ⟨by rw [heq]; push_cast; ring, by linarith⟩

/-- The double that a natural number is rounded to is the nearest one. -/
theorem isNearest_nearestNat (n : Nat) : IsNearest n (nearestNat n) := by
  intro hn
  by_cases h0 : n = 0
  · subst h0
    exact ⟨0, rat?_nearestNat_zero, fun _ => rfl, fun y s _ => by simp⟩
  · exact ⟨_, rat?_nearestNat h0 hn, rounded_eq_of_lt h0, fun y s hs => abs_sub_rounded_le h0 hs⟩

end Neighbours

end ChainGauge.Binary64
