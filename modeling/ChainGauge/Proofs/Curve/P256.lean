import ChainGauge.Curve.P256
import Mathlib.FieldTheory.Finite.Basic
import Mathlib.NumberTheory.LucasPrimality
import Mathlib.Tactic.NormNum.Prime

/-!
# Compressed points are read back

The compressed form of a point holds its x and the parity of its y, and it is read by taking a square root
modulo the prime. That the root is there where there is a point, is Fermat's little theorem, and needs the
modulus to be prime; that the two values of y differ in parity needs it to be odd, and y to be another than
zero. So whatever form a point was read from, its compressed form is read as a point with the same
compressed form.

## Key results

- `prime_p`: the modulus is prime, by Lucas's test on the prime factors of its predecessor
- `sqrt?_of_square`: a square has a root
- `toNat_field`: a coordinate is read back from its bytes
- `exists_decode?_encode`: the compressed form of a point that was read is read
-/

namespace ChainGauge.P256

/-! ## Powers -/

/-- Repeated squaring gives the power. -/
private theorem powMod_eq (base e m : Nat) : powMod base e m = base ^ e % m := by
  induction e using Nat.strong_induction_on generalizing base with
  | _ e ih =>
    -- The base is squared where the exponent is halved.
    rw [powMod]
    split
    · rename_i he
      rw [he, pow_zero]
    · rename_i he
      have hhalf : powMod (base * base % m) (e / 2) m = base ^ (2 * (e / 2)) % m := by
        rw [ih (e / 2) (by omega), ← Nat.pow_mod, pow_mul, pow_two]
      rw [hhalf]
      split
      · rename_i hodd
        have hsplit : e = 2 * (e / 2) + 1 := by omega
        rw [← Nat.mul_mod_mod, Nat.mod_mod, Nat.mul_mod_mod, ← pow_succ', ← hsplit]
      · rename_i heven
        have hsplit : 2 * (e / 2) = e := by omega
        rw [hsplit]

/-! ## The modulus is prime -/

/-- A power is one in the field exactly if it is one modulo the number. -/
private theorem natCast_pow_eq_one_iff {n : Nat} (hn : 1 < n) (a e : Nat) :
    (a : ZMod n) ^ e = 1 ↔ powMod a e n = 1 := by
  rw [powMod_eq, ← Nat.cast_pow, ← Nat.cast_one, ZMod.natCast_eq_natCast_iff',
    Nat.mod_eq_of_lt hn]

/-- What shows that a base has the largest order there can be modulo a number. -/
def HasFullOrder (a n : Nat) (factors : List Nat) : Prop :=
  1 < n ∧ factors.prod = n - 1 ∧ powMod a (n - 1) n = 1 ∧
    ∀ q ∈ factors, powMod a ((n - 1) / q) n ≠ 1

instance (a n : Nat) (factors : List Nat) : Decidable (HasFullOrder a n factors) :=
  inferInstanceAs (Decidable (_ ∧ _ ∧ _ ∧ _))

/-- Lucas's test: a number with such a base is prime. -/
private theorem prime_of_hasFullOrder {n : Nat} (a : Nat) (factors : List Nat)
    (h : HasFullOrder a n factors)
    (hprime : ∀ q ∈ factors, q.Prime) : n.Prime := by
  obtain ⟨hn, hprod, hfull, hpart⟩ := h
  refine lucas_primality n (a : ZMod n) ((natCast_pow_eq_one_iff hn a _).mpr hfull) fun q hq hdvd => ?_
  rw [← hprod] at hdvd
  obtain ⟨r, hr, hqr⟩ := (Prime.dvd_prod_iff hq.prime).mp hdvd
  have hqr' : q = r := (Nat.prime_dvd_prime_iff_eq hq (hprime r hr)).mp hqr
  rw [Ne, natCast_pow_eq_one_iff hn]
  exact hqr' ▸ hpart r hr

/-- The modulus is prime. The prime factors of its predecessor are shown to be prime by the same test, as
are those of theirs; the small ones among them are left to trial division. -/
theorem prime_p : p.Prime := by
  -- The factors of the predecessor, and their own factors in turn, down to those that are small.
  have h₁ : Nat.Prime 204061199 := by
    refine prime_of_hasFullOrder 11 [2, 11, 23, 107, 3769] (by decide +kernel) ?_
    norm_num
  have h₂ : Nat.Prime 34282281433 := by
    refine prime_of_hasFullOrder 17 [2, 2, 2, 3, 7, 204061199] (by decide +kernel) ?_
    simp only [List.forall_mem_cons, h₁]
    norm_num
  have h₃ : Nat.Prime 46076956964474543 := by
    refine prime_of_hasFullOrder 5 [2, 23, 18169, 78283, 704251] (by decide +kernel) ?_
    norm_num
  have h₄ : Nat.Prime 66417393611 := by
    refine prime_of_hasFullOrder 6 [2, 5, 53, 173, 197, 3677] (by decide +kernel) ?_
    norm_num
  have h₅ : Nat.Prime 11290956913871 := by
    refine prime_of_hasFullOrder 13 [2, 5, 17, 66417393611] (by decide +kernel) ?_
    simp only [List.forall_mem_cons, h₄]
    norm_num
  have h₆ : Nat.Prime 774023187263532362759620327192479577272145303 := by
    refine prime_of_hasFullOrder 3
      [2, 3, 3, 2411, 34282281433, 11290956913871, 46076956964474543]
      (by decide +kernel) ?_
    simp only [List.forall_mem_cons, h₂, h₃, h₅]
    norm_num
  have h₇ : Nat.Prime 835945042244614951780389953367877943453916927241 := by
    refine prime_of_hasFullOrder 11
      [2, 2, 2, 3, 3, 3, 5, 774023187263532362759620327192479577272145303]
      (by decide +kernel) ?_
    simp only [List.forall_mem_cons, h₆]
    norm_num
  refine prime_of_hasFullOrder 6
    [2, 3, 5, 5, 17, 257, 641, 1531, 65537, 490463, 6700417,
      835945042244614951780389953367877943453916927241] (by decide +kernel) ?_
  simp only [List.forall_mem_cons, h₇]
  norm_num

/-! ## Square roots -/

instance : Fact p.Prime := ⟨prime_p⟩

/-- Numbers are one element of the field exactly if they agree modulo the prime. -/
private theorem natCast_eq_iff {m n : Nat} : (m : ZMod p) = n ↔ m % p = n % p :=
  ZMod.natCast_eq_natCast_iff' m n p

/-- A power of a square is one of its roots, because the modulus leaves three when it is divided by
four. -/
theorem sqrt?_of_square {n y : Nat} (h : y * y % p = n % p) : ∃ r, sqrt? n = some r := by
  have hsquare : (n : ZMod p) = (y : ZMod p) ^ 2 := by
    rw [pow_two, ← Nat.cast_mul, natCast_eq_iff, h]
  have hroot : ((n : ZMod p) ^ ((p + 1) / 4)) * (n : ZMod p) ^ ((p + 1) / 4) = n := by
    rw [hsquare]
    by_cases hy : (y : ZMod p) = 0
    · rw [hy, zero_pow two_ne_zero, zero_pow (by decide), mul_zero]
    -- The exponents add up to one square more than Fermat's theorem takes away.
    · have hexponent : 2 * ((p + 1) / 4) + 2 * ((p + 1) / 4) = (p - 1) + 2 := by decide
      rw [← pow_mul, ← pow_add, hexponent, pow_add, ZMod.pow_card_sub_one_eq_one hy, one_mul]
  have hpower : powMod n ((p + 1) / 4) p * powMod n ((p + 1) / 4) p % p = n % p := by
    rw [powMod_eq, ← Nat.mul_mod, ← natCast_eq_iff, Nat.cast_mul, Nat.cast_pow, hroot]
  exact ⟨_, if_pos hpower⟩

/-- A root that is found is one. -/
private theorem sqrt?_eq_some {n r : Nat} (h : sqrt? n = some r) : r < p ∧ r * r % p = n % p := by
  rw [sqrt?] at h
  split at h
  · rename_i hr
    cases h
    refine ⟨?_, hr⟩
    rw [powMod_eq]
    exact Nat.mod_lt _ (by decide)
  · cases h

/-- The root of a square that is not zero is not zero. -/
private theorem root_ne_zero {y r : Nat} (hy : y < p) (hy0 : y ≠ 0) (h : y * y % p = r * r % p) :
    r ≠ 0 := by
  rintro rfl
  have hdvd : p ∣ y * y := Nat.dvd_of_mod_eq_zero h
  have hdvd' : p ∣ y := (prime_p.dvd_mul.mp hdvd).elim id id
  exact hy0 (Nat.eq_zero_of_dvd_of_lt hdvd' hy)

/-! ## Written coordinates -/

/-- The first bytes of a coordinate are its highest digits. -/
private theorem toNat_take_field {n : Nat} (hn : n < 256 ^ 32) {k : Nat} (hk : k ≤ 32) :
    Bytes.toNat ((List.range k).map fun i => UInt8.ofNat (n / Nat.pow 256 (31 - i))) =
      n / 256 ^ (32 - k) := by
  -- The bytes read so far are the number without those that are to come.
  induction k with
  | zero => exact (Nat.div_eq_of_lt hn).symm
  | succ k ih =>
    have hexponent : 32 - k = (32 - (k + 1)) + 1 := by omega
    have hbyte : 31 - k = 32 - (k + 1) := by omega
    rw [List.range_succ, List.map_append, Bytes.toNat, List.foldl_append, ← Bytes.toNat,
      ih (by omega), hexponent, pow_succ, ← Nat.div_div_eq_div_mul]
    show 256 * _ + (UInt8.ofNat (n / 256 ^ (31 - k))).toNat = _
    rw [hbyte, UInt8.toNat_ofNat']
    exact Nat.div_add_mod _ _

/-- The bytes of a coordinate are the digits of its number. -/
theorem toNat_field {n : Nat} (hn : n < p) : Bytes.toNat (field n) = n := by
  have hbound : p < 256 ^ 32 := by decide
  rw [field, toNat_take_field (hn.trans hbound) (Nat.le_refl 32), Nat.sub_self, pow_zero, Nat.div_one]

/-- A coordinate takes thirty-two bytes. -/
private theorem length_field (n : Nat) : (field n).length = 32 := by
  simp [field]

/-! ## Compressed forms -/

/-- A point has a root for its coordinate, other than zero if its y is odd. -/
def Point.Liftable (q : Point) : Prop :=
  q.x < p ∧ ∃ r, sqrt? (rhs q.x) = some r ∧ (q.y % 2 = 1 → r ≠ 0)

variable {q : Point} {bs : Bytes}

/-- A point of the curve can be lifted from its x. -/
private theorem liftable_of_onCurve (h : q.OnCurve) : q.Liftable := by
  obtain ⟨hx, hy, hcurve⟩ := h
  have hrhs : q.y * q.y % p = rhs q.x % p := by
    rw [hcurve, rhs, Nat.mod_mod]
  obtain ⟨r, hr⟩ := sqrt?_of_square hrhs
  refine ⟨hx, r, hr, fun hodd => ?_⟩
  obtain ⟨-, hroot⟩ := sqrt?_eq_some hr
  exact root_ne_zero hy (by omega) (hrhs.trans hroot.symm)

/-- Whichever of the two values is picked, it is zero if the root is. -/
private theorem liftable_of_lift? {x : Nat} {choose : Nat → Nat → Nat} (hchoose : choose 0 0 = 0)
    (h : lift? x choose = some q) : q.Liftable := by
  rw [lift?] at h
  split at h
  · rename_i hx
    obtain ⟨r, hr, rfl⟩ := Option.map_eq_some_iff.mp h
    refine ⟨hx, r, hr, fun hodd hzero => ?_⟩
    subst hzero
    -- The root zero is its own opposite, so either choice gives it.
    have hother : (p - 0) % p = 0 := by decide
    simp only [hother, hchoose] at hodd
    omega
  · cases h

/-- So can a point that was read. -/
private theorem liftable_of_decode? (h : Point.decode? bs = some q) : q.Liftable := by
  cases bs with
  | nil => cases h
  | cons tag rest =>
    rw [Point.decode?] at h
    dsimp only at h
    -- The tag tells the form: both coordinates, or one with the parity of the other.
    split at h
    · split at h
      · rename_i hcurve
        cases h
        exact liftable_of_onCurve hcurve
      · cases h
    · split at h
      · split at h
        · exact liftable_of_lift? rfl h
        · split at h
          · exact liftable_of_lift? rfl h
          · split at h
            · exact liftable_of_lift? rfl h
            · cases h
      · cases h

/-- Of a root and its negative, one has the parity that is asked for. -/
private theorem parity_byParity (odd : Bool) {r : Nat} (hr : r < p) (h : odd = true → r ≠ 0) :
    byParity odd r ((p - r) % p) % 2 = 1 ↔ odd = true := by
  have hp : p % 2 = 1 := by decide
  rw [byParity]
  split
  · rename_i hparity
    rw [← hparity]
  · rename_i hparity
    by_cases hr0 : r = 0
    -- Zero is even, and no odd one is asked for.
    · have hodd : odd ≠ true := fun hodd => h hodd hr0
      have hother : (p - r) % p = 0 := by rw [hr0, Nat.sub_zero, Nat.mod_self]
      rw [hother]
      exact iff_of_false (by decide) hodd
    · have hother : (p - r) % p = p - r := Nat.mod_eq_of_lt (by omega)
      rw [hother]
      cases odd with
      | false =>
        have hodd : r % 2 = 1 := by simpa using hparity
        exact iff_of_false (by omega) (by decide)
      | true =>
        have heven : r % 2 ≠ 1 := by simpa using hparity
        exact iff_of_true (by omega) rfl

/-- A tag with a coordinate is read as the point over it with the parity of the tag. -/
private theorem decode?_tag (odd : Bool) {x : Nat} (hx : x < p) :
    Point.decode? ((if odd then 3 else 2) :: field x) = lift? x (byParity odd) := by
  cases odd <;> simp [Point.decode?, length_field, toNat_field hx]

/-- The compressed form of a point that was read is read as a point with this compressed form. -/
theorem exists_decode?_encode (h : Point.decode? bs = some q) :
    ∃ q', Point.decode? q.encode = some q' ∧ q'.encode = q.encode := by
  obtain ⟨hx, r, hr, hodd⟩ := liftable_of_decode? h
  obtain ⟨hlt, -⟩ := sqrt?_eq_some hr
  have hparity := parity_byParity (decide (q.y % 2 = 1)) hlt (by simpa using hodd)
  refine ⟨⟨q.x, byParity (decide (q.y % 2 = 1)) r ((p - r) % p)⟩, ?_, ?_⟩
  · have hdecode := decode?_tag (decide (q.y % 2 = 1)) hx
    rw [lift?, if_pos hx, hr] at hdecode
    simpa [Point.encode] using hdecode
  · simp only [Point.encode, hparity, decide_eq_true_iff]

end ChainGauge.P256
