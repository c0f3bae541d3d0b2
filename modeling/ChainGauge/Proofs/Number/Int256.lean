import ChainGauge.Number.Int256
import ChainGauge.Proofs.Text.Utf8

/-!
# Decimal texts of whole numbers

The decimal text of a number in range is read as the number (`ofDecimal_toString`). Reading looks at
the size of what it has so far behind every group of digits; that never ends it too early, because
digits only make a number larger (`magnitude_map_ofNat`).
-/

namespace ChainGauge.Int256

variable {cs : List Char} {c : Char} {acc count : Nat}

/-- The bounds of a digit's character. -/
theorem bounds_of_isDigit (h : c.isDigit = true) : 48 ≤ c.toNat ∧ c.toNat ≤ 57 := by
  simpa [Char.isDigit, UInt32.le_iff_toNat_le] using h

/-- Digits are ASCII. -/
private theorem ascii_of_digits (h : ∀ c ∈ cs, c.isDigit = true) : ∀ c ∈ cs, c.toNat < 128 := by
  intro c hc
  have := bounds_of_isDigit (h c hc)
  omega

/-- Digits behind a number do not make it smaller. -/
private theorem le_ofDigitChars (cs : List Char) (acc : Nat) :
    acc ≤ Nat.ofDigitChars 10 cs acc := by
  induction cs generalizing acc with
  | nil => exact Nat.le_refl acc
  | cons c cs ih =>
    rw [Nat.ofDigitChars_cons]
    exact Nat.le_trans (by omega) (ih _)

/-- Digits are read as their number, if it is not too large. -/
theorem magnitude_map_ofNat (h : ∀ c ∈ cs, c.isDigit = true)
    (hlt : Nat.ofDigitChars 10 cs acc < 2 * bound) :
    magnitude acc count (cs.map fun c => UInt8.ofNat c.toNat) =
      .ok (Nat.ofDigitChars 10 cs acc) := by
  induction cs generalizing acc count with
  | nil => exact if_pos hlt
  | cons c cs ih =>
    obtain ⟨hc, hcs⟩ := List.forall_mem_cons.mp h
    obtain ⟨hlo, hhi⟩ := bounds_of_isDigit hc
    have hbyte : (UInt8.ofNat c.toNat).toNat = c.toNat := Utf8.toNat_ofNat_of_lt (by omega)
    have hzero : '0'.toNat = 48 := rfl
    rw [Nat.ofDigitChars_cons, hzero] at hlt ⊢
    -- What is read so far is not larger than the whole, so no group ends in an overflow.
    have hle := le_ofDigitChars cs (10 * acc + (c.toNat - 48))
    rw [List.map_cons, magnitude, if_neg, if_pos, hbyte, if_neg]
    · exact ih hcs hlt
    · omega
    · simp only [UInt8.le_iff_toNat_le, hbyte]
      exact ⟨hlo, hhi⟩
    · intro heq
      rw [heq] at hbyte
      have : c.toNat = 95 := hbyte.symm
      omega

/-- The digits of a natural number are read as the number. -/
private theorem magnitude_toDigits {n : Nat} (h : n < 2 * bound) :
    magnitude 0 0 ((Nat.toDigits 10 n).map fun c => UInt8.ofNat c.toNat) = .ok n := by
  have hvalue := Nat.ofDigitChars_ten_toDigits (n := n)
  rw [magnitude_map_ofNat (fun c => Nat.isDigit_of_mem_toDigits (by decide) (by decide)), hvalue]
  rwa [hvalue]

/-- Digits alone carry no sign. -/
private theorem ofDecimal_digits (h : ∀ c ∈ cs, c.isDigit = true) :
    ofDecimal (String.ofList cs) =
      (magnitude 0 0 (cs.map fun c => UInt8.ofNat c.toNat)).bind (signed false) := by
  rw [ofDecimal, Utf8.encode_ofList_ascii (ascii_of_digits h)]
  cases cs with
  | nil => rfl
  | cons c cs =>
    -- A digit is neither of the two signs, so the text is read without one.
    obtain ⟨hlo, hhi⟩ := bounds_of_isDigit (h c List.mem_cons_self)
    have hbyte : (UInt8.ofNat c.toNat).toNat = c.toNat := Utf8.toNat_ofNat_of_lt (by omega)
    rw [List.map_cons]
    split
    · rename_i heq
      rw [(List.cons.inj heq).1] at hbyte
      have : c.toNat = 43 := hbyte.symm
      omega
    · rename_i heq
      rw [(List.cons.inj heq).1] at hbyte
      have : c.toNat = 45 := hbyte.symm
      omega
    · rfl

/-- A number in range is given its sign. -/
private theorem signed_eq_ok {negative : Bool} {n : Nat} {v : Int}
    (hv : (if negative then -(n : Int) else n) = v) (h : InRange v) :
    signed negative n = .ok v := by
  subst hv
  rw [signed, if_pos h]

/-- The text of a number in range is read as the number. -/
theorem ofDecimal_toString {n : Int} (h : InRange n) : ofDecimal (toString n) = .ok n := by
  have hlo := h.1
  have hhi := h.2
  -- Lean writes a negative number as the negated successor, so the two signs are read apart.
  cases n with
  | ofNat n =>
    have hdigits : toString (Int.ofNat n) = String.ofList (Nat.toDigits 10 n) := rfl
    have hn : n < 2 * bound := by
      rw [Int.ofNat_eq_natCast] at hhi
      omega
    rw [hdigits, ofDecimal_digits fun c => Nat.isDigit_of_mem_toDigits (by decide) (by decide),
      magnitude_toDigits hn, Except.bind]
    exact signed_eq_ok rfl h
  | negSucc n =>
    have hdigits : toString (Int.negSucc n) = String.ofList ('-' :: Nat.toDigits 10 (n + 1)) := by
      rw [String.ofList_cons]
      rfl
    have hascii : ∀ c ∈ '-' :: Nat.toDigits 10 (n + 1), c.toNat < 128 :=
      List.forall_mem_cons.mpr ⟨by decide,
        ascii_of_digits fun c => Nat.isDigit_of_mem_toDigits (by decide) (by decide)⟩
    have hn : n + 1 < 2 * bound := by
      rw [Int.negSucc_eq] at hlo
      omega
    rw [hdigits, ofDecimal, Utf8.encode_ofList_ascii hascii]
    have hread : ((magnitude 0 0 ((Nat.toDigits 10 (n + 1)).map
        fun c => UInt8.ofNat c.toNat)).bind (signed true)) = .ok (Int.negSucc n) := by
      rw [magnitude_toDigits hn, Except.bind]
      exact signed_eq_ok (Int.negSucc_eq n).symm h
    exact hread

end ChainGauge.Int256
