import ChainGauge.Net.Ip
import Mathlib.Algebra.Ring.Nat
import Mathlib.Data.List.Forall2
import Mathlib.Data.List.Induction

/-!
# Numbers in addresses

Digits are read from the front as far as they go. What they spell is told without the readers
(`SpellsDigits`), so that each reader of a number has one iff: `Ip.takeNumber_eq_some_iff` for
numbers of any base, and `Ip4.takeByte_eq_some_iff` for the numbers of an address of four bytes,
which have one text each.
-/

namespace ChainGauge

namespace Ip

variable {base n : Nat} {cs rest : List Char} {ds : List Nat} {c : Char} {d : Nat}

/-! ## Digits -/

/-- Characters are digits of a base. -/
def SpellsDigits (base : Nat) (cs : List Char) (ds : List Nat) : Prop :=
  List.Forall₂ (fun c d => digit? base c = some d) cs ds

/-- The next character is no digit. -/
def Ends (base : Nat) (rest : List Char) : Prop :=
  ∀ c ∈ rest.head?, digit? base c = none

/-- A digit is below its base. -/
private theorem lt_of_digit? (h : digit? base c = some d) : d < base := by
  simpa using (Option.filter_eq_some_iff.mp h).2

/-- The character of a digit is read as it. -/
private theorem digit?_digitChar (h : d < base) (hbase : base ≤ 16) :
    digit? base (Nat.digitChar d) = some d := by
  have hall : ∀ d < 16, digit? 16 (Nat.digitChar d) = some d := by decide
  have hvalue := (Option.filter_eq_some_iff.mp (hall d (by omega))).1
  exact Option.filter_eq_some_iff.mpr ⟨hvalue, by simpa using h⟩

/-- A digit is one of ten, or a letter in either case. -/
private theorem digit?_cases (h : digit? base c = some d) :
    ('0' ≤ c ∧ c ≤ '9') ∧ d = c.toNat - 48 ∨ ('a' ≤ c ∧ c ≤ 'f') ∧ d = c.toNat - 87 ∨
      ('A' ≤ c ∧ c ≤ 'F') ∧ d = c.toNat - 55 := by
  obtain ⟨hvalue, -⟩ := Option.filter_eq_some_iff.mp h
  split at hvalue
  · rename_i hdecimal
    exact .inl ⟨hdecimal, (Option.some.inj hvalue).symm⟩
  · split at hvalue
    · rename_i hletter
      exact .inr (.inl ⟨hletter, (Option.some.inj hvalue).symm⟩)
    · split at hvalue
      · rename_i hletter
        exact .inr (.inr ⟨hletter, (Option.some.inj hvalue).symm⟩)
      · exact nomatch hvalue

/-- A decimal digit is the one character of its value. -/
private theorem eq_digitChar_of_digit? (h : digit? 10 c = some d) : c = Nat.digitChar d := by
  have hlt := lt_of_digit? h
  have hvalue : c.toNat = d + 48 := by
    -- Letters stand for ten and more.
    obtain ⟨⟨hlow, -⟩, rfl⟩ | ⟨⟨hlow, -⟩, rfl⟩ | ⟨⟨hlow, -⟩, rfl⟩ := digit?_cases h
    · have hlow : 48 ≤ c.toNat := hlow
      omega
    · have hlow : 97 ≤ c.toNat := hlow
      omega
    · have hlow : 65 ≤ c.toNat := hlow
      omega
  have hall : ∀ d < 10, (Nat.digitChar d).toNat = d + 48 := by decide
  exact Char.toNat_inj.mp (hvalue.trans (hall d hlt).symm)

/-- Whether a character may stand in a name: letters, digits, hyphens and points may. -/
def isNameChar (c : Char) : Bool :=
  c.isAlphanum || c == '-' || c == '.'

/-- Characters of names are letters, digits, hyphens and points. -/
theorem isNameChar_iff : isNameChar c = true ↔
    (65 ≤ c.toNat ∧ c.toNat ≤ 90) ∨ (97 ≤ c.toNat ∧ c.toNat ≤ 122) ∨
      (48 ≤ c.toNat ∧ c.toNat ≤ 57) ∨ c = '-' ∨ c = '.' := by
  have hrange : ∀ low high : UInt32, (decide (c.val ≥ low) && decide (c.val ≤ high)) = true ↔
      low.toNat ≤ c.toNat ∧ c.toNat ≤ high.toNat := fun low high => by
    rw [Bool.and_eq_true, decide_eq_true_eq, decide_eq_true_eq]
    exact Iff.rfl
  have hupper : c.isUpper = true ↔ 65 ≤ c.toNat ∧ c.toNat ≤ 90 := decide_eq_true_iff
  have hlower : c.isLower = true ↔ 97 ≤ c.toNat ∧ c.toNat ≤ 122 := hrange 97 122
  have hdigit : c.isDigit = true ↔ 48 ≤ c.toNat ∧ c.toNat ≤ 57 := hrange 48 57
  -- The classes of characters as the standard library groups them.
  have hclasses : isNameChar c =
      (((c.isUpper || c.isLower) || c.isDigit) || c == '-' || c == '.') := rfl
  rw [hclasses]
  simp only [Bool.or_eq_true, beq_iff_eq, hupper, hlower, hdigit, or_assoc]

/-- Digits are among them. -/
private theorem isNameChar_of_digit? (h : digit? base c = some d) : isNameChar c = true := by
  rw [isNameChar_iff]
  -- What is a digit of some base comes no later than the sixth letter.
  obtain ⟨⟨hlow, hhigh⟩, -⟩ | ⟨⟨hlow, hhigh⟩, -⟩ | ⟨⟨hlow, hhigh⟩, -⟩ := digit?_cases h
  · exact .inr (.inr (.inl ⟨hlow, hhigh⟩))
  · exact .inr (.inl ⟨hlow, Nat.le_trans hhigh (by decide)⟩)
  · exact .inl ⟨hlow, Nat.le_trans hhigh (by decide)⟩

/-- So a number is made of such characters. -/
theorem SpellsDigits.isNameChar (h : SpellsDigits base cs ds) : ∀ c ∈ cs, isNameChar c = true := by
  induction h with
  | nil => exact nofun
  | cons hc _ ih => exact List.forall_mem_cons.mpr ⟨isNameChar_of_digit? hc, ih⟩

/-- Digits are taken up to the end of the number. -/
theorem spanDigits_append (h : SpellsDigits base cs ds) (hrest : Ends base rest) :
    spanDigits base (cs ++ rest) = (ds, rest) := by
  induction h with
  | nil =>
    cases rest with
    | nil => rfl
    | cons c rest => simp only [List.nil_append, spanDigits, hrest c rfl]
  | cons hc _ ih => simp only [List.cons_append, spanDigits, hc, ih]

/-- A number does not begin with its end. -/
theorem SpellsDigits.not_ends (h : SpellsDigits base cs ds) (hne : ds ≠ []) :
    ¬ Ends base (cs ++ rest) := by
  cases h with
  | nil => exact absurd rfl hne
  | cons hc _ => exact fun hends => nomatch (hends _ rfl).symm.trans hc

/-- What is read as digits is digits, and no digit stands behind. -/
theorem exists_spanDigits (base : Nat) (cs : List Char) :
    ∃ front, cs = front ++ (spanDigits base cs).2 ∧
      SpellsDigits base front (spanDigits base cs).1 ∧ Ends base (spanDigits base cs).2 := by
  induction cs with
  | nil => exact ⟨[], rfl, .nil, nofun⟩
  -- The span ends at the first character that is no digit.
  | cons c cs ih =>
    rw [spanDigits]
    cases hc : digit? base c with
    | none =>
      refine ⟨[], rfl, .nil, fun c' hc' => ?_⟩
      cases hc'
      exact hc
    | some d =>
      obtain ⟨front, hcs, hdigits, hends⟩ := ih
      exact ⟨c :: front, congrArg (c :: ·) hcs, .cons hc hdigits, hends⟩

/-- What is taken are the digits in front, and no digit follows. -/
theorem spanDigits_eq_iff :
    spanDigits base cs = (ds, rest) ↔
      ∃ front, cs = front ++ rest ∧ SpellsDigits base front ds ∧ Ends base rest := by
  constructor
  · intro h
    have := exists_spanDigits base cs
    rwa [h] at this
  · rintro ⟨front, rfl, hdigits, hends⟩
    exact spanDigits_append hdigits hends

/-! ## Numbers -/

/-- One digit more at the end. -/
private theorem ofDigits_concat (base : Nat) (ds : List Nat) (d : Nat) :
    ofDigits base (ds ++ [d]) = base * ofDigits base ds + d := by
  simp [ofDigits]

/-- A number is below the power of the base by its digits. -/
theorem ofDigits_lt (h : ∀ d ∈ ds, d < base) : ofDigits base ds < base ^ ds.length := by
  induction ds using List.reverseRecOn with
  | nil => exact Nat.one_pos
  | append_singleton ds d ih =>
    have hds : ofDigits base ds + 1 ≤ base ^ ds.length :=
      ih fun d hd => h d (List.mem_append_left _ hd)
    have hd : d < base := h d (List.mem_append_right _ List.mem_cons_self)
    -- One digit more: at most `base * (base ^ n - 1) + (base - 1)`.
    have hmul := Nat.mul_le_mul_left base hds
    rw [ofDigits_concat, List.length_append, List.length_singleton, Nat.pow_succ,
      Nat.mul_comm (base ^ _)]
    rw [Nat.mul_add] at hmul
    omega

/-- A number without a zero in front is positive. -/
private theorem ofDigits_pos (hbase : 0 < base) (hne : ds ≠ []) (hhead : ds.head? ≠ some 0) :
    0 < ofDigits base ds := by
  induction ds using List.reverseRecOn with
  | nil => exact absurd rfl hne
  | append_singleton ds d ih =>
    rw [ofDigits_concat]
    -- A single digit is not zero itself; of several, the leading ones already make a positive
    -- number.
    cases ds with
    | nil =>
      have hd : d ≠ 0 := fun hd => hhead (congrArg some hd)
      omega
    | cons first ds =>
      have := Nat.mul_pos hbase (ih nofun hhead)
      omega

/-- The digits that a text spells are below the base. -/
theorem SpellsDigits.lt (h : SpellsDigits base cs ds) : ∀ d ∈ ds, d < base := by
  induction h with
  | nil => exact nofun
  | cons hc _ ih => exact List.forall_mem_cons.mpr ⟨lt_of_digit? hc, ih⟩

/-- Written digits are spelled. -/
theorem spellsDigits_map_digitChar (hbase : base ≤ 16) (h : ∀ d ∈ ds, d < base) :
    SpellsDigits base (ds.map Nat.digitChar) ds := by
  induction ds with
  | nil => exact .nil
  | cons d ds ih =>
    obtain ⟨hd, hds⟩ := List.forall_mem_cons.mp h
    exact .cons (digit?_digitChar hd hbase) (ih hds)

/-- Decimal digits are the one text of their values. -/
private theorem SpellsDigits.eq_map_digitChar (h : SpellsDigits 10 cs ds) :
    cs = ds.map Nat.digitChar := by
  induction h with
  | nil => rfl
  | cons hc _ ih => rw [ih, eq_digitChar_of_digit? hc, List.map_cons]

/-- No zero stands in front of other digits. -/
def Unpadded (ds : List Nat) : Prop :=
  ds.head? ≠ some 0 ∨ ds.length ≤ 1

/-- Digits without a zero in front are those in which their number is written. -/
private theorem toDigits_ofDigits (hbase : 1 < base) (hlt : ∀ d ∈ ds, d < base) (hne : ds ≠ [])
    (hpad : Unpadded ds) : Nat.toDigits base (ofDigits base ds) = ds.map Nat.digitChar := by
  induction ds using List.reverseRecOn with
  | nil => exact absurd rfl hne
  | append_singleton ds d ih =>
    have hd : d < base := hlt d (List.mem_append_right _ List.mem_cons_self)
    rw [ofDigits_concat]
    cases ds with
    | nil => simpa [ofDigits] using Nat.toDigits_of_lt_base hd
    | cons first ds =>
      have hhead : first ≠ 0 := by
        simpa [Unpadded] using hpad
      have hpos := ofDigits_pos (Nat.zero_lt_of_lt hbase) (List.cons_ne_nil first ds)
        fun h => hhead (Option.some.inj h)
      -- The leading digit is not zero, so there is more than one digit to write.
      have hle : base ≤ base * ofDigits base (first :: ds) + d :=
        Nat.le_add_right_of_le (Nat.le_mul_of_pos_right base hpos)
      rw [Nat.toDigits_of_base_le hbase hle, Nat.mul_add_div (by omega), Nat.div_eq_of_lt hd,
        Nat.mul_add_mod, Nat.mod_eq_of_lt hd, Nat.add_zero,
        ih (fun d hd => hlt d (List.mem_append_left _ hd)) nofun
          (.inl fun h => hhead (Option.some.inj h)), List.map_append]
      rfl

/-- A number is written in digits that spell it. -/
theorem exists_toDigits_eq (hbase : 1 < base) (n : Nat) :
    ∃ ds, Nat.toDigits base n = ds.map Nat.digitChar ∧ (∀ d ∈ ds, d < base) ∧ ds ≠ [] ∧
      (0 < n → ds.head? ≠ some 0) ∧ Unpadded ds ∧ ofDigits base ds = n := by
  induction n using Nat.strongRecOn with
  | _ n ih =>
    by_cases hn : n < base
    · exact ⟨[n], Nat.toDigits_of_lt_base hn, by simpa using hn, nofun,
        fun hpos h => by cases h; omega, .inr (Nat.le_refl 1), by simp [ofDigits]⟩
    · have hquot : n / base < n := Nat.div_lt_self (by omega) hbase
      obtain ⟨ds, htext, hlt, hne, hhead, -, hvalue⟩ := ih (n / base) hquot
      have hhead := hhead (Nat.div_pos (by omega) (by omega))
      -- The leading digit is that of the quotient.
      have hhead' : (ds ++ [n % base]).head? ≠ some 0 := by
        rwa [List.head?_append_of_ne_nil ds hne]
      refine ⟨ds ++ [n % base], ?_, ?_, by simp, fun _ => hhead', .inl hhead', ?_⟩
      · rw [Nat.toDigits_of_base_le hbase (by omega), htext, List.map_append]
        rfl
      · intro d hd
        obtain hd | hd := List.mem_append.mp hd
        · exact hlt d hd
        · cases List.mem_singleton.mp hd
          exact Nat.mod_lt n (by omega)
      · rw [ofDigits_concat, hvalue, Nat.div_add_mod]

/-- The digits of a number are digits. -/
theorem exists_spellsDigits (hbase : 1 < base) (hle : base ≤ 16) (n : Nat) :
    ∃ ds, SpellsDigits base (Nat.toDigits base n) ds ∧ ds ≠ [] ∧ ofDigits base ds = n := by
  obtain ⟨ds, htext, hlt, hne, -, -, hvalue⟩ := exists_toDigits_eq hbase n
  exact ⟨ds, htext ▸ spellsDigits_map_digitChar hle hlt, hne, hvalue⟩

/-- A number is taken if digits in front spell it, behind which no other one stands. -/
theorem takeNumber_eq_some_iff {width : Option Nat} {padded : Bool} {limit : Nat} :
    takeNumber base width padded limit cs = some (n, rest) ↔
      ∃ ds, spanDigits base cs = (ds, rest) ∧ ds ≠ [] ∧ (∀ w ∈ width, ds.length ≤ w) ∧
        (padded = true ∨ Unpadded ds) ∧ ofDigits base ds = n ∧ n < limit := by
  rcases hspan : spanDigits base cs with ⟨ds, rest'⟩
  simp only [takeNumber, hspan, Option.ite_none_left_eq_some, Option.ite_none_right_eq_some,
    List.isEmpty_iff, Option.any_eq_true, Unpadded]
  constructor
  -- The reader states its bounds as what it refuses.
  · rintro ⟨hfit, hpad, hlt, heq⟩
    cases heq
    obtain ⟨hne, hwidth⟩ := not_or.mp hfit
    refine ⟨ds, rfl, hne, fun w hw => ?_, ?_, rfl, hlt⟩
    · by_contra hlong
      exact hwidth ⟨w, hw, decide_eq_true (by omega)⟩
    · by_contra hzero
      obtain ⟨hpadded, hzero⟩ := not_or.mp hzero
      obtain ⟨hhead, hlong⟩ := not_or.mp hzero
      exact hpad ⟨by simpa using hpadded, not_not.mp hhead, by omega⟩
  · rintro ⟨ds, heq, hne, hwidth, hpad, rfl, hlt⟩
    cases heq
    refine ⟨not_or.mpr ⟨hne, ?_⟩, ?_, hlt, rfl⟩
    · rintro ⟨w, hw, hlong⟩
      have := hwidth w hw
      have := of_decide_eq_true hlong
      omega
    · rintro ⟨hpadded, hhead, hlong⟩
      obtain hpad | hpad | hpad := hpad
      · exact absurd hpad (by simp [hpadded])
      · exact hpad hhead
      · omega

end Ip

namespace Ip4

open Ip

/-- A number of an address has one text. -/
theorem takeByte_eq_some_iff {n : Nat} {cs rest : List Char} :
    takeByte cs = some (n, rest) ↔ n < 256 ∧ cs = Nat.toDigits 10 n ++ rest ∧ Ends 10 rest := by
  rw [takeByte, takeNumber_eq_some_iff]
  constructor
  · rintro ⟨ds, hspan, hne, -, hpad, rfl, hlt⟩
    obtain ⟨front, rfl, hdigits, hends⟩ := spanDigits_eq_iff.mp hspan
    have hpad : Unpadded ds := hpad.resolve_left nofun
    rw [toDigits_ofDigits (by decide) hdigits.lt hne hpad, ← hdigits.eq_map_digitChar]
    exact ⟨hlt, rfl, hends⟩
  · rintro ⟨hlt, rfl, hends⟩
    obtain ⟨ds, htext, hdigits, hne, -, hpad, hvalue⟩ := exists_toDigits_eq (by decide : 1 < 10) n
    have hspells := spellsDigits_map_digitChar (by decide) hdigits
    -- A byte has three digits at most, which is as many as the reader takes.
    have hlength : (Nat.toDigits 10 n).length ≤ 3 :=
      (Nat.length_toDigits_le_iff (by decide) (by decide)).mpr (by omega)
    refine ⟨ds, ?_, hne, ?_, .inr hpad, hvalue, hlt⟩
    · rw [htext]
      exact spanDigits_append hspells hends
    · rintro w ⟨rfl⟩
      simpa [htext] using hlength

end Ip4

end ChainGauge
