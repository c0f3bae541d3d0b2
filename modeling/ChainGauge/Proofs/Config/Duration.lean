import ChainGauge.Config.Duration
import ChainGauge.Proofs.Number.Int256
import ChainGauge.Proofs.Text.Trim
import Mathlib.Algebra.Ring.Nat

/-!
# Texts of durations

A text spells a duration if it is a number of seconds or numbers with units in a row (`Spells`). The
reader is one left-to-right pass with a running total that may become too large at any unit; it
accepts exactly these texts (`Duration.durations_spelled`). Numbers only add to a total, so a total
that is too large somewhere is too large at the end (`readFrom_eq_ok_iff`).

## Key results

- `readFrom_segment`: one number with its unit in front of a text
- `readFrom_eq_ok_iff`: numbers with units behind a total
- `durations_spelled`: the texts that are read, and what they are read as
-/

namespace ChainGauge

namespace Duration

/-! ## Texts that spell durations -/

/-- The names of a unit. -/
def TimeUnit.names : TimeUnit → List String
  | .nanosecond => ["ns"]
  | .microsecond => ["us", "\u00b5s"]
  | .millisecond => ["ms"]
  | .second => ["s"]
  | .minute => ["m"]
  | .hour => ["h"]

/-- How many nanoseconds a unit has. -/
def TimeUnit.nanos : TimeUnit → Nat
  | .nanosecond => 1
  | .microsecond => 1000
  | .millisecond => 1000000
  | .second => 1000000000
  | .minute => 60 * 1000000000
  | .hour => 3600 * 1000000000

/-- Characters are the decimal digits of a number of sixty-four bits. -/
structure SpellsWord (cs : List Char) (n : Nat) : Prop where
  ne_nil : cs ≠ []
  digits : ∀ c ∈ cs, c.isDigit = true
  value : Nat.ofDigitChars 10 cs 0 = n
  lt : n < 2 ^ 64

/-- Characters are numbers with units in a row, which come to a number of nanoseconds. -/
inductive SpellsSum : List Char → Nat → Prop where
  | nil : SpellsSum [] 0
  | cons {digits cs : List Char} {name : String} {unit : TimeUnit} {n total : Nat} :
    SpellsWord digits n → name ∈ unit.names → SpellsSum cs total →
      SpellsSum (digits ++ name.toList ++ cs) (n * unit.nanos + total)

/-- Characters spell a duration: they are a number of seconds, or at least one number with a unit,
and the sum is not too long. -/
inductive Spells : List Char → Duration → Prop where
  | seconds {cs : List Char} {n : Nat} : SpellsWord cs n → Spells cs ⟨n * 1000000000⟩
  | sum {cs : List Char} {total : Nat} : cs ≠ [] → SpellsSum cs total →
      total ≤ (2 ^ 64 - 1) * 1000000000 + 999999999 → Spells cs ⟨total⟩

variable {cs digits : List Char} {name whole : String} {unit : TimeUnit} {n : Nat}
  {total d : Duration}

/-! ## Units -/

/-- A unit is read from its names, and from no other text. -/
private theorem TimeUnit.ofName?_eq_some_iff :
    TimeUnit.ofName? name = some unit ↔ name ∈ unit.names := by
  constructor
  · intro h
    unfold ofName? at h
    split at h <;> cases h <;> decide
  · intro h
    have hall : ∀ name ∈ unit.names, ofName? name = some unit := by
      cases unit <;> decide
    exact hall name h

/-- No unit has an empty name. -/
private theorem TimeUnit.toList_ne_nil (h : name ∈ unit.names) : name.toList ≠ [] := by
  have hall : ∀ name ∈ unit.names, name.toList ≠ [] := by
    cases unit <;> decide
  exact hall name h

/-- Characters in names of units are neither digits nor blanks. -/
private theorem TimeUnit.letter_of_mem_names (h : name ∈ unit.names) :
    ∀ c ∈ name.toList, c.isDigit = false ∧ Text.isBlank c = false := by
  have hall : (unit.names.all fun name =>
      name.toList.all fun c => !c.isDigit && !Text.isBlank c) = true := by
    cases unit <;> decide
  intro c hc
  have hc := List.all_eq_true.mp (List.all_eq_true.mp hall name h) c hc
  simpa using hc

/-- Groups of seconds are counted exactly: their number of seconds is too large for a word only where
their number of nanoseconds is too large for a duration. -/
private theorem ofGroups?_eq (n size : Nat) :
    ofGroups? n size =
      if n * (size * 1000000000) ≤ maxNanos then some ⟨n * (size * 1000000000)⟩ else none := by
  unfold ofGroups? maxNanos ofSeconds
  rw [← Nat.mul_assoc]
  by_cases hword : n * size < 0x10000000000000000
  · rw [if_pos hword, if_pos (by omega)]
  · rw [if_neg hword, if_neg (by omega)]

/-- Units are counted exactly. -/
private theorem ofUnits?_eq (h : n < 2 ^ 64) :
    ofUnits? n unit =
      if n * unit.nanos ≤ maxNanos then some ⟨n * unit.nanos⟩ else none := by
  cases unit with
  | minute => exact ofGroups?_eq n 60
  | hour => exact ofGroups?_eq n 3600
  -- A word of the other units is never too large.
  | nanosecond =>
    show some (Duration.mk n) = if n * 1 ≤ maxNanos then some ⟨n * 1⟩ else none
    rw [Nat.mul_one, if_pos (by unfold maxNanos; omega)]
  | microsecond =>
    have hle : n * 1000 ≤ maxNanos := by unfold maxNanos; omega
    exact (if_pos hle).symm
  | millisecond =>
    have hle : n * 1000000 ≤ maxNanos := by unfold maxNanos; omega
    exact (if_pos hle).symm
  | second =>
    have hle : n * 1000000000 ≤ maxNanos := by unfold maxNanos; omega
    exact (if_pos hle).symm

/-- A number of units on top of a total. -/
private theorem add?_ofUnits?_eq (total : Duration) (h : n < 2 ^ 64) :
    (ofUnits? n unit).bind total.add? =
      if total.nanos + n * unit.nanos ≤ maxNanos then some ⟨total.nanos + n * unit.nanos⟩
      else none := by
  rw [ofUnits?_eq h]
  by_cases hle : n * unit.nanos ≤ maxNanos
  · rw [if_pos hle]
    rfl
  -- What is too large alone is too large on top of anything.
  · rw [if_neg hle, if_neg (by omega)]
    rfl

/-! ## Numbers -/

/-- Digits are read as their number, which has to be below the limit. -/
theorem natBelow?_eq_some_iff {limit : Nat} (hne : cs ≠ []) (hdigits : ∀ c ∈ cs, c.isDigit = true) :
    Text.natBelow? limit cs = some n ↔ Nat.ofDigitChars 10 cs 0 = n ∧ n < limit := by
  have hread : Text.natBelow? limit cs =
      if Nat.ofDigitChars 10 cs 0 < limit then some (Nat.ofDigitChars 10 cs 0) else none := by
    unfold Text.natBelow?
    split
    -- A sign is no digit.
    · exact absurd (hdigits '+' List.mem_cons_self) (by decide)
    · rw [if_neg (by simpa using ⟨hne, hdigits⟩)]
      split
      · exact absurd (hdigits '+' List.mem_cons_self) (by decide)
      · rfl
  rw [hread]
  split
  · rw [Option.some_inj]
    omega
  · simp only [reduceCtorEq, false_iff]
    omega

/-- Digits are read as a word of sixty-four bits exactly if they spell one. -/
private theorem spellsWord_iff (hne : cs ≠ []) (hdigits : ∀ c ∈ cs, c.isDigit = true) :
    Text.natBelow? 0x10000000000000000 cs = some n ↔ SpellsWord cs n := by
  rw [natBelow?_eq_some_iff hne hdigits]
  exact ⟨fun ⟨hvalue, hlt⟩ => ⟨hne, hdigits, hvalue, hlt⟩, fun h => ⟨h.value, h.lt⟩⟩

/-- The digits of a word spell it. -/
private theorem spellsWord_toDigits (h : n < 2 ^ 64) : SpellsWord (Nat.toDigits 10 n) n where
  ne_nil := Nat.toDigits_ne_nil
  digits _ := Nat.isDigit_of_mem_toDigits (by decide) (by decide)
  value := Nat.ofDigitChars_ten_toDigits
  lt := h

/-! ## Numbers with units -/

/-- A run of characters ends where the next one is of another kind. -/
private theorem takeWhile_append {p : Char → Bool} {front rest : List Char}
    (hfront : ∀ c ∈ front, p c = true) (hrest : ∀ c ∈ rest.head?, p c = false) :
    (front ++ rest).takeWhile p = front ∧ (front ++ rest).dropWhile p = rest := by
  rw [List.takeWhile_append_of_pos hfront, List.dropWhile_append_of_pos hfront]
  cases rest with
  | nil => exact ⟨List.append_nil front, rfl⟩
  | cons c rest =>
    have hc : ¬ p c = true := by simpa using hrest c rfl
    rw [List.takeWhile_cons_of_neg hc, List.dropWhile_cons_of_neg hc, List.append_nil]
    exact ⟨rfl, rfl⟩

/-- What is spelled begins with a digit. -/
private theorem SpellsSum.isDigit_head {sum : Nat} (h : SpellsSum cs sum) :
    ∀ c ∈ cs.head?, c.isDigit = true := by
  cases h with
  | nil => nofun
  | cons hword hname hrest =>
    intro c hc
    rw [List.append_assoc, List.head?_append_of_ne_nil _ hword.ne_nil] at hc
    exact hword.digits c (List.mem_of_mem_head? hc)

/-- One number with its unit in front of other ones. -/
theorem readFrom_segment (hword : SpellsWord digits n) (hname : name ∈ unit.names)
    (hcs : ∀ c ∈ cs.head?, c.isDigit = true) :
    readFrom whole total (digits ++ name.toList ++ cs) =
      if total.nanos + n * unit.nanos ≤ maxNanos then
        readFrom whole ⟨total.nanos + n * unit.nanos⟩ cs
      else .error (.tooLarge whole) := by
  have hne := TimeUnit.toList_ne_nil hname
  have hletters := TimeUnit.letter_of_mem_names hname
  -- The digits end at the name, and the name ends at the next digit.
  have hletter : ∀ c ∈ (name.toList ++ cs).head?, c.isDigit = false := by
    intro c hc
    rw [List.head?_append_of_ne_nil _ hne] at hc
    exact (hletters c (List.mem_of_mem_head? hc)).1
  have hname' : ∀ c ∈ name.toList, (!c.isDigit) = true := by
    intro c hc
    rw [(hletters c hc).1]
    rfl
  have hdigit : ∀ c ∈ cs.head?, (!c.isDigit) = false := by
    intro c hc
    rw [hcs c hc]
    rfl
  obtain ⟨hdigits, hbehind⟩ := takeWhile_append hword.digits hletter
  obtain ⟨hunit, hrest⟩ := takeWhile_append hname' hdigit
  have hread := (spellsWord_iff hword.ne_nil hword.digits).mpr hword
  have hfound := TimeUnit.ofName?_eq_some_iff.mpr hname
  rw [readFrom, if_neg (by simp [hword.ne_nil])]
  simp only [List.append_assoc, hdigits, hbehind, hunit, hrest, hread, String.ofList_toList, hfound,
    add?_ofUnits?_eq total hword.lt]
  rw [if_neg hword.ne_nil, if_neg hne]
  by_cases hle : total.nanos + n * unit.nanos ≤ maxNanos
  · rw [if_pos hle, if_pos hle]
  · rw [if_neg hle, if_neg hle]

/-- What is read in one pass are numbers with units, and their sum is added to the total. -/
private theorem spellsSum_of_readFrom (h : readFrom whole total cs = .ok d)
    (htotal : total.nanos ≤ maxNanos) :
    ∃ sum, SpellsSum cs sum ∧ total.nanos + sum ≤ maxNanos ∧ d = ⟨total.nanos + sum⟩ := by
  -- A pass ends well behind the last number or goes on; all other cases are faults.
  fun_induction readFrom whole total cs with
  | case1 total =>
    cases h
    exact ⟨0, .nil, htotal, rfl⟩
  | case7 total cs hcs digits behind name hdigits n hn hname unit hunit sum hsum ih =>
    have hword : SpellsWord digits n :=
      (spellsWord_iff hdigits (List.all_eq_true.mp List.all_takeWhile)).mp hn
    rw [add?_ofUnits?_eq total hword.lt] at hsum
    obtain ⟨hle, hsum⟩ := Option.ite_none_right_eq_some.mp hsum
    cases hsum
    obtain ⟨rest, hrest, hlimit, rfl⟩ := ih h hle
    have hsplit : digits ++ (String.ofList name).toList ++ behind.dropWhile (!·.isDigit) = cs := by
      rw [String.toList_ofList, List.append_assoc, List.takeWhile_append_dropWhile,
        List.takeWhile_append_dropWhile]
    rw [Nat.add_assoc] at hlimit ⊢
    refine ⟨_, ?_, hlimit, rfl⟩
    rw [← hsplit]
    exact .cons hword (TimeUnit.ofName?_eq_some_iff.mp hunit) hrest
  | _ => cases h

/-- Numbers with units are read in one pass, if their sum is not too large on top of the total. -/
private theorem SpellsSum.readFrom_eq {sum : Nat} (h : SpellsSum cs sum)
    (hlimit : total.nanos + sum ≤ maxNanos) :
    readFrom whole total cs = .ok ⟨total.nanos + sum⟩ := by
  induction h generalizing total with
  | nil => rw [readFrom, if_pos rfl, Nat.add_zero]
  | cons hword hname hrest ih =>
    rw [readFrom_segment hword hname hrest.isDigit_head, if_pos (by omega), ih, Nat.add_assoc]
    show total.nanos + _ + _ ≤ maxNanos
    omega

/-- What is read on top of a total is exactly the sum that the text spells, if both fit together. -/
theorem readFrom_eq_ok_iff (htotal : total.nanos ≤ maxNanos) :
    readFrom whole total cs = .ok d ↔
      ∃ sum, SpellsSum cs sum ∧ total.nanos + sum ≤ maxNanos ∧ d = ⟨total.nanos + sum⟩ := by
  constructor
  · exact fun h => spellsSum_of_readFrom h htotal
  · rintro ⟨sum, hsum, hlimit, rfl⟩
    exact hsum.readFrom_eq hlimit

/-! ## Whole texts -/

/-- A number with a unit is not all digits. -/
private theorem SpellsSum.exists_letter {sum : Nat} (h : SpellsSum cs sum) (hne : cs ≠ []) :
    ∃ c ∈ cs, c.isDigit = false := by
  cases h with
  | nil => exact absurd rfl hne
  | cons hword hname hrest =>
    obtain ⟨c, hc⟩ := List.exists_mem_of_ne_nil _ (TimeUnit.toList_ne_nil hname)
    exact ⟨c, by simp [hc], (TimeUnit.letter_of_mem_names hname c hc).1⟩

/-- A text of digits alone spells that number of seconds. -/
private theorem spells_iff_of_digits (hdigits : ∀ c ∈ cs, c.isDigit = true) :
    Spells cs d ↔ ∃ n, SpellsWord cs n ∧ d = .ofSeconds n := by
  constructor
  · rintro (hword | ⟨hne, hsum, -⟩)
    · exact ⟨_, hword, rfl⟩
    · obtain ⟨c, hc, hletter⟩ := hsum.exists_letter hne
      rw [hdigits c hc] at hletter
      cases hletter
  · rintro ⟨n, hword, rfl⟩
    exact .seconds hword

/-- Any other text spells a sum of groups. -/
private theorem spells_iff_of_letter {c : Char} (hc : c ∈ cs) (hletter : c.isDigit = false) :
    Spells cs d ↔ ∃ sum, SpellsSum cs sum ∧ sum ≤ maxNanos ∧ d = ⟨sum⟩ := by
  constructor
  · rintro (hword | ⟨hne, hsum, hle⟩)
    · rw [hword.digits c hc] at hletter
      cases hletter
    · exact ⟨_, hsum, hle, rfl⟩
  · rintro ⟨sum, hsum, hle, rfl⟩
    exact .sum (List.ne_nil_of_mem hc) hsum hle

/-- A text is read as a duration exactly if it spells it, blanks around it apart. -/
theorem parse_eq_ok_iff {s : String} : parse s = .ok d ↔ Spells (Text.trim s).toList d := by
  unfold parse
  generalize Text.trim s = text
  dsimp only
  -- The reader tells apart no text, digits alone, and a text with a letter; so do the spellings.
  split
  · rename_i hempty
    rw [List.isEmpty_iff.mp hempty]
    simp only [reduceCtorEq, false_iff]
    rintro (hword | ⟨hne, -, -⟩)
    · exact hword.ne_nil rfl
    · exact hne rfl
  rename_i hne
  rw [List.isEmpty_iff] at hne
  split
  · rename_i hall
    have hdigits := List.all_eq_true.mp hall
    rw [spells_iff_of_digits hdigits]
    simp only [← spellsWord_iff hne hdigits]
    split
    · rename_i n hn
      rw [hn]
      simp [eq_comm]
    · rename_i hn
      rw [hn]
      simp
  · rename_i hletter
    obtain ⟨c, hc, hletter⟩ := List.all_eq_false.mp (eq_false_of_ne_true hletter)
    rw [spells_iff_of_letter hc (by simpa using hletter), readFrom_eq_ok_iff (Nat.zero_le _)]
    simp only [Nat.zero_add]

/-! ## Texts without blanks -/

/-- No digit is blank. -/
private theorem not_blank_of_isDigit {c : Char} (h : c.isDigit = true) :
    Text.isBlank c = false := by
  obtain ⟨hlo, hhi⟩ := Int256.bounds_of_isDigit h
  simp only [Text.isBlank, Bool.or_eq_false_iff, Bool.and_eq_false_iff, decide_eq_false_iff_not,
    beq_eq_false_iff_ne]
  omega

/-- There are no blanks inside of a sum. -/
theorem SpellsSum.not_blank {sum : Nat} (h : SpellsSum cs sum) :
    ∀ c ∈ cs, Text.isBlank c = false := by
  induction h with
  | nil => nofun
  | cons hword hname _ ih =>
    intro c hc
    rcases List.mem_append.mp hc with hc | hc
    · rcases List.mem_append.mp hc with hc | hc
      · exact not_blank_of_isDigit (hword.digits c hc)
      · exact (TimeUnit.letter_of_mem_names hname c hc).2
    · exact ih c hc

/-- What spells a duration holds no blanks. -/
theorem Spells.not_blank (h : Spells cs d) : ∀ c ∈ cs, Text.isBlank c = false := by
  cases h with
  | seconds hword => exact fun c hc => not_blank_of_isDigit (hword.digits c hc)
  | sum _ hsum _ => exact hsum.not_blank

/-! ## Seconds and nanoseconds -/

/-- The characters of a duration in seconds and nanoseconds. -/
private theorem toList_parts (seconds nanos : Nat) :
    (s!"{seconds}s{nanos}ns").toList =
      Nat.toDigits 10 seconds ++ "s".toList ++ (Nat.toDigits 10 nanos ++ "ns".toList ++ []) := by
  simp only [String.toList_append, Nat.toString_eq_repr, Nat.toList_repr, List.append_assoc,
    List.append_nil]
  rfl

/-- The text of whole seconds and of nanoseconds beyond them spells their sum. -/
private theorem spells_parts {seconds nanos : Nat} (hseconds : seconds < 2 ^ 64)
    (hnanos : nanos < 1000000000) :
    Spells (s!"{seconds}s{nanos}ns").toList ⟨seconds * 1000000000 + nanos⟩ := by
  have htext := toList_parts seconds nanos
  have hbeyond : SpellsSum (Nat.toDigits 10 nanos ++ "ns".toList ++ [])
      (nanos * TimeUnit.nanosecond.nanos + 0) :=
    .cons (spellsWord_toDigits (by omega)) (by decide) .nil
  -- The text is two groups, one behind the other.
  have hsum := SpellsSum.cons (spellsWord_toDigits hseconds)
    (show "s" ∈ TimeUnit.second.names by decide) hbeyond
  rw [← htext] at hsum
  have hne : (s!"{seconds}s{nanos}ns").toList ≠ [] := by
    rw [htext]
    simp
  -- The units have to be in sight for the total to be linear.
  have htotal : seconds * 1000000000 + nanos =
      seconds * TimeUnit.second.nanos + (nanos * TimeUnit.nanosecond.nanos + 0) := by
    show _ = seconds * 1000000000 + (nanos * 1 + 0)
    omega
  rw [htotal]
  refine .sum hne hsum ?_
  rw [← htotal]
  omega

/-- A text is read as a duration exactly if it spells it, and any other text is a fault. In particular
the text of a duration's whole seconds and nanoseconds is read as the duration. -/
theorem durations_spelled :
    (∀ (s : String) (d : Duration), parse s = .ok d ↔ Spells (Text.trim s).toList d) ∧
    (∀ s : String, (∃ e, parse s = .error e) ↔ ∀ d, ¬ Spells (Text.trim s).toList d) ∧
    ∀ seconds nanos : Nat, seconds < 2 ^ 64 → nanos < 1000000000 →
      parse s!"{seconds}s{nanos}ns" = .ok ⟨seconds * 1000000000 + nanos⟩ := by
  refine ⟨fun s d => parse_eq_ok_iff, fun s => ?_, fun seconds nanos hseconds hnanos => ?_⟩
  -- No duration is spelled exactly where none is read.
  · simp only [← parse_eq_ok_iff]
    cases parse s with
    | error e => simp
    | ok d => simp
  -- The text has no blanks around it, so trimming leaves it as it is.
  · have hspells := spells_parts hseconds hnanos
    rw [parse_eq_ok_iff, Text.trim_eq_self hspells.not_blank]
    exact hspells

end Duration

end ChainGauge
