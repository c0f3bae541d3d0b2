import ChainGauge.Text.Split

/-!
# Sets of characters

Tables about the characters of many scripts are rows of words. A word names a character by its number
in hexadecimal digits, as in `e9`, or the characters from one to another, as in `3b1-3c9`.
-/

namespace ChainGauge

/-- A set of characters. -/
structure CharSet where
  /-- The numbers of its characters as ranges, each with its first and its last number. -/
  ranges : List (Nat × Nat)

namespace CharSet

/-- The words of rows. -/
def words (rows : List String) : List (List Char) :=
  rows.flatMap fun row => Text.splitAt ' ' row.toList

/-- The value of a hexadecimal digit. -/
def digitValue (c : Char) : Nat :=
  if c.isDigit then c.toNat - 48 else c.toNat - 87

/-- The number that hexadecimal digits spell. -/
def number (digits : List Char) : Nat :=
  digits.foldl (fun n c => 16 * n + digitValue c) 0

/-- The range that a word names. -/
def range (word : List Char) : Nat × Nat :=
  match Text.splitAt '-' word with
  | [first, last] => (number first, number last)
  | _ => (number word, number word)

/-- The set that rows of words name. -/
def ofRows (rows : List String) : CharSet :=
  ⟨(words rows).map range⟩

/-- The range in which a character lies. -/
def rangeOf? (s : CharSet) (c : Char) : Option (Nat × Nat) :=
  s.ranges.find? fun r => r.1 ≤ c.toNat && c.toNat ≤ r.2

/-- Whether a character is in the set. -/
def contains (s : CharSet) (c : Char) : Bool :=
  (s.rangeOf? c).isSome

end CharSet

end ChainGauge
