/-!
# Punycode

Labels with characters beyond ASCII are written in ASCII: first the ASCII characters, then, behind a
hyphen, the other characters in ascending order as differences from one to the next. A difference
is a number of variable length to base 36 whose digit thresholds adapt to what came before.
-/

namespace ChainGauge.Punycode

/-- The letter or digit of a value below thirty-six. -/
def digit (n : Nat) : Char :=
  Char.ofNat (if n < 26 then 97 + n else 22 + n)

/-- The value of a letter or digit. -/
def digitValue? (c : Char) : Option Nat :=
  let n := c.toNat
  if 97 ≤ n ∧ n ≤ 122 then some (n - 97)
  else if 65 ≤ n ∧ n ≤ 90 then some (n - 65)
  else if 48 ≤ n ∧ n ≤ 57 then some (n - 22)
  else none

/-- The threshold of the digit at weight step `k`, a multiple of thirty-six. -/
def threshold (k bias : Nat) : Nat :=
  if k ≤ bias then 1 else if bias + 26 ≤ k then 26 else k - bias

/-- Divides by thirty-five until at most `455` is left, counting the steps. -/
def reduce (delta k : Nat) : Nat × Nat :=
  if 455 < delta then reduce (delta / 35) (k + 36) else (delta, k)
termination_by delta
decreasing_by exact Nat.div_lt_self (by omega) (by omega)

/-- The bias after a difference, with `count` characters known. -/
def adapt (delta count : Nat) (first : Bool) : Nat :=
  let d := if first then delta / 700 else delta / 2
  let (rest, k) := reduce (d + d / count) 0
  k + 36 * rest / (rest + 38)

/-- The digits of a difference. -/
def encodeDifference (bias : Nat) (k q : Nat) : Nat → List Char
  | 0 => []
  | fuel + 1 =>
    let t := threshold k bias
    if q < t then [digit q]
    else digit (t + (q - t) % (36 - t)) :: encodeDifference bias (k + 36) ((q - t) / (36 - t)) fuel

/-- What the encoder knows between two characters. -/
structure Progress where
  delta : Nat
  bias : Nat
  /-- The number of characters written so far. -/
  count : Nat
  out : List Char

/-- Goes over the label for the character of number `m`; `basic` characters were written first. -/
def scan (basic m : Nat) (p : Progress) (c : Char) : Progress :=
  if c.toNat < m then { p with delta := p.delta + 1 }
  else if c.toNat = m then
    { delta := 0, bias := adapt p.delta (p.count + 1) (p.count = basic), count := p.count + 1,
      out := p.out ++ encodeDifference p.bias 36 p.delta (p.delta + 1) }
  else p

/-- Writes the characters of the given numbers, in ascending order from `n` on. -/
def encodeFrom (label : List Char) (basic : Nat) : List Nat → Nat → Progress → List Char
  | [], _, p => p.out
  | m :: ms, n, p =>
    let p := { p with delta := p.delta + (m - n) * (p.count + 1) }
    let p := label.foldl (scan basic m) p
    encodeFrom label basic ms (m + 1) { p with delta := p.delta + 1 }

/-- Writes a label in ASCII. -/
def encode (label : List Char) : List Char :=
  let basic := label.filter fun c => c.toNat < 128
  let others := (label.filter fun c => 128 ≤ c.toNat).map Char.toNat
  let numbers := (others.mergeSort (· ≤ ·)).eraseReps
  let out := if basic.isEmpty then [] else basic ++ ['-']
  encodeFrom label basic.length numbers 128 ⟨0, 72, basic.length, out⟩

/-- The bound of the numbers in a difference. -/
def bound : Nat := 0x100000000

/-- Takes the digits of a difference: the difference and the rest. -/
def takeDifference (bias k weight acc : Nat) : List Char → Option (Nat × List Char)
  | [] => none
  | c :: cs =>
    match digitValue? c with
    | none => none
    | some d =>
      let acc := acc + d * weight
      let t := threshold k bias
      if bound ≤ acc then none
      else if d < t then some (acc, cs)
      else if bound ≤ weight * (36 - t) then none
      else takeDifference bias (k + 36) (weight * (36 - t)) acc cs

/-- Puts the characters of the differences into the label; `fuel` bounds their number. -/
def decodeFrom (n i bias : Nat) (label : List Char) : Nat → List Char → Option (List Char)
  | _, [] => some label
  | 0, _ :: _ => none
  | fuel + 1, cs =>
    match takeDifference bias 36 1 0 cs with
    | none => none
    | some (delta, rest) =>
      let count := label.length + 1
      let m := n + (i + delta) / count
      let place := (i + delta) % count
      if m.isValidChar then
        decodeFrom m (place + 1) (adapt delta count (i = 0))
          (label.take place ++ Char.ofNat m :: label.drop place) fuel rest
      else none

/-- Reads a label in ASCII. A hyphen in front of all others must follow a character. -/
def decode? (cs : List Char) : Option (List Char) :=
  let tail := (cs.reverse.takeWhile (· ≠ '-')).reverse
  let basic := cs.take (cs.length - tail.length - 1)
  if (basic.isEmpty ∧ tail.length < cs.length) ∨ basic.any (128 ≤ ·.toNat) then none
  else decodeFrom 128 0 72 basic tail.length tail

end ChainGauge.Punycode
