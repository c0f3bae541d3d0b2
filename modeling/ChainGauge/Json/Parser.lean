import ChainGauge.Json.Value

/-!
# Reading JSON

The strict grammar: no comments, no trailing commas, escapes with paired surrogates, arrays and
objects nested at most `maxDepth` deep.

A number without point and exponent is whole if it fits sixty-four bits. Any other number is a
double: the digits that fit sixty-four bits, scaled by one multiplication or division by a power of
ten; so the last bit of a number with more digits than a double has may differ from the nearest
double. A number too large for a double is refused.
-/

namespace ChainGauge.Json

/-- How deep arrays and objects may nest. -/
def maxDepth : Nat := 127

/-- Appends decimal digits to `acc` while it stays below `2 ^ 64`; gives the digits left over. -/
def accumulate (acc : Nat) : List Nat → Nat × List Nat
  | [] => (acc, [])
  | d :: ds => if 10 * acc + d < 0x10000000000000000 then accumulate (10 * acc + d) ds else (acc, d :: ds)

/-- A power of ten up to `10 ^ 308`. -/
def powerOfTen (e : Nat) : Float :=
  Float.ofScientific 1 false e

/-- Divides by `10 ^ e`, by at most `10 ^ 308` a time. -/
def scaleDown (x : Float) (e : Nat) : Nat → Float
  | 0 => x
  | fuel + 1 =>
    if e ≤ 308 then x / powerOfTen e
    else if x == 0 then x
    else scaleDown (x / powerOfTen 308) (e - 308) fuel

/-- `significand · 10 ^ e` as a double, unless it is too large. -/
def scale (significand : Nat) (e : Int) : Option Float :=
  let x := Float.ofNat significand
  if e < 0 then some (scaleDown x e.natAbs 4)
  else if 308 < e then if significand = 0 then some x else none
  else
    let y := x * powerOfTen e.toNat
    if y.isInf then none else some y

/-- The parts of a written number. -/
structure Literal where
  negative : Bool
  integer : List Nat
  fraction : Option (List Nat)
  exponent : Option (Bool × List Nat)

/-- A number between the bounds of thirty-two bits. -/
def clamp (n : Int) : Int :=
  if 0x80000000 ≤ n then 0x80000000 - 1 else if n < -0x80000000 then -0x80000000 else n

/-- The number of decimal digits. -/
def numberOfDigits (ds : List Nat) : Nat :=
  ds.foldl (fun acc d => 10 * acc + d) 0

/-- The double that a literal stands for. -/
def Literal.real? (l : Literal) : Option Float :=
  let (whole, dropped) := accumulate 0 l.integer
  let fraction := l.fraction.getD []
  let (significand, ignored) := accumulate whole fraction
  let point : Int := (dropped.length : Int) - (fraction.length - ignored.length : Nat)
  let magnitude :=
    match l.exponent with
    | none => scale significand point
    | some (positive, ds) =>
      let e := numberOfDigits ds
      if 0x80000000 ≤ e then if significand ≠ 0 ∧ positive then none else some 0
      else scale significand (clamp (point + if positive then (e : Int) else -(e : Int)))
  magnitude.map fun x => if l.negative then -x else x

/-- The number that a literal stands for. -/
def Literal.number? (l : Literal) : Option JsonNumber :=
  let n := numberOfDigits l.integer
  if l.fraction.isSome || l.exponent.isSome || 0x10000000000000000 ≤ n then l.real?.map .real
  else if !l.negative then some (.whole n)
  -- Only a double can keep the sign of zero.
  else if n = 0 then some (.real (-0.0))
  else if n ≤ 0x8000000000000000 then some (.whole (-n))
  else some (.real (-Float.ofNat n))

/-- The value of a decimal digit. -/
def digitOf? (c : Char) : Option Nat :=
  if '0' ≤ c ∧ c ≤ '9' then some (c.toNat - 48) else none

/-- The digits in front and the rest. -/
def takeDigits : List Char → List Nat × List Char
  | [] => ([], [])
  | c :: cs =>
    match digitOf? c with
    | none => ([], c :: cs)
    | some d => let (ds, rest) := takeDigits cs; (d :: ds, rest)

/-- The fraction behind a point, if there is a point. -/
def takeFraction : List Char → Option (Option (List Nat) × List Char)
  | '.' :: cs =>
    match takeDigits cs with
    | ([], _) => none
    | (ds, rest) => some (some ds, rest)
  | cs => some (none, cs)

/-- The exponent behind its mark, if there is a mark. -/
def takeExponent (cs : List Char) : Option (Option (Bool × List Nat) × List Char) :=
  let signed : List Char → Bool × List Char
    | '+' :: r => (true, r)
    | '-' :: r => (false, r)
    | r => (true, r)
  match cs with
  | c :: r =>
    if c = 'e' ∨ c = 'E' then
      let (positive, r) := signed r
      match takeDigits r with
      | ([], _) => none
      | (ds, rest) => some (some (positive, ds), rest)
    else some (none, cs)
  | [] => some (none, [])

/-- The number at the front, whose sign is already read. -/
def takeNumber (negative : Bool) (cs : List Char) : Option (JsonNumber × List Char) := do
  let (integer, rest) := takeDigits cs
  if integer.isEmpty || (integer.head? == some 0 && 1 < integer.length) then none
  else
    let (fraction, rest) ← takeFraction rest
    let (exponent, rest) ← takeExponent rest
    let n ← Literal.number? ⟨negative, integer, fraction, exponent⟩
    pure (n, rest)

/-- The value of a hexadecimal digit. -/
def hexValue? (c : Char) : Option Nat :=
  if '0' ≤ c ∧ c ≤ '9' then some (c.toNat - 48)
  else if 'a' ≤ c ∧ c ≤ 'f' then some (c.toNat - 87)
  else if 'A' ≤ c ∧ c ≤ 'F' then some (c.toNat - 55)
  else none

/-- Four hexadecimal digits. -/
def takeUnit : List Char → Option (Nat × List Char)
  | a :: b :: c :: d :: rest => do
    let w ← hexValue? a
    let x ← hexValue? b
    let y ← hexValue? c
    let z ← hexValue? d
    pure (((w * 16 + x) * 16 + y) * 16 + z, rest)
  | _ => none

/-- The character that a numbered escape stands for; a leading surrogate takes the next escape
too. -/
def takeNumbered (cs : List Char) : Option (Char × List Char) := do
  let (u, rest) ← takeUnit cs
  if 0xDC00 ≤ u ∧ u ≤ 0xDFFF then none
  else if 0xD800 ≤ u ∧ u ≤ 0xDBFF then
    match rest with
    | '\\' :: 'u' :: rest =>
      let (v, rest) ← takeUnit rest
      if 0xDC00 ≤ v ∧ v ≤ 0xDFFF then
        pure (Char.ofNat (0x10000 + (u - 0xD800) * 0x400 + (v - 0xDC00)), rest)
      else none
    | _ => none
  else pure (Char.ofNat u, rest)

/-- The character behind a backslash. -/
def takeEscape : List Char → Option (Char × List Char)
  | c :: rest =>
    if c = '\x22' ∨ c = '\\' ∨ c = '/' then some (c, rest)
    else if c = 'b' then some ('\x08', rest)
    else if c = 'f' then some ('\x0c', rest)
    else if c = 'n' then some ('\n', rest)
    else if c = 'r' then some ('\r', rest)
    else if c = 't' then some ('\t', rest)
    else if c = 'u' then takeNumbered rest
    else none
  | [] => none

/-- The rest of a string whose opening quote is read; `done` holds its characters backwards. The
fuel bounds the number of characters. -/
def takeString (done : List Char) : Nat → List Char → Option (String × List Char)
  | 0, _ => none
  | _ + 1, [] => none
  | fuel + 1, c :: rest =>
    if c = '\x22' then some (String.ofList done.reverse, rest)
    else if c = '\\' then do
      let (e, rest) ← takeEscape rest
      takeString (e :: done) fuel rest
    else if c.toNat < 0x20 then none
    else takeString (c :: done) fuel rest

/-- Drops blanks. -/
def skipBlanks (cs : List Char) : List Char :=
  cs.dropWhile fun c => c == ' ' || c == '\n' || c == '\t' || c == '\r'

/-- Drops an expected word. -/
def expect : List Char → List Char → Option (List Char)
  | [], cs => some cs
  | w :: ws, c :: cs => if w = c then expect ws cs else none
  | _ :: _, [] => none

mutual
/-- The value at the front, which stands inside of `maxDepth - depth` arrays and objects. The fuel
bounds the number of calls. -/
def takeValue : Nat → Nat → List Char → Option (Json × List Char)
  | 0, _, _ => none
  | fuel + 1, depth, cs =>
    match skipBlanks cs with
    | 'n' :: rest => (expect "ull".toList rest).map (.null, ·)
    | 't' :: rest => (expect "rue".toList rest).map (.bool true, ·)
    | 'f' :: rest => (expect "alse".toList rest).map (.bool false, ·)
    | '\x22' :: rest => (takeString [] (rest.length + 1) rest).map fun (s, r) => (.string s, r)
    | '-' :: rest => (takeNumber true rest).map fun (n, r) => (.number n, r)
    | '[' :: rest =>
      match depth with
      | 0 => none
      | depth + 1 =>
        match skipBlanks rest with
        | ']' :: rest => some (.array [], rest)
        | rest => (takeItems fuel depth rest).map fun (js, r) => (.array js, r)
    | '\x7b' :: rest =>
      match depth with
      | 0 => none
      | depth + 1 =>
        match skipBlanks rest with
        | '\x7d' :: rest => some (.object [], rest)
        | rest => (takeMembers fuel depth rest).map fun (ms, r) => (.object ms, r)
    | rest => (takeNumber false rest).map fun (n, r) => (.number n, r)

/-- The items of an array and its closing bracket. -/
def takeItems : Nat → Nat → List Char → Option (List Json × List Char)
  | 0, _, _ => none
  | fuel + 1, depth, cs => do
    let (j, rest) ← takeValue fuel depth cs
    match skipBlanks rest with
    | ',' :: rest => (takeItems fuel depth rest).map fun (js, r) => (j :: js, r)
    | ']' :: rest => pure ([j], rest)
    | _ => none

/-- The members of an object and its closing brace. -/
def takeMembers : Nat → Nat → List Char → Option (List (String × Json) × List Char)
  | 0, _, _ => none
  | fuel + 1, depth, cs =>
    match skipBlanks cs with
    | '\x22' :: rest => do
      let (name, rest) ← takeString [] (rest.length + 1) rest
      match skipBlanks rest with
      | ':' :: rest =>
        let (j, rest) ← takeValue fuel depth rest
        match skipBlanks rest with
        | ',' :: rest => (takeMembers fuel depth rest).map fun (ms, r) => ((name, j) :: ms, r)
        | '\x7d' :: rest => pure ([(name, j)], rest)
        | _ => none
      | _ => none
    | _ => none
end

/-- Reads a text that holds one value, members in the order they are written. -/
def parse? (s : String) : Option Json :=
  let cs := s.toList
  match takeValue (2 * cs.length + 2) maxDepth cs with
  | some (j, rest) => if (skipBlanks rest).isEmpty then some j else none
  | none => none

end ChainGauge.Json
