import ChainGauge.Text.Hex

/-!
# Network addresses

Addresses of the two versions of the internet protocol, read and written in their usual text:
four decimal numbers, or eight groups of hexadecimal digits where one run of zero groups may be
left out and the last two groups may be written as an address of the older version.
-/

namespace ChainGauge

/-- An address of four bytes. -/
structure Ip4 where
  a : Nat
  b : Nat
  c : Nat
  d : Nat
  deriving DecidableEq, Repr, Inhabited

/-- An address of eight groups of two bytes. -/
structure Ip6 where
  groups : List Nat
  deriving DecidableEq, Repr, Inhabited

namespace Ip

/-- The value of a digit in a base of at most sixteen. -/
def digit? (base : Nat) (c : Char) : Option Nat :=
  let value : Option Nat :=
    if '0' ≤ c ∧ c ≤ '9' then some (c.toNat - 48)
    else if 'a' ≤ c ∧ c ≤ 'f' then some (c.toNat - 87)
    else if 'A' ≤ c ∧ c ≤ 'F' then some (c.toNat - 55)
    else none
  value.filter (· < base)

/-- The longest run of digits in front. -/
def spanDigits (base : Nat) : List Char → List Nat × List Char
  | [] => ([], [])
  | c :: cs =>
    match digit? base c with
    | none => ([], c :: cs)
    | some d => let (ds, rest) := spanDigits base cs; (d :: ds, rest)

/-- The number that digits spell, the highest first. -/
def ofDigits (base : Nat) (ds : List Nat) : Nat :=
  ds.foldl (fun acc d => base * acc + d) 0

/-- Takes a number below `limit` from the front. All digits there belong to it; they may be at
most `width` where that is given, and a zero may stand before others only if `padded` holds. -/
def takeNumber (base : Nat) (width : Option Nat) (padded : Bool) (limit : Nat) (cs : List Char) :
    Option (Nat × List Char) :=
  let (ds, rest) := spanDigits base cs
  if ds.isEmpty ∨ width.any (· < ds.length) then none
  else if padded = false ∧ ds.head? = some 0 ∧ 1 < ds.length then none
  else
    let n := ofDigits base ds
    if n < limit then some (n, rest) else none

/-- Takes one character from the front. -/
def takeChar (c : Char) : List Char → Option (List Char)
  | x :: rest => if x = c then some rest else none
  | [] => none

end Ip

namespace Ip4

open Ip

/-- Takes one of the four numbers. -/
def takeByte : List Char → Option (Nat × List Char) :=
  takeNumber 10 (some 3) false 256

/-- Takes an address from the front. -/
def take (cs : List Char) : Option (Ip4 × List Char) := do
  let (a, cs) ← takeByte cs
  let (b, cs) ← takeByte (← takeChar '.' cs)
  let (c, cs) ← takeByte (← takeChar '.' cs)
  let (d, cs) ← takeByte (← takeChar '.' cs)
  some (⟨a, b, c, d⟩, cs)

/-- Reads an address. -/
def ofText? (s : String) : Option Ip4 :=
  match take s.toList with
  | some (ip, []) => some ip
  | _ => none

/-- The address of a number of thirty-two bits. -/
def ofNat (n : Nat) : Ip4 :=
  ⟨n / 0x1000000 % 256, n / 0x10000 % 256, n / 256 % 256, n % 256⟩

/-- The text of an address. -/
def text (ip : Ip4) : String :=
  s!"{ip.a}.{ip.b}.{ip.c}.{ip.d}"

end Ip4

namespace Ip6

open Ip

/-- Takes up to `limit` groups from the front, the first of them at place `i`, and tells whether an
address of the older version stood for the last two. Nothing that does not fit is taken. -/
def takeGroups (i : Nat) : Nat → List Char → List Nat × Bool × List Char
  | 0, cs => ([], false, cs)
  | limit + 1, cs =>
    let here := if i = 0 then some cs else takeChar ':' cs
    -- An address of the older version takes the room of two groups.
    match if limit = 0 then none else here.bind Ip4.take with
    | some (ip, rest) => ([256 * ip.a + ip.b, 256 * ip.c + ip.d], true, rest)
    | none =>
      match here.bind (takeNumber 16 (some 4) true 0x10000) with
      | none => ([], false, cs)
      | some (g, rest) =>
        let (gs, old, rest) := takeGroups (i + 1) limit rest
        (g :: gs, old, rest)

/-- Takes an address from the front. -/
def take (cs : List Char) : Option (Ip6 × List Char) := do
  let (head, old, rest) := takeGroups 0 8 cs
  if head.length = 8 then some (⟨head⟩, rest)
  else if old then none
  else
    let rest ← takeChar ':' rest
    let rest ← takeChar ':' rest
    let (tail, _, rest) := takeGroups 0 (7 - head.length) rest
    some (⟨head ++ List.replicate (8 - head.length - tail.length) 0 ++ tail⟩, rest)

/-- Reads an address. -/
def ofText? (s : String) : Option Ip6 :=
  match take s.toList with
  | some (ip, []) => some ip
  | _ => none

/-- The number of zeros in front. -/
def zeros : List Nat → Nat
  | 0 :: gs => zeros gs + 1
  | _ => 0

/-- The first longest run of zeros: its place and length. -/
def longestZeros (i : Nat) (best : Nat × Nat) : List Nat → Nat × Nat
  | [] => best
  | g :: gs =>
    let n := zeros (g :: gs)
    longestZeros (i + 1) (if best.2 < n then (i, n) else best) gs

/-- The digits of groups between colons. -/
def joined (gs : List Nat) : String :=
  String.intercalate ":" (gs.map fun g => String.ofList (Nat.toDigits 16 g))

/-- The text in groups only: the first longest run of at least two zero groups is left out. -/
def groupText (ip : Ip6) : String :=
  let (start, count) := longestZeros 0 (0, 0) ip.groups
  if 1 < count then joined (ip.groups.take start) ++ "::" ++ joined (ip.groups.drop (start + count))
  else joined ip.groups

/-- The text of an address. One that stands for an address of the older version shows that one. -/
def text (ip : Ip6) : String :=
  match ip.groups with
  | [0, 0, 0, 0, 0, 0xffff, x, y] => "::ffff:" ++ (Ip4.ofNat (x * 0x10000 + y)).text
  | _ => ip.groupText

end Ip6

end ChainGauge
