import ChainGauge.Number.Shortest

/-!
# Doubles as text

Three written forms: *plain*, without an exponent however large or small the number is;
*scientific where long*, the form of numbers in JSON text; and *fixed*, with a given number of
decimal places, where a half goes to the even neighbour.
-/

namespace ChainGauge.DecimalText

/-- The digits of a decimal. -/
def digitsOf (n : Nat) : List Char :=
  Nat.toDigits 10 n

/-- Writes `digits · 10 ^ exponent` without an exponent. -/
def positional (d : Decimal) : List Char :=
  let ds := digitsOf d.digits
  if 0 ≤ d.exponent then ds ++ List.replicate d.exponent.toNat '0'
  else
    let places := (-d.exponent).toNat
    if places < ds.length then
      ds.take (ds.length - places) ++ '.' :: ds.drop (ds.length - places)
    else '0' :: '.' :: List.replicate (places - ds.length) '0' ++ ds

/-- The minus sign of a negative number. -/
def sign (negative : Bool) : List Char :=
  if negative then ['-'] else []

/-- The plain form: the fewest digits that read back, never an exponent, no point in a whole
number. -/
def plain (x : Float) : String :=
  match Binary64.Value.ofFloat x with
  | .nan => "NaN"
  | .infinite negative => String.ofList (sign negative ++ ['i', 'n', 'f'])
  | .finite negative m q even spacing =>
    String.ofList (sign negative ++
      if m = 0 then ['0'] else positional (Decimal.shortest m q even spacing))

/-- One digit, a point if more digits follow, and the exponent with its sign. -/
def scientific (d : Decimal) : List Char :=
  let ds := digitsOf d.digits
  let e : Int := d.exponent + ds.length - 1
  let mantissa := if ds.length ≤ 1 then ds else ds.take 1 ++ '.' :: ds.drop 1
  mantissa ++ 'e' :: (if e < 0 then '-' else '+') :: digitsOf e.natAbs

/-- The form of a finite number in JSON text: positional while the first digit stands for
`10 ^ -5` to `10 ^ 15`, with at least one decimal place; scientific otherwise. -/
def json (x : Float) : Option String :=
  match Binary64.Value.ofFloat x with
  | .nan | .infinite _ => none
  | .finite negative m q even spacing =>
    some <| String.ofList <| sign negative ++
      if m = 0 then ['0', '.', '0']
      else
        let d := Decimal.shortest m q even spacing
        let e : Int := d.exponent + (digitsOf d.digits).length - 1
        if -5 ≤ e ∧ e ≤ 15 then
          positional d ++ (if 0 ≤ d.exponent then ['.', '0'] else [])
        else scientific d

/-- A quotient rounded to a whole number; a half goes to the even neighbour. -/
def roundHalfEven (num den : Nat) : Nat :=
  let q := num / den
  let r := 2 * (num % den)
  if r < den then q else if den < r then q + 1 else if q % 2 = 0 then q else q + 1

/-- The fixed form with `places` decimal places, at least one. -/
def fixed (places : Nat) (x : Float) : String :=
  match Binary64.Value.ofFloat x with
  | .nan => "NaN"
  | .infinite negative => String.ofList (sign negative ++ ['i', 'n', 'f'])
  | .finite negative m q _ _ =>
    let value := Decimal.Ratio.ofBinary m q
    let scaled := roundHalfEven (value.num * Nat.pow 10 places) value.den
    let low := digitsOf (scaled % Nat.pow 10 places)
    String.ofList (sign negative ++ digitsOf (scaled / Nat.pow 10 places) ++ '.' ::
      List.replicate (places - low.length) '0' ++ low)

end ChainGauge.DecimalText
