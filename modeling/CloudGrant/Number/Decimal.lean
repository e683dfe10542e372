import CloudGrant.Number.Binary64

/-!
# Decimal numbers and binary64

`ofDecimal` turns `significand * 10 ^ exponent` into a binary64 number by **one scaling with a
rounded power of ten**; exponents out of the range of the powers are first brought in by divisions
by `10 ^ 308`. The result can differ from the correctly rounded one in the last digit, and
readers of the wire format see this number.

`shortest` goes the other way: the decimal number with the **fewest digits** that lies in the
interval of reals rounding to the given number, and of those the nearest; ties go to the even digit.
`Layout.text` writes it.

## Termination

`scale` adds its step to a negative exponent in each round and stops at zero. `shortest` tries
twenty-four grids of powers of ten, from coarse to fine.
-/

namespace CloudGrant.Decimal

open Binary64

/-! ## From decimal -/

/-- Scale by a rounded power of ten. -/
def scaleOnce (x : Binary64) (exponent : Int) : Option Binary64 :=
  (powerOfTen exponent.natAbs).bind (fun power => if 0 ≤ exponent then mul x power else div x power)

/-- Scale by a power of ten, downwards in steps of `step + 1`, so that no single power is beyond
`10 ^ (step + 1)`. -/
def scale (step : Nat) (x : Binary64) (exponent : Int) : Option Binary64 :=
  if exponent.natAbs ≤ step + 1 then scaleOnce x exponent
  else if x.mantissa = 0 then some x
  else if 0 ≤ exponent then none
  else
    match scaleOnce x (-(step + 1 : Nat)) with
    | none => none
    | some y => scale step y (exponent + (step + 1 : Nat))
termination_by exponent.natAbs

/-- `significand * 10 ^ exponent`; `none` if it is too large. The greatest power of ten in the format
is `10 ^ 308`. -/
def ofDecimal (significand : Nat) (exponent : Int) : Option Binary64 := do
  scale 307 (← ofNat significand) exponent

/-! ## To decimal -/

/-- `digits * 10 ^ power`. -/
structure Digits where
  digits : Nat
  power : Int
deriving DecidableEq, Inhabited

/-- The reals that round to a number: its value and the ends of the interval in quarters of the
last binary place, and whether the ends belong to it. -/
structure Interval where
  low : Nat
  value : Nat
  high : Nat
  unit : Int
  closed : Bool

/-- Below a power of two the spacing is halved, so the lower end is nearer there. -/
def Interval.around (x : Binary64) : Interval where
  low := if x.mantissa = leastNormal ∧ minExponent < x.exponent then 4 * x.mantissa - 1
    else 4 * x.mantissa - 2
  value := 4 * x.mantissa
  high := 4 * x.mantissa + 2
  unit := x.exponent - 2
  closed := x.mantissa % 2 = 0

/-- Factors that bring quarters and multiples of `10 ^ power` to one scale of integers. -/
def factors (unit power : Int) : Nat × Nat :=
  (Nat.pow 2 unit.toNat * Nat.pow 10 (-power).toNat, Nat.pow 2 (-unit).toNat * Nat.pow 10 power.toNat)

/-- The multiple of `10 ^ power` in the interval that lies nearest to the value. -/
def Interval.onGrid? (i : Interval) (power : Int) : Option Digits :=
  let (f, g) := factors i.unit power
  let inside (c : Nat) : Bool :=
    if i.closed then i.low * f ≤ c * g && c * g ≤ i.high * f
    else i.low * f < c * g && c * g < i.high * f
  let below := i.value * f / g
  let above := below + 1
  let down := i.value * f - below * g
  let up := above * g - i.value * f
  let belowFits := below ≠ 0 ∧ inside below
  if belowFits ∧ inside above then
    some ⟨if up < down ∨ (up = down ∧ below % 2 = 1) then above else below, power⟩
  else if belowFits then some ⟨below, power⟩
  else if inside above then some ⟨above, power⟩
  else none

/-- A power of ten above the number's leading digit. -/
def coarsest (x : Binary64) : Int := ((x.mantissa.log2 : Int) + 1 + x.exponent) * 1233 / 4096 + 1

/-- The shortest decimal that rounds to a positive number, and the nearest of those. -/
def shortest (x : Binary64) : Digits :=
  ((List.range 24).findSome? (fun i : Nat => (Interval.around x).onGrid? (coarsest x - (i : Nat)))).getD ⟨0, 0⟩

/-! ## Text -/

/-- How a number is laid out: between which powers of its leading digit it is positional, and how
the exponent is written outside. -/
structure Layout where
  positionalFrom : Int
  positionalTo : Int
  exponentMark : List Char
  plus : List Char
  exponentWidth : Nat

/-- Numbers are positional from `10 ^ -5` to below `10 ^ 16`; an exponent has its sign and two
digits at least. -/
def wire : Layout := ⟨-5, 15, ['e'], ['+'], 2⟩

def zeros (n : Nat) : List Char := List.replicate n '0'

/-- A decimal number with a point. -/
def Layout.decimal (l : Layout) (d : Digits) : List Char :=
  let ds := Nat.toDigits 10 d.digits
  let lead := d.power + (ds.length : Int) - 1
  if l.positionalFrom ≤ lead ∧ lead ≤ l.positionalTo then
    if 0 ≤ d.power then ds ++ zeros d.power.toNat ++ ['.', '0']
    else if 0 ≤ lead then ds.take (lead.toNat + 1) ++ '.' :: ds.drop (lead.toNat + 1)
    else ['0', '.'] ++ zeros (-lead - 1).toNat ++ ds
  else
    let mantissa := match ds with
      | [] => []
      | [c] => [c]
      | c :: rest => c :: '.' :: rest
    let e := Nat.toDigits 10 lead.natAbs
    mantissa ++ l.exponentMark ++ (if 0 ≤ lead then l.plus else ['-'])
      ++ zeros (l.exponentWidth - e.length) ++ e

/-- A number as text, with its sign. -/
def Layout.text (l : Layout) (negative : Bool) (x : Binary64) : String :=
  let body := if x.mantissa = 0 then ['0', '.', '0'] else l.decimal (shortest x)
  String.ofList (if negative then '-' :: body else body)

end CloudGrant.Decimal
