/-!
# Finite binary64 numbers

A non-negative finite number of the 64-bit format is `mantissa * 2 ^ exponent`, in exact integers.
There is one rounding, `ofRatio`: to the nearest representable number, a tie to the even mantissa.
Products and quotients are rounded ratios, so nothing here depends on the machine's arithmetic.

`none` stands for a result too large for the format.
-/

namespace CloudGrant

/-- The non-negative finite number `mantissa * 2 ^ exponent`. -/
structure Binary64 where
  mantissa : Nat
  exponent : Int
deriving DecidableEq, Inhabited

namespace Binary64

/-- The least mantissa of 53 binary digits, `2 ^ 52`. -/
def leastNormal : Nat := 0x10000000000000

/-- The least exponent; mantissas below `2 ^ 52` occur only with it. -/
def minExponent : Int := -1074

/-- The greatest exponent. -/
def maxExponent : Int := 971

def zero : Binary64 := ⟨0, minExponent⟩

/-- Numerator and denominator. -/
def ratio (x : Binary64) : Nat × Nat :=
  (x.mantissa * Nat.pow 2 x.exponent.toNat, Nat.pow 2 (-x.exponent).toNat)

/-- `num / den` to the nearest integer, a tie to the even one. -/
def divideEven (num den : Nat) : Nat :=
  let q := num / den
  let r := num % den
  if den < 2 * r ∨ (2 * r = den ∧ q % 2 = 1) then q + 1 else q

/-- The number `m * 2 ^ e`, where `m` may have grown to `2 ^ 53` by rounding. -/
def normal (m : Nat) (e : Int) : Option Binary64 :=
  let x : Binary64 := if m = 2 * leastNormal then ⟨leastNormal, e + 1⟩ else ⟨m, e⟩
  if maxExponent < x.exponent then none else some x

/-- `num / den` in units of `2 ^ e`, as a numerator and a denominator. -/
def inUnits (num den : Nat) (e : Int) : Nat × Nat := (num * Nat.pow 2 (-e).toNat, den * Nat.pow 2 e.toNat)

/-- The exponent at which `num / den` has 53 binary digits, or the least one. -/
def unitExponent (num den : Nat) : Int :=
  let e : Int := (num.log2 : Int) - (den.log2 : Int) - 52
  let (n, d) := inUnits num den e
  max minExponent (if n / d < leastNormal then e - 1 else e)

/-- `num / den` rounded to the nearest number of the format. -/
def ofRatio (num den : Nat) : Option Binary64 :=
  if num = 0 then some zero
  else
    let e := unitExponent num den
    let (n, d) := inUnits num den e
    normal (divideEven n d) e

/-- A natural number, rounded. -/
def ofNat (n : Nat) : Option Binary64 := ofRatio n 1

/-- The rounded product. -/
def mul (x y : Binary64) : Option Binary64 :=
  ofRatio (x.ratio.1 * y.ratio.1) (x.ratio.2 * y.ratio.2)

/-- The rounded quotient. -/
def div (x y : Binary64) : Option Binary64 :=
  ofRatio (x.ratio.1 * y.ratio.2) (x.ratio.2 * y.ratio.1)

/-- A power of ten, rounded. -/
def powerOfTen (n : Nat) : Option Binary64 := ofNat (Nat.pow 10 n)

end Binary64

end CloudGrant
