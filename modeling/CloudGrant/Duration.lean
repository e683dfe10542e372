/-!
# Spans of time

A `Duration` counts nanoseconds. `Duration.text` writes it in the largest unit that gives a whole
part, with as many decimals as it needs and no more: `900s`, `1.5ms`, `1.5µs`, `0ns`.
-/

namespace CloudGrant

/-- A span of time. -/
structure Duration where
  nanoseconds : Nat
deriving DecidableEq

namespace Duration

def ofMilliseconds (n : Nat) : Duration := ⟨n * 1000000⟩

def ofSeconds (n : Nat) : Duration := ⟨n * 1000000000⟩

/-- Whole milliseconds, rounded down. -/
def milliseconds (d : Duration) : Nat := d.nanoseconds / 1000000

/-- The digits of `n` with zeros in front up to `width`. -/
def padded (width n : Nat) : List Char :=
  let digits := Nat.toDigits 10 n
  List.replicate (width - digits.length) '0' ++ digits

/-- `whole + part / 10 ^ width` without superfluous zeros. -/
def decimals (whole width part : Nat) : String :=
  let fraction := ((padded width part).reverse.dropWhile (· = '0')).reverse
  let head := Nat.toDigits 10 whole
  String.ofList (if part = 0 then head else head ++ '.' :: fraction)

/-- The span in its largest fitting unit. -/
def text (d : Duration) : String :=
  let n := d.nanoseconds
  if 1000000000 ≤ n then decimals (n / 1000000000) 9 (n % 1000000000) ++ "s"
  else if 1000000 ≤ n then decimals (n / 1000000) 6 (n % 1000000) ++ "ms"
  else if 1000 ≤ n then decimals (n / 1000) 3 (n % 1000) ++ "µs"
  else decimals n 0 0 ++ "ns"

@[simp] theorem milliseconds_ofMilliseconds (n : Nat) : (ofMilliseconds n).milliseconds = n := by
  simp [milliseconds, ofMilliseconds]

end Duration

end CloudGrant
