/-!
# Base64

Bytes as letters: three bytes become four letters of six bits each, and a group that is cut short is
filled up with `=`. `decode?_encode` says that the bytes can be read back.
-/

namespace CloudGrant.Text.Base64

/-- The letter of six bits. -/
def letter (n : Nat) : Char :=
  Char.ofNat (if n < 26 then 0x41 + n else if n < 52 then 0x47 + n else if n < 62 then n - 4
    else if n = 62 then 0x2B else 0x2F)

/-- The six bits of a letter. -/
def value? (c : Char) : Option Nat :=
  let n := c.toNat
  if 0x41 ≤ n ∧ n ≤ 0x5A then some (n - 0x41)
  else if 0x61 ≤ n ∧ n ≤ 0x7A then some (n - 0x47)
  else if 0x30 ≤ n ∧ n ≤ 0x39 then some (n + 4)
  else if n = 0x2B then some 62
  else if n = 0x2F then some 63
  else none

/-- Bytes as letters. -/
def encode : List UInt8 → List Char
  | [] => []
  | [a] => [letter (a.toNat / 4), letter (a.toNat % 4 * 16), '=', '=']
  | [a, b] =>
    [letter (a.toNat / 4), letter (a.toNat % 4 * 16 + b.toNat / 16), letter (b.toNat % 16 * 4), '=']
  | a :: b :: c :: rest =>
    letter (a.toNat / 4) :: letter (a.toNat % 4 * 16 + b.toNat / 16)
      :: letter (b.toNat % 16 * 4 + c.toNat / 64) :: letter (c.toNat % 64) :: encode rest

/-- The bytes of four letters; the last group alone may end in `=`. -/
def group? (w x y z : Char) : Option (List UInt8) := do
  let w ← value? w
  let x ← value? x
  if y = '=' ∧ z = '=' then
    if x % 16 = 0 then some [UInt8.ofNat (w * 4 + x / 16)] else none
  else
    let y ← value? y
    if z = '=' then
      if y % 4 = 0 then some [UInt8.ofNat (w * 4 + x / 16), UInt8.ofNat (x % 16 * 16 + y / 4)]
      else none
    else
      let z ← value? z
      some [UInt8.ofNat (w * 4 + x / 16), UInt8.ofNat (x % 16 * 16 + y / 4),
        UInt8.ofNat (y % 4 * 64 + z)]

/-- The bytes of letters. -/
def decode? : List Char → Option (List UInt8)
  | [] => some []
  | [w, x, y, z] => group? w x y z
  | w :: x :: y :: z :: rest => do
    let bytes ← group? w x y z
    if bytes.length = 3 then some (bytes ++ (← decode? rest)) else none
  | _ => none

/-! ## Reading back -/

theorem value?_letter : ∀ n : Nat, n < 64 → value? (letter n) = some n := by decide

theorem letter_ne_pad : ∀ n : Nat, n < 64 → letter n ≠ '=' := by decide

theorem group?_letters {w x y z : Nat} (hw : w < 64) (hx : x < 64) (hy : y < 64) (hz : z < 64) :
    group? (letter w) (letter x) (letter y) (letter z)
      = some [UInt8.ofNat (w * 4 + x / 16), UInt8.ofNat (x % 16 * 16 + y / 4),
        UInt8.ofNat (y % 4 * 64 + z)] := by
  simp [group?, value?_letter _ hw, value?_letter _ hx, value?_letter _ hy, value?_letter _ hz,
    letter_ne_pad _ hy, letter_ne_pad _ hz]

theorem group?_three (a b c : UInt8) :
    group? (letter (a.toNat / 4)) (letter (a.toNat % 4 * 16 + b.toNat / 16))
      (letter (b.toNat % 16 * 4 + c.toNat / 64)) (letter (c.toNat % 64)) = some [a, b, c] := by
  have ha := a.toNat_lt
  have hb := b.toNat_lt
  have hc := c.toNat_lt
  rw [group?_letters (by omega) (by omega) (by omega) (by omega),
    show a.toNat / 4 * 4 + (a.toNat % 4 * 16 + b.toNat / 16) / 16 = a.toNat by omega,
    show (a.toNat % 4 * 16 + b.toNat / 16) % 16 * 16 + (b.toNat % 16 * 4 + c.toNat / 64) / 4
      = b.toNat by omega,
    show (b.toNat % 16 * 4 + c.toNat / 64) % 4 * 64 + c.toNat % 64 = c.toNat by omega]
  simp

theorem group?_pad {w x y : Nat} (hw : w < 64) (hx : x < 64) (hy : y < 64) (h : y % 4 = 0) :
    group? (letter w) (letter x) (letter y) '='
      = some [UInt8.ofNat (w * 4 + x / 16), UInt8.ofNat (x % 16 * 16 + y / 4)] := by
  simp [group?, value?_letter _ hw, value?_letter _ hx, value?_letter _ hy, letter_ne_pad _ hy, h]

theorem group?_pads {w x : Nat} (hw : w < 64) (hx : x < 64) (h : x % 16 = 0) :
    group? (letter w) (letter x) '=' '=' = some [UInt8.ofNat (w * 4 + x / 16)] := by
  simp [group?, value?_letter _ hw, value?_letter _ hx, h]

theorem group?_two (a b : UInt8) :
    group? (letter (a.toNat / 4)) (letter (a.toNat % 4 * 16 + b.toNat / 16))
      (letter (b.toNat % 16 * 4)) '=' = some [a, b] := by
  have ha := a.toNat_lt
  have hb := b.toNat_lt
  rw [group?_pad (by omega) (by omega) (by omega) (by omega),
    show a.toNat / 4 * 4 + (a.toNat % 4 * 16 + b.toNat / 16) / 16 = a.toNat by omega,
    show (a.toNat % 4 * 16 + b.toNat / 16) % 16 * 16 + b.toNat % 16 * 4 / 4 = b.toNat by omega]
  simp

theorem group?_one (a : UInt8) :
    group? (letter (a.toNat / 4)) (letter (a.toNat % 4 * 16)) '=' '=' = some [a] := by
  have ha := a.toNat_lt
  rw [group?_pads (by omega) (by omega) (by omega),
    show a.toNat / 4 * 4 + a.toNat % 4 * 16 / 16 = a.toNat by omega]
  simp

/-- **What was written is read back.** -/
theorem decode?_encode : ∀ s : List UInt8, decode? (encode s) = some s
  | [] => rfl
  | [a] => by rw [encode, decode?, group?_one]
  | [a, b] => by rw [encode, decode?, group?_two]
  | [a, b, c] => by rw [encode, encode, decode?, group?_three]
  | a :: b :: c :: d :: rest => by
    have ih := decode?_encode (d :: rest)
    rw [encode]
    generalize encode (d :: rest) = t at ih
    cases t with
    | nil => simp [decode?] at ih
    | cons x t => simp [decode?, group?_three, ih]

end CloudGrant.Text.Base64
