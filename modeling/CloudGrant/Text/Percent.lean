import CloudGrant.Text.Utf8

/-!
# Percent-encoding

Characters that may not stand for themselves are written as the bytes of their UTF-8 form, each as `%`
and two hexadecimal digits. `decode_encode` says that what was written is read back, whatever set of
characters stands for itself, as long as `%` is not among them.
-/

namespace CloudGrant.Text.Percent

/-- A hexadecimal digit in upper case. -/
def digit (n : Nat) : Char := Char.ofNat (if n < 10 then 0x30 + n else 0x37 + n)

/-- The value of a hexadecimal digit. -/
def value? (c : Char) : Option Nat :=
  let n := c.toNat
  if 0x30 ≤ n ∧ n ≤ 0x39 then some (n - 0x30)
  else if 0x41 ≤ n ∧ n ≤ 0x46 then some (n - 0x37)
  else if 0x61 ≤ n ∧ n ≤ 0x66 then some (n - 0x57)
  else none

/-- A byte as an escape. -/
def escape (b : UInt8) : List Char := ['%', digit (b.toNat / 16), digit (b.toNat % 16)]

/-- A character, as an escape unless it is kept. -/
def encodeChar (keep : Char → Bool) (c : Char) : List Char :=
  if keep c then [c] else (Utf8.encodeChar c).flatMap escape

/-- A text with all characters that are not kept as escapes. -/
def encode (keep : Char → Bool) (s : List Char) : List Char := s.flatMap (encodeChar keep)

/-- The bytes of a text with its escapes resolved. -/
def decode : List Char → List UInt8
  | [] => []
  | '%' :: a :: b :: rest =>
    match value? a, value? b with
    | some x, some y => UInt8.ofNat (x * 16 + y) :: decode rest
    | _, _ => 0x25 :: decode (a :: b :: rest)
  | c :: rest => Utf8.encodeChar c ++ decode rest

/-- The characters that always stand for themselves: ASCII letters and digits, and `-._~`. -/
def isUnreserved (c : Char) : Bool :=
  c.isAlphanum || c == '-' || c == '.' || c == '_' || c == '~'

/-- A text as one component of a URL. -/
def component (s : String) : List Char := encode isUnreserved s.toList

/-! ## Reading back -/

theorem value?_digit : ∀ n : Nat, n < 16 → value? (digit n) = some n := by decide

theorem decode_escape (b : UInt8) (rest : List Char) :
    decode (escape b ++ rest) = b :: decode rest := by
  have hb := b.toNat_lt
  simp only [escape, List.cons_append, List.nil_append]
  rw [decode, value?_digit _ (by omega), value?_digit _ (by omega)]
  simp only
  rw [show b.toNat / 16 * 16 + b.toNat % 16 = b.toNat by omega]
  simp

theorem decode_escapes (bs : List UInt8) (rest : List Char) :
    decode (bs.flatMap escape ++ rest) = bs ++ decode rest := by
  induction bs with
  | nil => rfl
  | cons b bs ih => rw [List.flatMap_cons, List.append_assoc, decode_escape, ih, List.cons_append]

theorem decode_cons {c : Char} (h : c ≠ '%') (rest : List Char) :
    decode (c :: rest) = Utf8.encodeChar c ++ decode rest := by
  rw [decode]
  intro _ _ _ hc _
  exact h hc

theorem decode_encodeChar {keep : Char → Bool} (h : keep '%' = false) (c : Char)
    (rest : List Char) : decode (encodeChar keep c ++ rest) = Utf8.encodeChar c ++ decode rest := by
  unfold encodeChar
  split
  · next hk =>
    refine decode_cons ?_ rest
    rintro rfl
    rw [h] at hk
    cases hk
  · exact decode_escapes _ rest

/-- **What was written is read back.** -/
theorem decode_encode {keep : Char → Bool} (h : keep '%' = false) (s : List Char) :
    decode (encode keep s) = s.flatMap Utf8.encodeChar := by
  induction s with
  | nil => simp [encode, decode]
  | cons c s ih =>
    have e := decode_encodeChar h c (encode keep s)
    rw [ih] at e
    simpa [encode] using e

end CloudGrant.Text.Percent
