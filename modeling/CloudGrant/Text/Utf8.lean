/-!
# UTF-8

Texts as bytes and bytes as texts. `decode?` is strict: it answers only for well-formed bytes.
`decodeLossy` reads any bytes and puts one U+FFFD for each **longest stretch that could still have
become a character**: a lead byte with as many of its continuation bytes as fit, or a single byte
that cannot start a character.

Both readers take the bytes apart with the same `step`, so they agree wherever the strict one
answers.

## Termination

`step` always consumes its lead byte (`length_step_le`), so the readers recurse on the number of
bytes left.
-/

namespace CloudGrant.Text.Utf8

/-- The character put for bytes that form no character. -/
def replacement : Char := '\uFFFD'

/-! ## Writing -/

/-- The bytes of a character. -/
def encodeChar (c : Char) : List UInt8 :=
  let n := c.toNat
  if n < 0x80 then [UInt8.ofNat n]
  else if n < 0x800 then [UInt8.ofNat (0xC0 + n / 0x40), UInt8.ofNat (0x80 + n % 0x40)]
  else if n < 0x10000 then
    [UInt8.ofNat (0xE0 + n / 0x1000), UInt8.ofNat (0x80 + n / 0x40 % 0x40),
      UInt8.ofNat (0x80 + n % 0x40)]
  else
    [UInt8.ofNat (0xF0 + n / 0x40000), UInt8.ofNat (0x80 + n / 0x1000 % 0x40),
      UInt8.ofNat (0x80 + n / 0x40 % 0x40), UInt8.ofNat (0x80 + n % 0x40)]

/-- The bytes of a text. -/
def encode (s : String) : List UInt8 := s.toList.flatMap encodeChar

/-! ## Reading -/

/-- What may follow a lead byte: the range of the second byte and the number of bytes after it. -/
structure Lead where
  low : UInt8
  high : UInt8
  more : Nat

/--
The lead bytes of characters of several bytes. The narrowed ranges after `E0`, `ED`, `F0` and `F4`
keep out overlong forms, surrogates and numbers above U+10FFFF.
-/
def lead? (b : UInt8) : Option Lead :=
  if b < 0xC2 then none
  else if b < 0xE0 then some ⟨0x80, 0xBF, 0⟩
  else if b = 0xE0 then some ⟨0xA0, 0xBF, 1⟩
  else if b = 0xED then some ⟨0x80, 0x9F, 1⟩
  else if b < 0xF0 then some ⟨0x80, 0xBF, 1⟩
  else if b = 0xF0 then some ⟨0x90, 0xBF, 2⟩
  else if b < 0xF4 then some ⟨0x80, 0xBF, 2⟩
  else if b = 0xF4 then some ⟨0x80, 0x8F, 2⟩
  else none

/-- Append a continuation byte's six bits. -/
def push (n : Nat) (b : UInt8) : Nat := n * 0x40 + b.toNat % 0x40

/-- Read `k` plain continuation bytes onto `n`; stop before the first byte that is none. -/
def continuation : Nat → Nat → List UInt8 → Option Nat × List UInt8
  | 0, n, s => (some n, s)
  | _ + 1, _, [] => (none, [])
  | k + 1, n, b :: s =>
    if 0x80 ≤ b ∧ b ≤ 0xBF then continuation k (push n b) s else (none, b :: s)

/-- The bits that a lead byte followed by `more + 1` bytes contributes. -/
def leadBits (b : UInt8) (more : Nat) : Nat :=
  match more with
  | 0 => b.toNat % 0x20
  | 1 => b.toNat % 0x10
  | _ => b.toNat % 0x08

/-- Read one character, or drop one longest stretch that forms none. -/
def step (b : UInt8) (s : List UInt8) : Option Char × List UInt8 :=
  if b < 0x80 then (some (Char.ofNat b.toNat), s)
  else
    match lead? b, s with
    | none, s => (none, s)
    | some _, [] => (none, [])
    | some l, c :: r =>
      if l.low ≤ c ∧ c ≤ l.high then
        let (n, rest) := continuation l.more (push (leadBits b l.more) c) r
        (n.map Char.ofNat, rest)
      else (none, c :: r)

theorem length_continuation_le : ∀ (k n : Nat) (s : List UInt8),
    (continuation k n s).2.length ≤ s.length
  | 0, _, _ => Nat.le_refl _
  | _ + 1, _, [] => Nat.le_refl _
  | k + 1, n, b :: s => by
    unfold continuation
    split
    · exact Nat.le_succ_of_le (length_continuation_le k _ s)
    · exact Nat.le_refl _

theorem length_step_le (b : UInt8) (s : List UInt8) : (step b s).2.length ≤ s.length := by
  unfold step
  split
  · exact Nat.le_refl _
  · split
    · exact Nat.le_refl _
    · exact Nat.le_refl _
    · next l c r _ =>
      split
      · exact Nat.le_succ_of_le (length_continuation_le _ _ r)
      · exact Nat.le_refl _

/-- Read all bytes onto `acc`, which holds the characters read so far in reverse. -/
def readOnto (acc : List (Option Char)) : List UInt8 → List (Option Char)
  | [] => acc.reverse
  | b :: s => readOnto ((step b s).1 :: acc) (step b s).2
termination_by s => s.length
decreasing_by exact Nat.lt_succ_of_le (length_step_le b s)

/-- The characters of some bytes, with `none` for each stretch that forms no character. -/
def read (s : List UInt8) : List (Option Char) := readOnto [] s

/-- The text of well-formed bytes. -/
def decode? (s : List UInt8) : Option String := ((read s).mapM id).map String.ofList

/-- The text of any bytes, with U+FFFD for each stretch that forms no character. -/
def decodeLossy (s : List UInt8) : String :=
  String.ofList ((read s).map (·.getD replacement))

/-! ## Laws -/

theorem mapM_id_eq_some {α : Type} : ∀ {l : List (Option α)} {m : List α},
    l.mapM id = some m → ∀ d, l.map (·.getD d) = m
  | [], m, h, _ => by simpa using h
  | none :: l, m, h, _ => by simp [List.mapM_cons] at h
  | some a :: l, m, h, d => by
    rw [List.mapM_cons] at h
    simp only [id, Option.bind_eq_bind, Option.bind_some] at h
    cases hl : l.mapM id with
    | none => simp [hl] at h
    | some r =>
      simp only [hl, Option.bind_some] at h
      have : a :: r = m := by simpa using h
      rw [← this, List.map_cons, mapM_id_eq_some hl d]
      rfl

/-- **Where the strict reader answers, the lossy one gives the same text.** -/
theorem decodeLossy_of_decode? {s : List UInt8} {t : String} (h : decode? s = some t) :
    decodeLossy s = t := by
  unfold decode? at h
  obtain ⟨m, hm, rfl⟩ := Option.map_eq_some_iff.mp h
  unfold decodeLossy
  rw [mapM_id_eq_some hm]

end CloudGrant.Text.Utf8
