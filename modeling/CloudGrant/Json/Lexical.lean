import CloudGrant.Json.Error

/-!
# The lexical layer of JSON

Blanks, words, numbers and texts, read from the bytes of a document. Each reader takes the bytes
that are left and returns the bytes after what it read; the lemmas `length_…` say that these are
fewer, which is what ends every loop built on them.

`skip` passes over a whole value without keeping it. It checks the grammar only: nesting may be
arbitrarily deep, and escapes and bytes inside texts need not form characters.

## Termination

Texts are read byte by byte, a jump over an escape being shorter still. `skipLoop` reads with a
stack of open containers; each turn reads at least one byte, or turns from looking for the next
item to reading it.
-/

namespace CloudGrant.Json

open Text (Utf8.encodeChar Utf8.decode?)

/-! ## Blanks and words -/

/-- Space, tab, line feed and carriage return. -/
def isBlank (b : UInt8) : Bool := b == 0x20 || b == 0x09 || b == 0x0A || b == 0x0D

/-- The bytes from the first that is no blank. -/
def skipBlanks (s : List UInt8) : List UInt8 := s.dropWhile isBlank

theorem length_skipBlanks_le (s : List UInt8) : (skipBlanks s).length ≤ s.length :=
  (List.dropWhile_suffix isBlank).length_le

/-- The rest of a word whose first letter was read. -/
def word : (letters s : List UInt8) → Except Error (List UInt8)
  | [], s => .ok s
  | _ :: _, [] => .error .endOfValue
  | a :: letters, b :: s => if a = b then word letters s else .error .expectedWord

theorem length_word_le : ∀ {letters s r : List UInt8}, word letters s = .ok r →
    r.length ≤ s.length
  | [], _, _, h => by simp [word] at h; simp [h]
  | _ :: _, [], _, h => by simp [word] at h
  | a :: letters, b :: s, r, h => by
    unfold word at h
    split at h
    · exact Nat.le_succ_of_le (length_word_le h)
    · cases h

/-- The letters after the first of `null`, `true` and `false`. -/
def ull : List UInt8 := [0x75, 0x6C, 0x6C]
def rue : List UInt8 := [0x72, 0x75, 0x65]
def alse : List UInt8 := [0x61, 0x6C, 0x73, 0x65]

/-! ## Numbers -/

def isDigit (b : UInt8) : Bool := 0x30 ≤ b && b ≤ 0x39

def digitValue (b : UInt8) : Nat := b.toNat - 0x30

/-- A number as written: the digits of its parts. -/
structure Numeral where
  negative : Bool
  whole : List UInt8
  fraction : List UInt8
  exponent : Option (Bool × List UInt8)

/-- One digit at least. The end of the text is reported apart. -/
def digits (s : List UInt8) : Except Error (List UInt8 × List UInt8) :=
  match s with
  | [] => .error .endOfValue
  | b :: _ => if isDigit b then .ok (s.takeWhile isDigit, s.dropWhile isDigit) else .error .invalidNumber

/-- The digits before the point: a leading zero stands alone. -/
def wholePart (s : List UInt8) : Except Error (List UInt8 × List UInt8) := do
  let (ds, r) ← digits s
  match ds with
  | 0x30 :: _ :: _ => .error .invalidNumber
  | _ => .ok (ds, r)

/-- The digits after a point, if there is one. -/
def fractionPart (s : List UInt8) : Except Error (List UInt8 × List UInt8) :=
  match s with
  | 0x2E :: r => digits r
  | _ => .ok ([], s)

/-- The sign of an exponent: whether it is negative. -/
def exponentSign : List UInt8 → Bool × List UInt8
  | 0x2B :: r => (false, r)
  | 0x2D :: r => (true, r)
  | r => (false, r)

/-- The exponent, if there is one: whether it is negative, and its digits. -/
def exponentPart (s : List UInt8) : Except Error (Option (Bool × List UInt8) × List UInt8) :=
  match s with
  | [] => .ok (none, [])
  | b :: t =>
    if b = 0x65 ∨ b = 0x45 then do
      let (ds, r) ← digits (exponentSign t).2
      .ok (some ((exponentSign t).1, ds), r)
    else .ok (none, b :: t)

/-- A number after its sign. -/
def numeral (negative : Bool) (s : List UInt8) : Except Error (Numeral × List UInt8) := do
  let (whole, r) ← wholePart s
  let (fraction, r) ← fractionPart r
  let (exponent, r) ← exponentPart r
  .ok (⟨negative, whole, fraction, exponent⟩, r)

/-- The greatest significand that is kept. -/
def maxSignificand : Nat := 0xFFFFFFFFFFFFFFFF

/-- Take up digits while the significand stays within 64 bits; the digits left over. -/
def absorb : Nat → List UInt8 → Nat × List UInt8
  | n, [] => (n, [])
  | n, b :: ds =>
    let m := n * 10 + digitValue b
    if maxSignificand < m then (n, b :: ds) else absorb m ds

/-- The value of a run of digits. -/
def digitsValue (ds : List UInt8) : Nat := ds.foldl (fun n b => n * 10 + digitValue b) 0

/-- The power of ten that an exponent names. -/
def Numeral.power (n : Numeral) : Int :=
  match n.exponent with
  | none => 0
  | some (negative, ds) => if negative then -(digitsValue ds : Int) else digitsValue ds

/-- The value as a binary64 number. Digits beyond 64 bits of significand count as zeros before the
point and are dropped after it. -/
def Numeral.float (n : Numeral) : Except Error Number :=
  let (wholeSignificand, dropped) := absorb 0 n.whole
  let (significand, beyond) := absorb wholeSignificand n.fraction
  let places := n.fraction.length - beyond.length
  match Decimal.ofDecimal significand ((dropped.length : Int) - places + n.power) with
  | some x => .ok (.float n.negative x)
  | none => .error .numberOutOfRange

/-- A number without point and exponent is an integer if 64 bits hold it, except `-0`. -/
def Numeral.value (n : Numeral) : Except Error Number :=
  let v := digitsValue n.whole
  if n.fraction.isEmpty && n.exponent.isNone then
    if n.negative then
      if v ≠ 0 ∧ v ≤ 0x8000000000000000 then .ok (.int (-v)) else n.float
    else if v ≤ maxSignificand then .ok (.int v) else n.float
  else n.float

theorem length_digits_lt {s d r : List UInt8} (h : digits s = .ok (d, r)) :
    r.length < s.length := by
  unfold digits at h
  split at h
  · cases h
  · next b t =>
    split at h
    · next hb =>
      simp only [Except.ok.injEq, Prod.mk.injEq] at h
      rw [← h.2, List.dropWhile_cons_of_pos hb, List.length_cons]
      exact Nat.lt_succ_of_le (List.dropWhile_suffix isDigit).length_le
    · cases h

theorem length_wholePart_lt {s d r : List UInt8} (h : wholePart s = .ok (d, r)) :
    r.length < s.length := by
  unfold wholePart at h
  cases hd : digits s with
  | error e => simp [hd, bind, Except.bind] at h
  | ok p =>
    simp only [hd, bind, Except.bind] at h
    split at h
    · cases h
    · simp only [Except.ok.injEq, Prod.mk.injEq] at h
      have := length_digits_lt (d := p.1) (r := p.2) hd
      rw [h.2] at this
      exact this

theorem length_fractionPart_le {s d r : List UInt8} (h : fractionPart s = .ok (d, r)) :
    r.length ≤ s.length := by
  unfold fractionPart at h
  split at h
  · have := length_digits_lt h
    simp only [List.length_cons]
    omega
  · simp only [Except.ok.injEq, Prod.mk.injEq] at h
    exact Nat.le_of_eq (congrArg List.length h.2.symm)

theorem length_exponentSign_le (s : List UInt8) : (exponentSign s).2.length ≤ s.length := by
  unfold exponentSign
  split <;> simp

theorem length_exponentPart_le {s r : List UInt8} {x : Option (Bool × List UInt8)}
    (h : exponentPart s = .ok (x, r)) : r.length ≤ s.length := by
  unfold exponentPart at h
  split at h
  · simp only [Except.ok.injEq, Prod.mk.injEq] at h
    exact Nat.le_of_eq (congrArg List.length h.2.symm)
  · next b t =>
    split at h
    · cases hd : digits (exponentSign t).2 with
      | error e => simp [hd, bind, Except.bind] at h
      | ok p =>
        simp only [hd, bind, Except.bind, Except.ok.injEq, Prod.mk.injEq] at h
        have h₁ := length_digits_lt (d := p.1) (r := p.2) hd
        have h₂ := length_exponentSign_le t
        rw [h.2] at h₁
        simp only [List.length_cons]
        omega
    · simp only [Except.ok.injEq, Prod.mk.injEq] at h
      exact Nat.le_of_eq (congrArg List.length h.2.symm)

theorem length_numeral_lt {negative : Bool} {s r : List UInt8} {n : Numeral}
    (h : numeral negative s = .ok (n, r)) : r.length < s.length := by
  unfold numeral at h
  cases hw : wholePart s with
  | error e => simp [hw, bind, Except.bind] at h
  | ok p =>
    simp only [hw, bind, Except.bind] at h
    cases hf : fractionPart p.2 with
    | error e => simp [hf] at h
    | ok q =>
      simp only [hf] at h
      cases he : exponentPart q.2 with
      | error e => simp [he] at h
      | ok x =>
        simp only [he, Except.ok.injEq, Prod.mk.injEq] at h
        have h₁ := length_wholePart_lt (d := p.1) (r := p.2) hw
        have h₂ := length_fractionPart_le (d := q.1) (r := q.2) hf
        have h₃ := length_exponentPart_le (x := x.1) (r := x.2) he
        rw [h.2] at h₃
        omega

/-! ## Texts -/

/-- The value of a hexadecimal digit. -/
def hexValue? (b : UInt8) : Option Nat :=
  if isDigit b then some (digitValue b)
  else if 0x61 ≤ b ∧ b ≤ 0x66 then some (b.toNat - 0x57)
  else if 0x41 ≤ b ∧ b ≤ 0x46 then some (b.toNat - 0x37)
  else none

/-- Four hexadecimal digits. -/
def hexUnit : List UInt8 → Except Error (Nat × List UInt8)
  | a :: b :: c :: d :: s =>
    match hexValue? a, hexValue? b, hexValue? c, hexValue? d with
    | some a, some b, some c, some d => .ok (((a * 16 + b) * 16 + c) * 16 + d, s)
    | _, _, _, _ => .error .invalidEscape
  | _ => .error .endOfText

theorem length_hexUnit_lt {s r : List UInt8} {n : Nat} (h : hexUnit s = .ok (n, r)) :
    r.length < s.length := by
  unfold hexUnit at h
  split at h
  · split at h
    · simp only [Except.ok.injEq, Prod.mk.injEq] at h
      rw [← h.2]
      simp only [List.length_cons]
      omega
    · cases h
  · cases h

/-- The characters that a backslash and one letter stand for. -/
def simpleEscape? (b : UInt8) : Option UInt8 :=
  if b = 0x22 ∨ b = 0x5C ∨ b = 0x2F then some b
  else if b = 0x62 then some 0x08
  else if b = 0x66 then some 0x0C
  else if b = 0x6E then some 0x0A
  else if b = 0x72 then some 0x0D
  else if b = 0x74 then some 0x09
  else none

/-- The second half of a surrogate pair, after the first half `high`. -/
def lowSurrogate (high : Nat) : List UInt8 → Except Error (List UInt8 × List UInt8)
  | [] => .error .endOfText
  | 0x5C :: [] => .error .endOfText
  | 0x5C :: 0x75 :: s => do
    let (low, r) ← hexUnit s
    if 0xDC00 ≤ low ∧ low ≤ 0xDFFF then
      .ok (Utf8.encodeChar (Char.ofNat (0x10000 + (high - 0xD800) * 0x400 + (low - 0xDC00))), r)
    else .error .loneSurrogate
  | _ => .error .shortHexEscape

/-- What follows a backslash: the bytes it stands for. -/
def escaped : List UInt8 → Except Error (List UInt8 × List UInt8)
  | [] => .error .endOfText
  | b :: s =>
    if b = 0x75 then do
      let (n, r) ← hexUnit s
      if 0xDC00 ≤ n ∧ n ≤ 0xDFFF then .error .loneSurrogate
      else if 0xD800 ≤ n ∧ n ≤ 0xDBFF then lowSurrogate n r
      else .ok (Utf8.encodeChar (Char.ofNat n), r)
    else
      match simpleEscape? b with
      | some c => .ok ([c], s)
      | none => .error .invalidEscape

theorem length_lowSurrogate_lt {high : Nat} {s bs r : List UInt8}
    (h : lowSurrogate high s = .ok (bs, r)) : r.length < s.length := by
  unfold lowSurrogate at h
  split at h
  · cases h
  · cases h
  · next s =>
    cases hu : hexUnit s with
    | error e => simp [hu, bind, Except.bind] at h
    | ok p =>
      simp only [hu, bind, Except.bind] at h
      split at h
      · simp only [Except.ok.injEq, Prod.mk.injEq] at h
        have := length_hexUnit_lt (n := p.1) (r := p.2) hu
        rw [h.2] at this
        simp only [List.length_cons]
        omega
      · cases h
  · cases h

theorem length_escaped_lt {s bs r : List UInt8} (h : escaped s = .ok (bs, r)) :
    r.length < s.length := by
  unfold escaped at h
  split at h
  · cases h
  · next b s =>
    split at h
    · cases hu : hexUnit s with
      | error e => simp [hu, bind, Except.bind] at h
      | ok p =>
        simp only [hu, bind, Except.bind] at h
        have hp := length_hexUnit_lt (n := p.1) (r := p.2) hu
        split at h
        · cases h
        · split at h
          · have := length_lowSurrogate_lt h
            simp only [List.length_cons]
            omega
          · simp only [Except.ok.injEq, Prod.mk.injEq] at h
            rw [h.2] at hp
            simp only [List.length_cons]
            omega
    · split at h
      · simp only [Except.ok.injEq, Prod.mk.injEq] at h
        rw [h.2]
        exact Nat.lt_succ_self _
      · cases h

/-- The bytes of a text after its opening quote, onto `acc` in reverse. -/
def textOnto (acc : List UInt8) : List UInt8 → Except Error (List UInt8 × List UInt8)
  | [] => .error .endOfText
  | b :: s =>
    if b = 0x22 then .ok (acc.reverse, s)
    else if b = 0x5C then
      match _h : escaped s with
      | .error e => .error e
      | .ok (bs, r) => textOnto (bs.reverse ++ acc) r
    else if b < 0x20 then .error .controlCharacter
    else textOnto (b :: acc) s
termination_by s => s.length
decreasing_by
  · have := length_escaped_lt _h
    simp only [List.length_cons]
    omega
  · exact Nat.lt_succ_self _

theorem length_textOnto_lt {acc s b r : List UInt8} (h : textOnto acc s = .ok (b, r)) :
    r.length < s.length := by
  fun_induction textOnto acc s with
  | case1 => cases h
  | case2 acc s =>
    simp only [Except.ok.injEq, Prod.mk.injEq] at h
    rw [h.2]
    exact Nat.lt_succ_self _
  | case3 => cases h
  | case4 acc s bs' r' hx _ ih =>
    have := ih h
    have := length_escaped_lt hx
    simp only [List.length_cons]
    omega
  | case5 => cases h
  | case6 acc b s _ _ _ ih => exact Nat.lt_succ_of_lt (ih h)

/-- A text after its opening quote. -/
def text (s : List UInt8) : Except Error (String × List UInt8) := do
  let (bs, r) ← textOnto [] s
  match Utf8.decode? bs with
  | some t => .ok (t, r)
  | none => .error .invalidCodePoint

theorem length_text_lt {s r : List UInt8} {t : String} (h : text s = .ok (t, r)) :
    r.length < s.length := by
  unfold text at h
  cases hx : textOnto [] s with
  | error e => simp [hx, bind, Except.bind] at h
  | ok p =>
    simp only [hx, bind, Except.bind] at h
    split at h
    · simp only [Except.ok.injEq, Prod.mk.injEq] at h
      have := length_textOnto_lt (b := p.1) (r := p.2) hx
      rw [h.2] at this
      exact this
    · cases h

/-! ## Passing over values -/

/-- Pass over what follows a backslash. -/
def skipEscape : List UInt8 → Except Error (List UInt8)
  | [] => .error .endOfText
  | b :: s =>
    if b = 0x75 then (hexUnit s).map Prod.snd
    else if (simpleEscape? b).isSome then .ok s
    else .error .invalidEscape

theorem length_skipEscape_lt {s r : List UInt8} (h : skipEscape s = .ok r) :
    r.length < s.length := by
  unfold skipEscape at h
  split at h
  · cases h
  · next b s =>
    split at h
    · cases hu : hexUnit s with
      | error e => simp [hu, Except.map] at h
      | ok p =>
        simp only [hu, Except.map, Except.ok.injEq] at h
        have := length_hexUnit_lt (n := p.1) (r := p.2) hu
        rw [h] at this
        simp only [List.length_cons]
        omega
    · split at h
      · simp only [Except.ok.injEq] at h
        rw [h]
        exact Nat.lt_succ_self _
      · cases h

/-- Pass over a text after its opening quote. -/
def skipText : List UInt8 → Except Error (List UInt8)
  | [] => .error .endOfText
  | b :: s =>
    if b = 0x22 then .ok s
    else if b = 0x5C then
      match _h : skipEscape s with
      | .error e => .error e
      | .ok r => skipText r
    else if b < 0x20 then .error .controlCharacter
    else skipText s
termination_by s => s.length
decreasing_by
  · have := length_skipEscape_lt _h
    simp only [List.length_cons]
    omega
  · exact Nat.lt_succ_self _

theorem length_skipText_lt {s r : List UInt8} (h : skipText s = .ok r) : r.length < s.length := by
  fun_induction skipText s with
  | case1 => cases h
  | case2 s =>
    simp only [Except.ok.injEq] at h
    rw [h]
    exact Nat.lt_succ_self _
  | case3 => cases h
  | case4 s r' hx _ ih =>
    have := ih h
    have := length_skipEscape_lt hx
    simp only [List.length_cons]
    omega
  | case5 => cases h
  | case6 b s _ _ _ ih => exact Nat.lt_succ_of_lt (ih h)

/-- In a value that is passed over, a number cut short is as wrong as a malformed one. -/
def skipNumeral (s : List UInt8) : Except Error (List UInt8) :=
  match numeral false s with
  | .ok (_, r) => .ok r
  | .error _ => .error .invalidNumber

theorem length_skipNumeral_lt {s r : List UInt8} (h : skipNumeral s = .ok r) :
    r.length < s.length := by
  unfold skipNumeral at h
  split at h
  · next hn =>
    simp only [Except.ok.injEq] at h
    exact h ▸ length_numeral_lt hn
  · cases h

/-- Pass over a word, a number or a text that starts with the byte `b`. -/
def skipScalar (b : UInt8) (s : List UInt8) : Except Error (List UInt8) :=
  if b = 0x6E then word ull s
  else if b = 0x74 then word rue s
  else if b = 0x66 then word alse s
  else if b = 0x2D then skipNumeral s
  else if isDigit b then skipNumeral (b :: s)
  else if b = 0x22 then skipText s
  else .error .expectedValue

theorem length_skipScalar_lt {b : UInt8} {s r : List UInt8} (h : skipScalar b s = .ok r) :
    r.length < (b :: s).length := by
  unfold skipScalar at h
  split at h
  · exact Nat.lt_succ_of_le (length_word_le h)
  · split at h
    · exact Nat.lt_succ_of_le (length_word_le h)
    · split at h
      · exact Nat.lt_succ_of_le (length_word_le h)
      · split at h
        · exact Nat.lt_succ_of_lt (length_skipNumeral_lt h)
        · split at h
          · exact length_skipNumeral_lt h
          · split at h
            · exact Nat.lt_succ_of_lt (length_skipText_lt h)
            · cases h

/-- The key of a member and its colon, in an object that is passed over. -/
def skipKey (s : List UInt8) : Except Error (List UInt8) :=
  match skipBlanks s with
  | [] => .error .endOfObject
  | b :: r =>
    if b = 0x22 then do
      let r ← skipText r
      match skipBlanks r with
      | [] => .error .endOfObject
      | c :: r => if c = 0x3A then .ok r else .error .expectedColon
    else .error .keyNotText

theorem length_skipKey_lt {s r : List UInt8} (h : skipKey s = .ok r) : r.length < s.length := by
  unfold skipKey at h
  have hs := length_skipBlanks_le s
  split at h
  · cases h
  · next b t hb =>
    rw [hb] at hs
    split at h
    · cases hx : skipText t with
      | error e => simp [hx, bind, Except.bind] at h
      | ok u =>
        simp only [hx, bind, Except.bind] at h
        have hu := length_skipText_lt hx
        have hv := length_skipBlanks_le u
        split at h
        · cases h
        · next c v hc =>
          rw [hc] at hv
          split at h
          · simp only [Except.ok.injEq] at h
            rw [h] at hv
            simp only [List.length_cons] at hs hv
            omega
          · cases h
    · cases h

/-- From the byte `b`, not the end, to the value of the next member. -/
def skipToMember (started : Bool) (b : UInt8) (s : List UInt8) : Except Error (List UInt8) :=
  if started then
    if b = 0x2C then skipKey s else .error .expectedObjectComma
  else skipKey (b :: s)

theorem length_skipToMember_lt {started : Bool} {b : UInt8} {s r : List UInt8}
    (h : skipToMember started b s = .ok r) : r.length < (b :: s).length := by
  unfold skipToMember at h
  split at h
  · split at h
    · exact Nat.lt_succ_of_lt (length_skipKey_lt h)
    · cases h
  · exact length_skipKey_lt h

/-- A container that is open. -/
inductive Container where
  | list
  | object
deriving DecidableEq

/-- What is looked for: a value, or the next item or the end of the innermost open container. The
flag of `next` says whether the container has an item already. -/
inductive Seeking where
  | value
  | next (started : Bool)
deriving DecidableEq

def Seeking.rank : Seeking → Nat
  | .value => 0
  | .next _ => 1

/-- Pass over a value inside the open containers, and over all of these. -/
def skipLoop (seeking : Seeking) (open_ : List Container) (s : List UInt8) :
    Except Error (List UInt8) :=
  match seeking with
  | .value =>
    match _hb : skipBlanks s with
    | [] => .error .endOfValue
    | b :: r =>
      if b = 0x5B then skipLoop (.next false) (.list :: open_) r
      else if b = 0x7B then skipLoop (.next false) (.object :: open_) r
      else
        match _h : skipScalar b r with
        | .error e => .error e
        | .ok r => skipLoop (.next true) open_ r
  | .next started =>
    match open_ with
    | [] => .ok s
    | .list :: outer =>
      match _hb : skipBlanks s with
      | [] => .error .endOfList
      | b :: r =>
        if b = 0x5D then skipLoop (.next true) outer r
        else if started then
          if b = 0x2C then skipLoop .value (.list :: outer) r else .error .expectedListComma
        else skipLoop .value (.list :: outer) (b :: r)
    | .object :: outer =>
      match _hb : skipBlanks s with
      | [] => .error .endOfObject
      | b :: r =>
        if b = 0x7D then skipLoop (.next true) outer r
        else
          match _h : skipToMember started b r with
          | .error e => .error e
          | .ok r => skipLoop .value (.object :: outer) r
termination_by (s.length, seeking.rank)
decreasing_by
  all_goals
    have hs := length_skipBlanks_le s
    rw [_hb] at hs
    simp only [List.length_cons] at hs
  · exact Prod.Lex.left _ _ (by omega)
  · exact Prod.Lex.left _ _ (by omega)
  · have := length_skipScalar_lt _h
    simp only [List.length_cons] at this
    exact Prod.Lex.left _ _ (by omega)
  · exact Prod.Lex.left _ _ (by omega)
  · exact Prod.Lex.left _ _ (by omega)
  · rcases Nat.lt_or_eq_of_le hs with h | h
    · exact Prod.Lex.left _ _ (by simpa using h)
    · simp only [List.length_cons, h]
      exact Prod.Lex.right _ (by simp [Seeking.rank])
  · exact Prod.Lex.left _ _ (by omega)
  · have := length_skipToMember_lt _h
    simp only [List.length_cons] at this
    exact Prod.Lex.left _ _ (by omega)

theorem length_skipLoop_le {seeking : Seeking} {open_ : List Container} {s r : List UInt8}
    (h : skipLoop seeking open_ s = .ok r) : r.length + (1 - seeking.rank) ≤ s.length := by
  fun_induction skipLoop seeking open_ s with
  | case1 => cases h
  | case2 open_ s t hb ih =>
    have := ih h
    have hs := length_skipBlanks_le s
    rw [hb] at hs
    simp only [List.length_cons, Seeking.rank] at *
    omega
  | case3 open_ s t hb _ ih =>
    have := ih h
    have hs := length_skipBlanks_le s
    rw [hb] at hs
    simp only [List.length_cons, Seeking.rank] at *
    omega
  | case4 => cases h
  | case5 open_ s b t hb _ _ u hx ih =>
    have := ih h
    have hs := length_skipBlanks_le s
    have hu := length_skipScalar_lt hx
    rw [hb] at hs
    simp only [List.length_cons, Seeking.rank] at *
    omega
  | case6 s started =>
    simp only [Except.ok.injEq] at h
    rw [h]
    simp [Seeking.rank]
  | case7 => cases h
  | case8 s started outer t hb ih =>
    have := ih h
    have hs := length_skipBlanks_le s
    rw [hb] at hs
    simp only [List.length_cons, Seeking.rank] at *
    omega
  | case9 s outer t hb _ ih =>
    have := ih h
    have hs := length_skipBlanks_le s
    rw [hb] at hs
    simp only [List.length_cons, Seeking.rank] at *
    omega
  | case10 => cases h
  | case11 s started outer b t hb _ _ ih =>
    have := ih h
    have hs := length_skipBlanks_le s
    rw [hb] at hs
    simp only [List.length_cons, Seeking.rank] at *
    omega
  | case12 => cases h
  | case13 s started outer t hb ih =>
    have := ih h
    have hs := length_skipBlanks_le s
    rw [hb] at hs
    simp only [List.length_cons, Seeking.rank] at *
    omega
  | case14 => cases h
  | case15 s started outer b t hb _ u hx ih =>
    have := ih h
    have hs := length_skipBlanks_le s
    have hk := length_skipToMember_lt hx
    rw [hb] at hs
    simp only [List.length_cons, Seeking.rank] at *
    omega

/-- Pass over one value. -/
def skip (s : List UInt8) : Except Error (List UInt8) := skipLoop .value [] s

theorem length_skip_lt {s r : List UInt8} (h : skip s = .ok r) : r.length < s.length := by
  have := length_skipLoop_le h
  simp only [Seeking.rank] at this
  omega

end CloudGrant.Json
