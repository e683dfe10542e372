import CloudGrant.Text.Utf8

/-!
# Reading back UTF-8

The strict reader gives back every text from its bytes (`decode?_encode`). The step of the reader is
followed for the four lengths of an encoded character; the narrowed ranges after `E0`, `ED`, `F0`
and `F4` are met because a character is neither below the range of its length nor a surrogate nor
above U+10FFFF. A byte of ASCII is never a part of a longer character, so the first and the last
character of a text can be told from its bytes (`toList_of_first`, `toList_of_last`).
-/

namespace CloudGrant.Text.Utf8

theorem toNat_ofNat_of_lt {n : Nat} (h : n < 256) : (UInt8.ofNat n).toNat = n := by
  rw [UInt8.toNat_ofNat']
  exact Nat.mod_eq_of_lt h

/-- The number of a character is no surrogate and at most U+10FFFF. -/
theorem toNat_bounds (c : Char) : c.toNat < 0xD800 ∨ (0xDFFF < c.toNat ∧ c.toNat < 0x110000) :=
  c.valid

/-- A lead byte whose second byte is in range starts a character of several bytes. -/
theorem step_of_lead {b c : UInt8} {l : Lead} {s : List UInt8} (hb : 0x80 ≤ b.toNat)
    (hl : lead? b = some l) (hlow : l.low.toNat ≤ c.toNat) (hhigh : c.toNat ≤ l.high.toNat) :
    step b (c :: s) =
      ((continuation l.more (push (leadBits b l.more) c) s).1.map Char.ofNat,
        (continuation l.more (push (leadBits b l.more) c) s).2) := by
  have hnot : ¬ b < 0x80 := by
    rw [UInt8.lt_iff_toNat_lt]
    exact Nat.not_lt.mpr hb
  unfold step
  rw [if_neg hnot, hl]
  exact if_pos ⟨UInt8.le_iff_toNat_le.mpr hlow, UInt8.le_iff_toNat_le.mpr hhigh⟩

/-- A continuation byte adds its six bits. -/
theorem continuation_succ {k n m : Nat} {s : List UInt8} (hm : m < 0x40) :
    continuation (k + 1) n (UInt8.ofNat (0x80 + m) :: s) = continuation k (n * 0x40 + m) s := by
  have htoNat : (UInt8.ofNat (0x80 + m)).toNat = 0x80 + m := toNat_ofNat_of_lt (by omega)
  have hrange : 0x80 ≤ UInt8.ofNat (0x80 + m) ∧ UInt8.ofNat (0x80 + m) ≤ 0xBF := by
    rw [UInt8.le_iff_toNat_le, UInt8.le_iff_toNat_le, htoNat]
    constructor
    · exact Nat.le_add_right _ _
    · show 0x80 + m ≤ 0xBF
      omega
  have hpush : push n (UInt8.ofNat (0x80 + m)) = n * 0x40 + m := by
    unfold push
    rw [htoNat]
    omega
  rw [continuation, if_pos hrange, hpush]

/-! ## Lead bytes -/

theorem eq_iff_toNat_eq {a b : UInt8} : a = b ↔ a.toNat = b.toNat := UInt8.toNat_inj.symm

theorem lead?_two {k : Nat} (h : 2 ≤ k) (hk : k < 0x20) :
    lead? (UInt8.ofNat (0xC0 + k)) = some ⟨0x80, 0xBF, 0⟩ := by
  have htoNat : (UInt8.ofNat (0xC0 + k)).toNat = 0xC0 + k := toNat_ofNat_of_lt (by omega)
  simp only [lead?, UInt8.lt_iff_toNat_lt, htoNat, UInt8.reduceToNat]
  rw [if_neg (show ¬ 0xC0 + k < 0xC2 by omega), if_pos (show 0xC0 + k < 0xE0 by omega)]

theorem lead?_three {k : Nat} (h : 1 ≤ k) (hk : k < 0x10) (hd : k ≠ 0xD) :
    lead? (UInt8.ofNat (0xE0 + k)) = some ⟨0x80, 0xBF, 1⟩ := by
  have htoNat : (UInt8.ofNat (0xE0 + k)).toNat = 0xE0 + k := toNat_ofNat_of_lt (by omega)
  simp only [lead?, UInt8.lt_iff_toNat_lt, eq_iff_toNat_eq, htoNat, UInt8.reduceToNat]
  rw [if_neg (show ¬ 0xE0 + k < 0xC2 by omega), if_neg (show ¬ 0xE0 + k < 0xE0 by omega),
    if_neg (show ¬ 0xE0 + k = 0xE0 by omega), if_neg (show ¬ 0xE0 + k = 0xED by omega),
    if_pos (show 0xE0 + k < 0xF0 by omega)]

theorem lead?_four {k : Nat} (h : 1 ≤ k) (hk : k < 4) :
    lead? (UInt8.ofNat (0xF0 + k)) = some ⟨0x80, 0xBF, 2⟩ := by
  have htoNat : (UInt8.ofNat (0xF0 + k)).toNat = 0xF0 + k := toNat_ofNat_of_lt (by omega)
  simp only [lead?, UInt8.lt_iff_toNat_lt, eq_iff_toNat_eq, htoNat, UInt8.reduceToNat]
  rw [if_neg (show ¬ 0xF0 + k < 0xC2 by omega), if_neg (show ¬ 0xF0 + k < 0xE0 by omega),
    if_neg (show ¬ 0xF0 + k = 0xE0 by omega), if_neg (show ¬ 0xF0 + k = 0xED by omega),
    if_neg (show ¬ 0xF0 + k < 0xF0 by omega), if_neg (show ¬ 0xF0 + k = 0xF0 by omega),
    if_pos (show 0xF0 + k < 0xF4 by omega)]

/-! ## Characters -/

/-- The bits of the first two bytes of a character. -/
theorem push_leadBits {lead more m : Nat} {b : UInt8} (hb : leadBits b more = lead)
    (hm : m < 0x40) : push (leadBits b more) (UInt8.ofNat (0x80 + m)) = lead * 0x40 + m := by
  have htoNat : (UInt8.ofNat (0x80 + m)).toNat = 0x80 + m := toNat_ofNat_of_lt (by omega)
  unfold push
  rw [hb, htoNat]
  omega

/-- A character of two bytes is read back. -/
theorem step_two {hi lo : Nat} {s : List UInt8} (h : 2 ≤ hi) (hhi : hi < 0x20) (hlo : lo < 0x40) :
    step (UInt8.ofNat (0xC0 + hi)) (UInt8.ofNat (0x80 + lo) :: s) =
      (some (Char.ofNat (hi * 0x40 + lo)), s) := by
  have hlead : (UInt8.ofNat (0xC0 + hi)).toNat = 0xC0 + hi := toNat_ofNat_of_lt (by omega)
  have hsecond : (UInt8.ofNat (0x80 + lo)).toNat = 0x80 + lo := toNat_ofNat_of_lt (by omega)
  have hbits : leadBits (UInt8.ofNat (0xC0 + hi)) 0 = hi := by
    unfold leadBits
    rw [hlead]
    show (0xC0 + hi) % 0x20 = hi
    omega
  rw [step_of_lead (by omega) (lead?_two h hhi) (by rw [hsecond]; show 0x80 ≤ _; omega)
    (by rw [hsecond]; show _ ≤ 0xBF; omega), push_leadBits hbits hlo]
  rfl

/-- A character of three bytes is read back, if its lead byte allows the second. -/
theorem step_three {hi mid lo : Nat} {l : Lead} {s : List UInt8} (hhi : hi < 0x10)
    (hmid : mid < 0x40) (hlo : lo < 0x40) (hl : lead? (UInt8.ofNat (0xE0 + hi)) = some l)
    (hmore : l.more = 1) (hlow : l.low.toNat ≤ 0x80 + mid) (hhigh : 0x80 + mid ≤ l.high.toNat) :
    step (UInt8.ofNat (0xE0 + hi)) (UInt8.ofNat (0x80 + mid) :: UInt8.ofNat (0x80 + lo) :: s) =
      (some (Char.ofNat ((hi * 0x40 + mid) * 0x40 + lo)), s) := by
  have hlead : (UInt8.ofNat (0xE0 + hi)).toNat = 0xE0 + hi := toNat_ofNat_of_lt (by omega)
  have hsecond : (UInt8.ofNat (0x80 + mid)).toNat = 0x80 + mid := toNat_ofNat_of_lt (by omega)
  have hbits : leadBits (UInt8.ofNat (0xE0 + hi)) 1 = hi := by
    unfold leadBits
    rw [hlead]
    show (0xE0 + hi) % 0x10 = hi
    omega
  rw [step_of_lead (by omega) hl (by omega) (by omega), hmore, push_leadBits hbits hmid,
    continuation_succ hlo]
  rfl

/-- A character of four bytes is read back, if its lead byte allows the second. -/
theorem step_four {hi mid low lo : Nat} {l : Lead} {s : List UInt8} (hhi : hi < 8)
    (hmid : mid < 0x40) (hlow' : low < 0x40) (hlo : lo < 0x40)
    (hl : lead? (UInt8.ofNat (0xF0 + hi)) = some l) (hmore : l.more = 2)
    (hlow : l.low.toNat ≤ 0x80 + mid) (hhigh : 0x80 + mid ≤ l.high.toNat) :
    step (UInt8.ofNat (0xF0 + hi))
        (UInt8.ofNat (0x80 + mid) :: UInt8.ofNat (0x80 + low) :: UInt8.ofNat (0x80 + lo) :: s) =
      (some (Char.ofNat (((hi * 0x40 + mid) * 0x40 + low) * 0x40 + lo)), s) := by
  have hlead : (UInt8.ofNat (0xF0 + hi)).toNat = 0xF0 + hi := toNat_ofNat_of_lt (by omega)
  have hsecond : (UInt8.ofNat (0x80 + mid)).toNat = 0x80 + mid := toNat_ofNat_of_lt (by omega)
  have hbits : leadBits (UInt8.ofNat (0xF0 + hi)) 2 = hi := by
    unfold leadBits
    rw [hlead]
    show (0xF0 + hi) % 0x08 = hi
    omega
  rw [step_of_lead (by omega) hl (by omega) (by omega), hmore, push_leadBits hbits hmid,
    continuation_succ hlow', continuation_succ hlo]
  rfl

/-- **A character is read back from its bytes, whatever follows.** -/
theorem step_encodeChar (c : Char) (s : List UInt8) :
    ∃ b t, encodeChar c = b :: t ∧ step b (t ++ s) = (some c, s) := by
  have hc : Char.ofNat c.toNat = c := Char.ofNat_toNat c
  have hbounds := toNat_bounds c
  unfold encodeChar
  generalize c.toNat = n at hc hbounds ⊢
  dsimp only
  -- one case for each length; the ranges that a lead byte narrows are met by `toNat_bounds`
  split
  · next h =>
    refine ⟨_, _, rfl, ?_⟩
    have hn : (UInt8.ofNat n).toNat = n := toNat_ofNat_of_lt (by omega)
    have hlt : UInt8.ofNat n < 0x80 := by
      rw [UInt8.lt_iff_toNat_lt, hn]
      exact h
    unfold step
    rw [if_pos hlt, hn, hc]
    rfl
  split
  · next h₁ h₂ =>
    refine ⟨_, _, rfl, ?_⟩
    refine (step_two (by omega) (by omega) (by omega)).trans ?_
    rw [show n / 0x40 * 0x40 + n % 0x40 = n by omega, hc]
    rfl
  split
  · next h₁ h₂ h₃ =>
    refine ⟨_, _, rfl, ?_⟩
    have hread : ∀ {l}, lead? (UInt8.ofNat (0xE0 + n / 0x1000)) = some l → l.more = 1 →
        l.low.toNat ≤ 0x80 + n / 0x40 % 0x40 → 0x80 + n / 0x40 % 0x40 ≤ l.high.toNat →
        step (UInt8.ofNat (0xE0 + n / 0x1000))
          ([UInt8.ofNat (0x80 + n / 0x40 % 0x40), UInt8.ofNat (0x80 + n % 0x40)] ++ s) =
            (some c, s) := by
      intro l hl hmore hlow hhigh
      refine (step_three (by omega) (by omega) (by omega) hl hmore hlow hhigh).trans ?_
      rw [show (n / 0x1000 * 0x40 + n / 0x40 % 0x40) * 0x40 + n % 0x40 = n by omega, hc]
      rfl
    by_cases hzero : n / 0x1000 = 0
    · have hlead : lead? (UInt8.ofNat (0xE0 + n / 0x1000)) = some ⟨0xA0, 0xBF, 1⟩ := by
        rw [hzero]
        rfl
      exact hread hlead rfl (show 0xA0 ≤ _ by omega) (show _ ≤ 0xBF by omega)
    by_cases hd : n / 0x1000 = 0xD
    · have hlead : lead? (UInt8.ofNat (0xE0 + n / 0x1000)) = some ⟨0x80, 0x9F, 1⟩ := by
        rw [hd]
        rfl
      exact hread hlead rfl (show 0x80 ≤ _ by omega) (show _ ≤ 0x9F by omega)
    · exact hread (lead?_three (by omega) (by omega) hd) rfl (show 0x80 ≤ _ by omega)
        (show _ ≤ 0xBF by omega)
  · next h₁ h₂ h₃ =>
    refine ⟨_, _, rfl, ?_⟩
    have hread : ∀ {l}, lead? (UInt8.ofNat (0xF0 + n / 0x40000)) = some l → l.more = 2 →
        l.low.toNat ≤ 0x80 + n / 0x1000 % 0x40 → 0x80 + n / 0x1000 % 0x40 ≤ l.high.toNat →
        step (UInt8.ofNat (0xF0 + n / 0x40000))
          ([UInt8.ofNat (0x80 + n / 0x1000 % 0x40), UInt8.ofNat (0x80 + n / 0x40 % 0x40),
            UInt8.ofNat (0x80 + n % 0x40)] ++ s) = (some c, s) := by
      intro l hl hmore hlow hhigh
      refine (step_four (by omega) (by omega) (by omega) (by omega) hl hmore hlow hhigh).trans ?_
      rw [show ((n / 0x40000 * 0x40 + n / 0x1000 % 0x40) * 0x40 + n / 0x40 % 0x40) * 0x40
        + n % 0x40 = n by omega, hc]
      rfl
    by_cases hzero : n / 0x40000 = 0
    · have hlead : lead? (UInt8.ofNat (0xF0 + n / 0x40000)) = some ⟨0x90, 0xBF, 2⟩ := by
        rw [hzero]
        rfl
      exact hread hlead rfl (show 0x90 ≤ _ by omega) (show _ ≤ 0xBF by omega)
    by_cases hfour : n / 0x40000 = 4
    · have hlead : lead? (UInt8.ofNat (0xF0 + n / 0x40000)) = some ⟨0x80, 0x8F, 2⟩ := by
        rw [hfour]
        rfl
      exact hread hlead rfl (show 0x80 ≤ _ by omega) (show _ ≤ 0x8F by omega)
    · exact hread (lead?_four (by omega) (by omega)) rfl (show 0x80 ≤ _ by omega)
        (show _ ≤ 0xBF by omega)

/-! ## Texts -/

theorem readOnto_encode (acc : List (Option Char)) (cs : List Char) :
    readOnto acc (cs.flatMap encodeChar) = acc.reverse ++ cs.map some := by
  induction cs generalizing acc with
  | nil =>
    rw [List.flatMap_nil, readOnto]
    exact (List.append_nil _).symm
  | cons c cs ih =>
    obtain ⟨b, t, hc, hstep⟩ := step_encodeChar c (cs.flatMap encodeChar)
    rw [List.flatMap_cons, hc, List.cons_append, readOnto, hstep, ih]
    simp

/-- **Every text is read back from its bytes.** -/
theorem decode?_encode (s : String) : decode? (encode s) = some s := by
  have hread : read (encode s) = s.toList.map some := readOnto_encode [] s.toList
  have hall : ∀ cs : List Char, (cs.map some).mapM id = some cs := by
    intro cs
    induction cs with
    | nil => rfl
    | cons c cs ih =>
      rw [List.map_cons, List.mapM_cons, ih]
      rfl
  unfold decode?
  rw [hread, hall]
  exact congrArg some (String.ofList_toList)

/-- Texts of the same bytes are the same text. -/
theorem encode_injective {s t : String} (h : encode s = encode t) : s = t := by
  have hdecode := decode?_encode s
  rw [h, decode?_encode] at hdecode
  exact (Option.some.inj hdecode).symm

/-- Bytes of ASCII are the bytes of the characters with their numbers. -/
theorem encode_of_ascii {bytes : List UInt8} (h : ∀ b ∈ bytes, b < 0x80) :
    encode (String.ofList (bytes.map fun b => Char.ofNat b.toNat)) = bytes := by
  unfold encode
  rw [String.toList_ofList, List.flatMap_map]
  induction bytes with
  | nil => rfl
  | cons b bytes ih =>
    obtain ⟨hb, hbytes⟩ := List.forall_mem_cons.mp h
    have hlt : b.toNat < 0x80 := UInt8.lt_iff_toNat_lt.mp hb
    have htoNat : (Char.ofNat b.toNat).toNat = b.toNat := by
      unfold Char.ofNat
      rw [dif_pos (.inl (Nat.lt_trans hlt (by decide)))]
      rfl
    have hchar : encodeChar (Char.ofNat b.toNat) = [b] := by
      unfold encodeChar
      rw [htoNat]
      simp [hlt]
    rw [List.flatMap_cons, hchar, ih hbytes]
    rfl

/-! ## The first and the last byte -/

/-- A byte of ASCII stands only in the character of its number. -/
theorem toNat_of_mem_encodeChar {b : UInt8} {c : Char} (hb : b ∈ encodeChar c)
    (h : b.toNat < 0x80) : c.toNat = b.toNat := by
  have hbounds := toNat_bounds c
  -- all bytes of a longer character are above
  have hlong : ∀ k, 0x80 ≤ k → k < 0x100 → b ≠ UInt8.ofNat k := by
    rintro k hk hk' rfl
    rw [toNat_ofNat_of_lt hk'] at h
    omega
  unfold encodeChar at hb
  generalize c.toNat = n at hb hbounds ⊢
  dsimp only at hb
  split at hb
  · rw [List.mem_singleton.mp hb, toNat_ofNat_of_lt (by omega)]
  split at hb
  · simp only [List.mem_cons, List.not_mem_nil, or_false] at hb
    rcases hb with hb | hb <;> exact absurd hb (hlong _ (by omega) (by omega))
  split at hb
  · simp only [List.mem_cons, List.not_mem_nil, or_false] at hb
    rcases hb with hb | hb | hb <;> exact absurd hb (hlong _ (by omega) (by omega))
  · simp only [List.mem_cons, List.not_mem_nil, or_false] at hb
    rcases hb with hb | hb | hb | hb <;> exact absurd hb (hlong _ (by omega) (by omega))

theorem encodeChar_ne_nil (c : Char) : encodeChar c ≠ [] := by
  unfold encodeChar
  dsimp only
  repeat' split
  all_goals exact List.cons_ne_nil _ _

/-- A character of ASCII is told by its byte. -/
theorem eq_of_mem_encodeChar {c d : Char} (hd : d.toNat < 0x80)
    (h : UInt8.ofNat d.toNat ∈ encodeChar c) : c = d := by
  have hbyte : (UInt8.ofNat d.toNat).toNat = d.toNat := toNat_ofNat_of_lt (by omega)
  have hc := toNat_of_mem_encodeChar h (by omega)
  exact Char.toNat_inj.mp (hc.trans hbyte)

variable {s : String} {d : Char} {t : List UInt8}

/-- **The first byte tells the first character**, if it is of ASCII. -/
theorem toList_of_first (hd : d.toNat < 0x80) (h : encode s = UInt8.ofNat d.toNat :: t) :
    ∃ cs, s.toList = d :: cs := by
  unfold encode at h
  cases hs : s.toList with
  | nil =>
    rw [hs] at h
    cases h
  | cons c cs =>
    rw [hs, List.flatMap_cons] at h
    cases hc : encodeChar c with
    | nil => exact absurd hc (encodeChar_ne_nil c)
    | cons b bs =>
      rw [hc] at h
      cases h
      exact ⟨cs, congrArg (· :: cs) (eq_of_mem_encodeChar hd (hc ▸ List.mem_cons_self))⟩

/-- **The last byte tells the last character**, if it is of ASCII. -/
theorem toList_of_last (hd : d.toNat < 0x80) (h : encode s = t ++ [UInt8.ofNat d.toNat]) :
    ∃ cs, s.toList = cs ++ [d] := by
  unfold encode at h
  rcases List.eq_nil_or_concat s.toList with hs | ⟨cs, c, hs⟩
  · rw [hs] at h
    exact absurd h.symm (List.append_ne_nil_of_right_ne_nil _ (List.cons_ne_nil _ _))
  · rw [List.concat_eq_append] at hs
    rw [hs, List.flatMap_append, List.flatMap_singleton] at h
    rcases List.eq_nil_or_concat (encodeChar c) with hc | ⟨bs, b, hc⟩
    · exact absurd hc (encodeChar_ne_nil c)
    · rw [List.concat_eq_append] at hc
      rw [hc, ← List.append_assoc] at h
      have hlast := List.append_inj_right' h rfl
      have hmem : UInt8.ofNat d.toNat ∈ encodeChar c := by
        rw [hc, hlast]
        exact List.mem_append_right _ List.mem_cons_self
      exact ⟨cs, by rw [hs, eq_of_mem_encodeChar hd hmem]⟩

end CloudGrant.Text.Utf8
