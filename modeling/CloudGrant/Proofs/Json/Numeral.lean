import CloudGrant.Proofs.Text.Utf8
import CloudGrant.Proofs.Json.Grammar

/-!
# Reading numbers

Every number is read to its end, wherever a value may end (`numeral_of_form`), and the digits of an
integer of 64 bits have its value (`value_digits`, `value_negative`). What comes first in a value and
what behind it is here too, since a number has no byte of its own that ends it.
-/

namespace CloudGrant.Json

/-! ## Blanks -/

theorem skipBlanks_append {w : List UInt8} (hw : Blanks w) (s : List UInt8) :
    skipBlanks (w ++ s) = skipBlanks s := List.dropWhile_append_of_pos hw

theorem skipBlanks_cons {b : UInt8} (hb : isBlank b = false) (s : List UInt8) :
    skipBlanks (b :: s) = b :: s := List.dropWhile_cons_of_neg (by simp [hb])

/-- The first byte behind blanks. -/
theorem skipBlanks_to {w : List UInt8} (hw : Blanks w) {b : UInt8} (hb : isBlank b = false)
    (s : List UInt8) : skipBlanks (w ++ b :: s) = b :: s := by
  rw [skipBlanks_append hw, skipBlanks_cons hb]

theorem ends_nil : Ends [] := fun _ h => nomatch h

theorem ends_cons {b : UInt8} {s : List UInt8}
    (h : isBlank b = true ∨ b = 0x2C ∨ b = 0x5D ∨ b = 0x7D) : Ends (b :: s) := by
  rintro c ⟨⟩
  exact h

/-- Blanks before an end are an end. -/
theorem Ends.blanks {w s : List UInt8} (hw : Blanks w) (h : Ends s) : Ends (w ++ s) := by
  cases w with
  | nil => exact h
  | cons b w => exact ends_cons (.inl (hw b List.mem_cons_self))

/-! ## Starts and ends of parts -/

/-- The first byte is no blank and closes no list, so a value can start here. -/
def Starts (s : List UInt8) : Prop := ∃ b t, s = b :: t ∧ isBlank b = false ∧ b ≠ 0x5D

theorem starts_cons {b : UInt8} (hb : isBlank b = false) (hclose : b ≠ 0x5D) (s : List UInt8) :
    Starts (b :: s) := ⟨b, s, rfl, hb, hclose⟩

theorem ne_of_isDigit {b c : UInt8} (hb : isDigit b = true) (hc : isDigit c = false) : b ≠ c := by
  rintro rfl
  exact Bool.false_ne_true (hc.symm.trans hb)

theorem isBlank_of_isDigit {b : UInt8} (h : isDigit b = true) : isBlank b = false ∧ b ≠ 0x5D := by
  refine ⟨?_, ne_of_isDigit h (by decide)⟩
  simp only [isBlank, Bool.or_eq_false_iff, beq_eq_false_iff_ne]
  exact ⟨⟨⟨ne_of_isDigit h (by decide), ne_of_isDigit h (by decide)⟩,
    ne_of_isDigit h (by decide)⟩, ne_of_isDigit h (by decide)⟩

/-! ## Numbers -/

/-- The next byte is no digit. -/
def NoDigit (s : List UInt8) : Prop := ∀ b ∈ s.head?, isDigit b = false

theorem noDigit_cons {b : UInt8} (hb : isDigit b = false) (s : List UInt8) : NoDigit (b :: s) := by
  rintro c ⟨⟩
  exact hb

theorem isDigit_of_blank {b : UInt8} (h : isBlank b = true) : isDigit b = false := by
  rw [← Bool.not_eq_true]
  intro hdigit
  rw [(isBlank_of_isDigit hdigit).1] at h
  cases h

/-- A number ends where a value ends. -/
theorem Ends.noDigit {s : List UInt8} (h : Ends s) : NoDigit s := by
  intro b hb
  rcases h b hb with hblank | rfl | rfl | rfl
  · exact isDigit_of_blank hblank
  all_goals decide

theorem Ends.head_ne {s : List UInt8} (h : Ends s) {c : UInt8}
    (hc : isBlank c = false ∧ c ≠ 0x2C ∧ c ≠ 0x5D ∧ c ≠ 0x7D) : ∀ b ∈ s.head?, b ≠ c := by
  rintro b hb rfl
  rcases h b hb with hblank | hcomma | hlist | hobject
  · exact Bool.false_ne_true (hc.1.symm.trans hblank)
  · exact hc.2.1 hcomma
  · exact hc.2.2.1 hlist
  · exact hc.2.2.2 hobject

theorem digits_of_form {ds r : List UInt8} (h : Digits ds) (hr : NoDigit r) :
    digits (ds ++ r) = .ok (ds, r) := by
  obtain ⟨hne, hall⟩ := h
  have htake : (ds ++ r).takeWhile isDigit = ds := by
    rw [List.takeWhile_append_of_pos hall]
    cases r with
    | nil => exact List.append_nil ds
    | cons b r => rw [List.takeWhile_cons_of_neg (by simp [hr b rfl]), List.append_nil]
  have hdrop : (ds ++ r).dropWhile isDigit = r := by
    rw [List.dropWhile_append_of_pos hall]
    cases r with
    | nil => rfl
    | cons b r => exact List.dropWhile_cons_of_neg (by simp [hr b rfl])
  cases ds with
  | nil => exact absurd rfl hne
  | cons b ds =>
    rw [List.cons_append] at htake hdrop ⊢
    rw [digits, if_pos (hall b List.mem_cons_self), htake, hdrop]

theorem wholePart_of_form {ds r : List UInt8} (h : WholeForm ds) (hr : NoDigit r) :
    wholePart (ds ++ r) = .ok (ds, r) := by
  have hdigits : Digits ds := by
    cases h with
    | zero => exact ⟨by simp, fun b hb => by cases List.mem_singleton.mp hb; rfl⟩
    | digits h => exact h
  unfold wholePart
  rw [digits_of_form hdigits hr]
  simp only [bind, Except.bind]
  cases h with
  | zero => rfl
  | digits h hzero =>
    split
    · exact absurd rfl hzero
    · rfl

theorem fractionPart_absent {r : List UInt8} (hr : ∀ b ∈ r.head?, b ≠ 0x2E) :
    fractionPart r = .ok ([], r) := by
  unfold fractionPart
  split
  · exact absurd rfl (hr _ rfl)
  · rfl

theorem exponentPart_absent {r : List UInt8} (hr : ∀ b ∈ r.head?, b ≠ 0x65 ∧ b ≠ 0x45) :
    exponentPart r = .ok (none, r) := by
  cases r with
  | nil => rfl
  | cons b r => exact if_neg (not_or.mpr (hr b rfl))

theorem exponentPart_present {e : UInt8} {sign ds r : List UInt8} (he : e = 0x65 ∨ e = 0x45)
    (hsign : sign = [] ∨ sign = [0x2B] ∨ sign = [0x2D]) (h : Digits ds) (hr : NoDigit r) :
    exponentPart (e :: (sign ++ (ds ++ r))) = .ok (some (decide (sign = [0x2D]), ds), r) := by
  have hread : exponentSign (sign ++ (ds ++ r)) = (decide (sign = [0x2D]), ds ++ r) := by
    rcases hsign with rfl | rfl | rfl
    · -- a digit is no sign
      obtain ⟨hne, hall⟩ := h
      cases ds with
      | nil => exact absurd rfl hne
      | cons b ds =>
        have hb : isDigit b = true := hall b List.mem_cons_self
        rw [List.nil_append, List.cons_append]
        unfold exponentSign
        split
        · next heq =>
          cases heq
          exact absurd hb (by decide)
        · next heq =>
          cases heq
          exact absurd hb (by decide)
        · rfl
    · rfl
    · rfl
  rw [exponentPart, if_pos he, hread, digits_of_form h hr]
  rfl

/-- An integer is read as its digits. -/
theorem numeral_whole {ds r : List UInt8} (h : WholeForm ds) (hr : Ends r) (negative : Bool) :
    numeral negative (ds ++ r) = .ok (⟨negative, ds, [], none⟩, r) := by
  unfold numeral
  rw [wholePart_of_form h hr.noDigit]
  simp only [bind, Except.bind]
  rw [fractionPart_absent (hr.head_ne (by decide))]
  simp only
  rw [exponentPart_absent fun b hb => ⟨hr.head_ne (by decide) b hb, hr.head_ne (by decide) b hb⟩]

/-- **Every number is read to its end**, with parts that what follows has no say in. -/
theorem numeral_of_form {s : List UInt8} (h : NumeralForm s) (negative : Bool) :
    ∃ n, ∀ r, Ends r → numeral negative (s ++ r) = .ok (n, r) := by
  obtain ⟨hwhole, hfraction, hexponent⟩ := h
  rename_i whole fraction exponent
  -- each part ends where the next can start
  have hexp : ∃ x, ∀ r, Ends r → exponentPart (exponent ++ r) = .ok (x, r) := by
    cases hexponent with
    | absent =>
      exact ⟨none, fun r hr => exponentPart_absent fun b hb =>
        ⟨hr.head_ne (by decide) b hb, hr.head_ne (by decide) b hb⟩⟩
    | @present e sign ds he hsign h =>
      refine ⟨some (decide (sign = [0x2D]), ds), fun r hr => ?_⟩
      rw [List.cons_append, List.append_assoc]
      exact exponentPart_present he hsign h hr.noDigit
  have hexpHead : ∀ r, Ends r → ∀ b ∈ (exponent ++ r).head?, isDigit b = false ∧ b ≠ 0x2E := by
    intro r hr b hb
    cases hexponent with
    | absent => exact ⟨hr.noDigit b hb, hr.head_ne (by decide) b hb⟩
    | present he _ _ =>
      cases hb
      rcases he with rfl | rfl <;> decide
  have hfrac : ∃ fs, ∀ r, Ends r →
      fractionPart (fraction ++ (exponent ++ r)) = .ok (fs, exponent ++ r) := by
    cases hfraction with
    | absent =>
      exact ⟨[], fun r hr => fractionPart_absent fun b hb => (hexpHead r hr b hb).2⟩
    | present h => exact ⟨_, fun r hr => digits_of_form h fun b hb => (hexpHead r hr b hb).1⟩
  have hfracHead : ∀ r, Ends r → NoDigit (fraction ++ (exponent ++ r)) := by
    intro r hr
    cases hfraction with
    | absent => exact fun b hb => (hexpHead r hr b hb).1
    | present _ => exact noDigit_cons (by decide) _
  obtain ⟨x, hx⟩ := hexp
  obtain ⟨fs, hfs⟩ := hfrac
  refine ⟨⟨negative, whole, fs, x⟩, fun r hr => ?_⟩
  rw [List.append_assoc, List.append_assoc]
  unfold numeral
  rw [wholePart_of_form hwhole (hfracHead r hr)]
  simp only [bind, Except.bind, hfs r hr, hx r hr]

/-- The parts of a number are the same with and without what follows it. -/
theorem numeral_append {s r : List UInt8} {negative : Bool} {n : Numeral} (h : NumeralForm s)
    (hread : numeral negative s = .ok (n, [])) (hr : Ends r) :
    numeral negative (s ++ r) = .ok (n, r) := by
  obtain ⟨m, hm⟩ := numeral_of_form h negative
  have halone := hm [] ends_nil
  rw [List.append_nil] at halone
  cases halone.symm.trans hread
  exact hm r hr

theorem WholeForm.head {s : List UInt8} (h : WholeForm s) :
    ∃ b t, s = b :: t ∧ isDigit b = true := by
  cases h with
  | zero => exact ⟨0x30, [], rfl, by decide⟩
  | digits h _ =>
    obtain ⟨hne, hall⟩ := h
    cases s with
    | nil => exact absurd rfl hne
    | cons b t => exact ⟨b, t, rfl, hall b List.mem_cons_self⟩

/-- A number starts with a digit. -/
theorem NumeralForm.head {s : List UInt8} (h : NumeralForm s) :
    ∃ b t, s = b :: t ∧ isDigit b = true := by
  obtain ⟨hwhole, -, -⟩ := h
  obtain ⟨b, t, rfl, hb⟩ := hwhole.head
  exact ⟨b, _, rfl, hb⟩

/-! ## Integers -/

/-- The digits of a number, as bytes. -/
def digitBytes (n : Nat) : List UInt8 := (Nat.toDigits 10 n).map fun c => UInt8.ofNat c.toNat

theorem toNat_of_isDigit {c : Char} (h : c.isDigit = true) : 0x30 ≤ c.toNat ∧ c.toNat ≤ 0x39 := by
  simp only [Char.isDigit, Bool.and_eq_true, decide_eq_true_eq] at h
  exact ⟨UInt32.le_iff_toNat_le.mp h.1, UInt32.le_iff_toNat_le.mp h.2⟩

theorem mem_toDigits {n : Nat} {c : Char} (h : c ∈ Nat.toDigits 10 n) :
    0x30 ≤ c.toNat ∧ c.toNat ≤ 0x39 :=
  toNat_of_isDigit (Nat.isDigit_of_mem_toDigits (by omega) (by omega) h)

theorem encode_repr (n : Nat) : Text.Utf8.encode n.repr = digitBytes n := by
  have hone : ∀ cs : List Char, (∀ c ∈ cs, 0x30 ≤ c.toNat ∧ c.toNat ≤ 0x39) →
      cs.flatMap Text.Utf8.encodeChar = cs.map fun c => UInt8.ofNat c.toNat := by
    intro cs
    induction cs with
    | nil => exact fun _ => rfl
    | cons c cs ih =>
      intro hcs
      have hc := hcs c List.mem_cons_self
      have hbytes : Text.Utf8.encodeChar c = [UInt8.ofNat c.toNat] := if_pos (by omega)
      rw [List.flatMap_cons, hbytes, ih fun d hd => hcs d (List.mem_cons_of_mem _ hd)]
      rfl
  unfold Text.Utf8.encode digitBytes
  rw [Nat.repr_eq_ofList_toDigits, String.toList_ofList]
  exact hone _ fun c hc => mem_toDigits hc

theorem toNat_digitByte {c : Char} (h : 0x30 ≤ c.toNat ∧ c.toNat ≤ 0x39) :
    (UInt8.ofNat c.toNat).toNat = c.toNat := Text.Utf8.toNat_ofNat_of_lt (by omega)

theorem isDigit_digitByte {c : Char} (h : 0x30 ≤ c.toNat ∧ c.toNat ≤ 0x39) :
    isDigit (UInt8.ofNat c.toNat) = true := by
  simp only [isDigit, Bool.and_eq_true, decide_eq_true_eq, UInt8.le_iff_toNat_le,
    toNat_digitByte h]
  exact h

/-- Only zero is written with a leading zero. -/
theorem head_toDigits (n : Nat) (h : 0 < n) : (Nat.toDigits 10 n).head? ≠ some '0' := by
  induction n using Nat.strongRecOn with
  | ind n ih =>
    by_cases hn : n < 10
    · have hdigit : ∀ k < 10, 0 < k → some (Nat.digitChar k) ≠ some '0' := by decide
      rw [Nat.toDigits_of_lt_base hn]
      exact hdigit n hn h
    · have hrec := ih (n / 10) (by omega) (by omega)
      rw [Nat.toDigits_of_base_le (by omega) (by omega)]
      cases hcs : Nat.toDigits 10 (n / 10) with
      | nil => exact absurd hcs Nat.toDigits_ne_nil
      | cons c cs =>
        rw [hcs] at hrec
        exact hrec

theorem wholeForm_digitBytes (n : Nat) : WholeForm (digitBytes n) := by
  by_cases hn : n = 0
  · subst hn
    exact .zero
  refine .digits ⟨?_, ?_⟩ ?_
  · exact fun h => Nat.toDigits_ne_nil (List.map_eq_nil_iff.mp h)
  · intro b hb
    obtain ⟨c, hc, rfl⟩ := List.mem_map.mp hb
    exact isDigit_digitByte (mem_toDigits hc)
  · intro hhead
    have hne := head_toDigits n (by omega)
    rw [digitBytes, List.head?_map] at hhead
    obtain ⟨c, hc, hbyte⟩ := Option.map_eq_some_iff.mp hhead
    have hmem : c ∈ Nat.toDigits 10 n := List.mem_of_head? hc
    have htoNat : c.toNat = 0x30 := by
      rw [← toNat_digitByte (mem_toDigits hmem), hbyte]
      rfl
    exact hne (hc.trans (congrArg some (Char.toNat_inj.mp htoNat)))

theorem digitsValue_digitBytes (n : Nat) : digitsValue (digitBytes n) = n := by
  have hfold : ∀ (cs : List Char), (∀ c ∈ cs, 0x30 ≤ c.toNat ∧ c.toNat ≤ 0x39) → ∀ m,
      (cs.map fun c => UInt8.ofNat c.toNat).foldl (fun k b => k * 10 + digitValue b) m =
        Nat.ofDigitChars 10 cs m := by
    intro cs
    induction cs with
    | nil => exact fun _ _ => rfl
    | cons c cs ih =>
      intro hcs m
      have hc := toNat_digitByte (hcs c List.mem_cons_self)
      rw [List.map_cons, List.foldl_cons, ih fun d hd => hcs d (List.mem_cons_of_mem _ hd),
        Nat.ofDigitChars_cons, digitValue, hc, Nat.mul_comm]
      rfl
  exact (hfold _ (fun c hc => mem_toDigits hc) 0).trans Nat.ofDigitChars_ten_toDigits

/-- A number that is no integer below zero is written in digits. -/
theorem integerForm_ofNat {n : Nat} {s : List UInt8} (h : IntegerForm n s) : s = digitBytes n :=
  h.trans (encode_repr n)

/-- An integer below zero is written in digits behind a sign. -/
theorem integerForm_negSucc {n : Nat} {s : List UInt8} (h : IntegerForm (Int.negSucc n) s) :
    s = 0x2D :: digitBytes (n + 1) := by
  have hsign : Text.Utf8.encodeChar '-' = [0x2D] := rfl
  have htext : toString (Int.negSucc n) = "-" ++ (n + 1).repr := rfl
  rw [IntegerForm, htext, Text.Utf8.encode, String.toList_append, List.flatMap_append] at h
  rw [h, ← encode_repr]
  rfl

/-- **The digits of an integer of 64 bits are read as it.** -/
theorem value_digits {n : Nat} (h : n ≤ maxSignificand) :
    (Numeral.mk false (digitBytes n) [] none).value = .ok (.int n) := by
  unfold Numeral.value
  simp only [digitsValue_digitBytes]
  exact if_pos h

theorem value_negative {n : Nat} (h : n + 1 ≤ 0x8000000000000000) :
    (Numeral.mk true (digitBytes (n + 1)) [] none).value = .ok (.int (Int.negSucc n)) := by
  have hrange : n + 1 ≠ 0 ∧ n + 1 ≤ 0x8000000000000000 := ⟨by omega, h⟩
  unfold Numeral.value
  simp only [digitsValue_digitBytes]
  exact if_pos hrange

end CloudGrant.Json
