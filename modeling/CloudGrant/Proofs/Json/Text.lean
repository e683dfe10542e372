import CloudGrant.Proofs.Json.Grammar
import CloudGrant.Proofs.Text.Utf8

/-!
# Reading back a text in quotes

A text is read from any of its forms, whatever follows the closing quote (`text_keyForm`).

A character is escaped or stands for itself. The escapes are followed one by one; a character that
stands for itself has only bytes that are no quote, no backslash and no control, since all bytes of
a character above U+007F are above `7F`.
-/

namespace CloudGrant.Json

open Text.Utf8

/-- The bytes of some characters. -/
def bytes (cs : List Char) : List UInt8 := cs.flatMap encodeChar

@[simp] theorem bytes_nil : bytes [] = [] := rfl

@[simp] theorem bytes_cons (c : Char) (cs : List Char) :
    bytes (c :: cs) = encodeChar c ++ bytes cs :=
  List.flatMap_cons

@[simp] theorem bytes_append (cs ds : List Char) : bytes (cs ++ ds) = bytes cs ++ bytes ds :=
  List.flatMap_append

/-! ## Bytes that stand for themselves -/

theorem textOnto_plain {acc s : List UInt8} {b : UInt8} (hb : IsPlain b) :
    textOnto acc (b :: s) = textOnto (b :: acc) s := by
  obtain ⟨hquote, hback, hcontrol⟩ := hb
  rw [textOnto, if_neg hquote, if_neg hback, if_neg hcontrol]

theorem textOnto_plains {acc bs s : List UInt8} (hb : ∀ b ∈ bs, IsPlain b) :
    textOnto acc (bs ++ s) = textOnto (bs.reverse ++ acc) s := by
  induction bs generalizing acc with
  | nil => rfl
  | cons b bs ih =>
    rw [List.cons_append, textOnto_plain (hb b List.mem_cons_self),
      ih fun b hb' => hb b (List.mem_cons_of_mem _ hb')]
    simp

theorem isPlain_of_toNat {b : UInt8} (hcontrol : 0x20 ≤ b.toNat) (hquote : b.toNat ≠ 0x22)
    (hback : b.toNat ≠ 0x5C) : IsPlain b := by
  refine ⟨?_, ?_, ?_⟩
  · rintro rfl
    exact hquote rfl
  · rintro rfl
    exact hback rfl
  · rw [UInt8.lt_iff_toNat_lt]
    exact Nat.not_lt.mpr hcontrol

/-- All bytes of a character of several bytes are above `7F`. -/
theorem isPlain_ofNat {n : Nat} (h : 0x80 ≤ n) (hn : n < 256) : IsPlain (UInt8.ofNat n) := by
  have htoNat : (UInt8.ofNat n).toNat = n := toNat_ofNat_of_lt hn
  exact isPlain_of_toNat (by omega) (by omega) (by omega)

/-- A character that is not escaped has plain bytes. -/
theorem isPlain_encodeChar {c : Char} (hcontrol : 0x20 ≤ c.toNat) (hquote : c.toNat ≠ 0x22)
    (hback : c.toNat ≠ 0x5C) : ∀ b ∈ encodeChar c, IsPlain b := by
  have hbounds := toNat_bounds c
  unfold encodeChar
  generalize c.toNat = n at hcontrol hquote hback hbounds ⊢
  dsimp only
  split
  · intro b hb
    cases List.mem_singleton.mp hb
    have htoNat : (UInt8.ofNat n).toNat = n := toNat_ofNat_of_lt (by omega)
    exact isPlain_of_toNat (by omega) (by omega) (by omega)
  split
  · simp only [List.forall_mem_cons]
    exact ⟨isPlain_ofNat (by omega) (by omega), isPlain_ofNat (by omega) (by omega), by simp⟩
  split
  · simp only [List.forall_mem_cons]
    exact ⟨isPlain_ofNat (by omega) (by omega), isPlain_ofNat (by omega) (by omega),
      isPlain_ofNat (by omega) (by omega), by simp⟩
  · simp only [List.forall_mem_cons]
    exact ⟨isPlain_ofNat (by omega) (by omega), isPlain_ofNat (by omega) (by omega),
      isPlain_ofNat (by omega) (by omega), isPlain_ofNat (by omega) (by omega), by simp⟩

theorem isPlain_of_ne {c : Char} (hcontrol : 0x20 ≤ c.toNat) (hquote : c ≠ '"')
    (hback : c ≠ '\\') : ∀ b ∈ encodeChar c, IsPlain b :=
  isPlain_encodeChar hcontrol (fun he => hquote (Char.toNat_inj.mp he))
    fun he => hback (Char.toNat_inj.mp he)

/-! ## Escapes -/

/-- What was escaped is read as its bytes. -/
theorem textOnto_escaped {acc s bs r : List UInt8} (h : escaped s = .ok (bs, r)) :
    textOnto acc (0x5C :: s) = textOnto (bs.reverse ++ acc) r := by
  rw [textOnto, if_neg (by decide), if_pos rfl]
  split
  · next e he =>
    rw [h] at he
    cases he
  · next bs' r' he =>
    rw [h] at he
    cases he
    rfl

theorem hexValue?_hexDigit : ∀ k < 16,
    hexValue? (UInt8.ofNat (hexDigit k).toNat) = some k ∧
      hexValue? (UInt8.ofNat (hexDigit k).toUpper.toNat) = some k := by decide

theorem hexValue?_of_form {k : Nat} {b : UInt8} (h : HexForm k b) : hexValue? b = some k := by
  obtain ⟨hk, rfl | rfl⟩ := h
  · exact (hexValue?_hexDigit k hk).1
  · exact (hexValue?_hexDigit k hk).2

/-- Four digits are read as their value. -/
theorem hexUnit_of_form {n : Nat} {u : List UInt8} (h : UnitForm n u) (s : List UInt8) :
    hexUnit (u ++ s) = .ok (n, s) := by
  obtain ⟨ha, hb, hc, hd⟩ := h
  simp only [List.cons_append, List.nil_append, hexUnit, hexValue?_of_form ha,
    hexValue?_of_form hb, hexValue?_of_form hc, hexValue?_of_form hd]

/-- A letter after a backslash stands for one byte, its character's. -/
theorem simpleEscape?_of_named : ∀ e ∈ namedEscapes,
    e.1 ≠ 0x75 ∧ ∃ b, simpleEscape? e.1 = some b ∧ encodeChar e.2 = [b] := by
  intro e he
  simp only [namedEscapes, List.mem_cons, List.not_mem_nil, or_false] at he
  rcases he with rfl | rfl | rfl | rfl | rfl | rfl | rfl | rfl <;> exact ⟨by decide, _, rfl, rfl⟩

theorem escaped_named {b : UInt8} {c : Char} (h : (b, c) ∈ namedEscapes) (s : List UInt8) :
    escaped (b :: s) = .ok (encodeChar c, s) := by
  obtain ⟨hb, x, hx, hbytes⟩ := simpleEscape?_of_named _ h
  rw [escaped, if_neg hb, hx, hbytes]

theorem escaped_unit {c : Char} {u : List UInt8} (h : UnitForm c.toNat u) (s : List UInt8) :
    escaped (0x75 :: (u ++ s)) = .ok (encodeChar c, s) := by
  have hbounds := toNat_bounds c
  rw [escaped, if_pos rfl, hexUnit_of_form h]
  simp only [bind, Except.bind]
  rw [if_neg (by omega), if_neg (by omega), Char.ofNat_toNat]

theorem lowSurrogate_of_form {high low : Nat} {u : List UInt8} (h : UnitForm low u)
    (hle : 0xDC00 ≤ low) (hge : low ≤ 0xDFFF) (s : List UInt8) :
    lowSurrogate high (0x5C :: 0x75 :: (u ++ s)) =
      .ok (encodeChar (Char.ofNat (0x10000 + (high - 0xD800) * 0x400 + (low - 0xDC00))), s) := by
  rw [lowSurrogate, hexUnit_of_form h]
  simp only [bind, Except.bind]
  rw [if_pos ⟨hle, hge⟩]

/-- Two halves are read as the character they were made from. -/
theorem escaped_halves {c : Char} {high low : List UInt8} (habove : 0x10000 ≤ c.toNat)
    (hhigh : UnitForm (0xD800 + (c.toNat - 0x10000) / 0x400) high)
    (hlow : UnitForm (0xDC00 + (c.toNat - 0x10000) % 0x400) low) (s : List UInt8) :
    escaped (0x75 :: (high ++ 0x5C :: 0x75 :: (low ++ s))) = .ok (encodeChar c, s) := by
  have hbounds := toNat_bounds c
  -- both halves as numbers of their own, within the range of each
  obtain ⟨m, hm⟩ : ∃ m, m = 0xD800 + (c.toNat - 0x10000) / 0x400 := ⟨_, rfl⟩
  obtain ⟨n, hn⟩ : ∃ n, n = 0xDC00 + (c.toNat - 0x10000) % 0x400 := ⟨_, rfl⟩
  rw [← hm] at hhigh
  rw [← hn] at hlow
  have hnot : ¬ (0xDC00 ≤ m ∧ m ≤ 0xDFFF) := by omega
  have hfirst : 0xD800 ≤ m ∧ m ≤ 0xDBFF := by omega
  have hc : 0x10000 + (m - 0xD800) * 0x400 + (n - 0xDC00) = c.toNat := by omega
  rw [escaped, if_pos rfl, hexUnit_of_form hhigh]
  simp only [bind, Except.bind]
  rw [if_neg hnot, if_pos hfirst, lowSurrogate_of_form hlow (by omega) (by omega), hc,
    Char.ofNat_toNat]

/-! ## Texts -/

/-- **One character is read from any of its forms.** -/
theorem textOnto_charForm {c : Char} {t : List UInt8} (h : CharForm c t) (acc s : List UInt8) :
    textOnto acc (t ++ s) = textOnto ((encodeChar c).reverse ++ acc) s := by
  cases h with
  | plain hcontrol hquote hback => exact textOnto_plains (isPlain_of_ne hcontrol hquote hback)
  | named h => exact textOnto_escaped (escaped_named h s)
  | unit h => exact textOnto_escaped (escaped_unit h s)
  | halves habove hhigh hlow =>
    refine (congrArg (textOnto acc) ?_).trans (textOnto_escaped (escaped_halves habove hhigh hlow s))
    simp only [List.cons_append, List.append_assoc]

theorem textOnto_charsForm {cs : List Char} {t : List UInt8} (h : CharsForm cs t)
    (acc s : List UInt8) :
    textOnto acc (t ++ s) = textOnto ((bytes cs).reverse ++ acc) s := by
  induction h generalizing acc with
  | nil => rfl
  | cons head _ ih =>
    rw [List.append_assoc, textOnto_charForm head, ih, bytes_cons, List.reverse_append,
      List.append_assoc]

/-- **Every text is read from any of its forms**, after the opening quote. -/
theorem text_keyForm {t : String} {k : List UInt8} (h : KeyForm t k) (s : List UInt8) :
    text (k ++ 0x22 :: s) = .ok (t, s) := by
  have hend : textOnto (bytes t.toList).reverse (0x22 :: s) = .ok (bytes t.toList, s) := by
    rw [textOnto, if_pos rfl, List.reverse_reverse]
  have hread : textOnto [] (k ++ 0x22 :: s) = .ok (bytes t.toList, s) := by
    rw [textOnto_charsForm h, List.append_nil]
    exact hend
  have hdecode : decode? (bytes t.toList) = some t := decode?_encode t
  unfold text
  rw [hread]
  simp only [bind, Except.bind, hdecode]

/-! ## Texts that nobody looks at -/

theorem quotable_plains {bs s : List UInt8} (hb : ∀ b ∈ bs, IsPlain b) (hs : Quotable s) :
    Quotable (bs ++ s) := by
  induction bs with
  | nil => exact hs
  | cons b bs ih =>
    obtain ⟨hfirst, hrest⟩ := List.forall_mem_cons.mp hb
    exact .plain hfirst (ih hrest)

theorem CharForm.quotable {c : Char} {t s : List UInt8} (h : CharForm c t) (hs : Quotable s) :
    Quotable (t ++ s) := by
  cases h with
  | plain hcontrol hquote hback => exact quotable_plains (isPlain_of_ne hcontrol hquote hback) hs
  | named h => exact .named h hs
  | unit h => exact .unit h hs
  | halves _ hhigh hlow =>
    simp only [List.cons_append, List.append_assoc]
    exact .unit hhigh (.unit hlow hs)

theorem KeyForm.quotable {t : String} {s : List UInt8} (h : KeyForm t s) : Quotable s := by
  unfold KeyForm at h
  generalize t.toList = cs at h
  induction h with
  | nil => exact .nil
  | cons head _ ih => exact head.quotable ih

/-- Whatever is a text can be passed over. -/
theorem TextForm.valid {t : String} {s : List UInt8} (h : TextForm t s) : Valid s := by
  obtain ⟨h⟩ := h
  exact .text h.quotable

/-! ## Values that nobody looks at -/

/-- The parts of a list or an object, taken as something else. -/
theorem Series.parts {α β : Type} {P : α → List UInt8 → Prop} {Q : β → List UInt8 → Prop}
    {R : β → Prop} {close : UInt8} {started : Bool} {as : List α} {s : List UInt8}
    (h : Series close P started as s) (hpart : ∀ a t, P a t → ∃ b, Q b t ∧ R b) :
    ∃ bs, Series close Q started bs s ∧ ∀ b ∈ bs, R b := by
  induction h with
  | close hw => exact ⟨[], .close hw, by simp⟩
  | first hw head _ ih =>
    obtain ⟨b, hb, hR⟩ := hpart _ _ head
    obtain ⟨bs, hbs, hall⟩ := ih
    exact ⟨b :: bs, .first hw hb hbs, List.forall_mem_cons.mpr ⟨hR, hall⟩⟩
  | next hw hw' head _ ih =>
    obtain ⟨b, hb, hR⟩ := hpart _ _ head
    obtain ⟨bs, hbs, hall⟩ := ih
    exact ⟨b :: bs, .next hw hw' hb hbs, List.forall_mem_cons.mpr ⟨hR, hall⟩⟩

theorem ScalarForm.valid {v : Value} {s : List UInt8} (h : ScalarForm v s) : Valid s := by
  cases h with
  | null => exact .null
  | «true» => exact .true
  | «false» => exact .false
  | numeral h => exact .numeral h
  | negative h => exact .negative h
  | text h => exact h.valid

/-- **Every way to write a value is JSON.** -/
theorem ValueForm.valid {depth : Nat} {v : Value} {s : List UInt8} (h : ValueForm depth v s) :
    Valid s := by
  induction depth generalizing v s with
  | zero => exact ScalarForm.valid h
  | succ depth ih =>
    cases h with
    | scalar h => exact h.valid
    | list h =>
      obtain ⟨h⟩ := h
      obtain ⟨items, hitems, hvalid⟩ := h.parts fun _ t ht => ⟨t, rfl, ih ht⟩
      exact .list hvalid hitems
    | object h =>
      obtain ⟨h⟩ := h
      obtain ⟨ms, hms, hvalid⟩ := h.parts (Q := MemberForm Eq Eq)
        (R := fun m => Quotable m.1 ∧ Valid m.2) fun _ _ ht => by
          obtain ⟨hkey, hw, hw', hvalue⟩ := ht
          exact ⟨(_, _), .intro rfl hw hw' rfl, hkey.quotable, ih hvalue⟩
      exact .object (fun m hm => (hvalid m hm).1) (fun m hm => (hvalid m hm).2) hms

end CloudGrant.Json
