import CloudGrant.Proofs.Json.Numeral
import CloudGrant.Proofs.Json.Text

/-!
# Passing over values

Every JSON value is passed over, whatever it holds and however deep it is nested (`skip_valid`). The
containers that are open stand on a stack, so the induction is on the value with any stack under it:
a value is behind us when the next item of the innermost container is looked for.
-/

namespace CloudGrant.Json

section Series

variable {α : Type} {P : α → List UInt8 → Prop} {close : UInt8} {as : List α} {s : List UInt8}

/-- What follows a part of a list or an object. -/
theorem Series.ends (hclose : close = 0x5D ∨ close = 0x7D) (h : Series close P true as s)
    (r : List UInt8) : Ends (s ++ r) := by
  cases h with
  | close hw =>
    rw [List.append_assoc]
    exact .blanks hw (ends_cons (.inr (.inr hclose)))
  | next hw =>
    rw [List.append_assoc]
    exact .blanks hw (ends_cons (.inr (.inl rfl)))

/-- A list or an object ends with the byte that closes it. -/
theorem Series.last {started : Bool} (h : Series close P started as s) :
    ∃ t, s = t ++ [close] := by
  induction h with
  | @close _ w _ => exact ⟨w, rfl⟩
  | @first w s _ _ _ _ _ _ ih =>
    obtain ⟨u, rfl⟩ := ih
    exact ⟨w ++ (s ++ u), by simp⟩
  | @next w w' s _ _ _ _ _ _ _ ih =>
    obtain ⟨u, rfl⟩ := ih
    exact ⟨w ++ 0x2C :: (w' ++ (s ++ u)), by simp⟩

end Series

/-! ## Words and texts -/

theorem word_append : ∀ letters r : List UInt8, word letters (letters ++ r) = .ok r
  | [], r => by rw [List.nil_append, word]
  | a :: letters, r => by rw [List.cons_append, word, if_pos rfl, word_append letters r]

theorem skipEscape_named {b : UInt8} {c : Char} (h : (b, c) ∈ namedEscapes) (s : List UInt8) :
    skipEscape (b :: s) = .ok s := by
  obtain ⟨hb, x, hx, -⟩ := simpleEscape?_of_named _ h
  rw [skipEscape, if_neg hb, hx]
  rfl

theorem skipEscape_unit {n : Nat} {u : List UInt8} (h : UnitForm n u) (s : List UInt8) :
    skipEscape (0x75 :: (u ++ s)) = .ok s := by
  rw [skipEscape, if_pos rfl, hexUnit_of_form h]
  rfl

theorem skipText_escape {s r : List UInt8} (h : skipEscape s = .ok r) :
    skipText (0x5C :: s) = skipText r := by
  rw [skipText, if_neg (by decide), if_pos rfl]
  split
  · next e he => cases he.symm.trans h
  · next r' he =>
    cases he.symm.trans h
    rfl

/-- What stands between quotes is passed over with the closing quote. -/
theorem skipText_quotable {s : List UInt8} (h : Quotable s) (r : List UInt8) :
    skipText (s ++ 0x22 :: r) = .ok r := by
  induction h with
  | nil => rw [List.nil_append, skipText, if_pos rfl]
  | plain h _ ih =>
    obtain ⟨hquote, hback, hcontrol⟩ := h
    rw [List.cons_append, skipText, if_neg hquote, if_neg hback, if_neg hcontrol, ih]
  | named h _ ih => exact (skipText_escape (skipEscape_named h _)).trans ih
  | unit h _ ih =>
    rw [List.cons_append, List.cons_append, List.append_assoc,
      skipText_escape (skipEscape_unit h _), ih]

/-! ## Lists and objects that are open -/

variable {w r s t : List UInt8} {stack : List Container} {started : Bool}

/-- A turn of the loop that looks for a value. -/
theorem skipLoop_value {b : UInt8} (h : skipBlanks s = b :: t) :
    skipLoop .value stack s =
      if b = 0x5B then skipLoop (.next false) (.list :: stack) t
      else if b = 0x7B then skipLoop (.next false) (.object :: stack) t
      else skipScalar b t >>= skipLoop (.next true) stack := by
  conv =>
    lhs
    rw [skipLoop]
  split
  · next heq => cases heq.symm.trans h
  · next heq =>
    cases heq.symm.trans h
    congr 2
    split <;> next he => rw [he]; rfl

/-- A turn of the loop in a list. -/
theorem skipLoop_list {b : UInt8} (h : skipBlanks s = b :: t) :
    skipLoop (.next started) (.list :: stack) s =
      if b = 0x5D then skipLoop (.next true) stack t
      else if started then
        if b = 0x2C then skipLoop .value (.list :: stack) t else .error .expectedListComma
      else skipLoop .value (.list :: stack) (b :: t) := by
  conv =>
    lhs
    rw [skipLoop]
  split
  · next heq => cases heq.symm.trans h
  · next heq =>
    cases heq.symm.trans h
    rfl

/-- A turn of the loop in an object. -/
theorem skipLoop_object {b : UInt8} (h : skipBlanks s = b :: t) :
    skipLoop (.next started) (.object :: stack) s =
      if b = 0x7D then skipLoop (.next true) stack t
      else skipToMember started b t >>= skipLoop .value (.object :: stack) := by
  conv =>
    lhs
    rw [skipLoop]
  split
  · next heq => cases heq.symm.trans h
  · next heq =>
    cases heq.symm.trans h
    congr 1
    split <;> next he => rw [he]; rfl

/-- A key is passed over with its colon. -/
theorem skipKey_quotable {k w' : List UInt8} (hw : Blanks w) (hk : Quotable k) (hw' : Blanks w')
    (s : List UInt8) : skipKey (w ++ 0x22 :: (k ++ 0x22 :: (w' ++ 0x3A :: s))) = .ok s := by
  have hfirst := skipBlanks_to hw (b := 0x22) (by decide) (k ++ 0x22 :: (w' ++ 0x3A :: s))
  have hcolon := skipBlanks_to hw' (b := 0x3A) (by decide) s
  rw [skipKey, hfirst]
  simp only [if_pos, bind, Except.bind, skipText_quotable hk, hcolon]

/-! ## Values -/

/-- The loop gets past this text, wherever it stands. -/
def Passes (s : List UInt8) : Prop :=
  ∀ (stack : List Container) (w r : List UInt8), Blanks w → Ends r →
    skipLoop .value stack (w ++ (s ++ r)) = skipLoop (.next true) stack r

/-- The loop gets past the items of a list, if it gets past each. -/
theorem skipLoop_items {items : List (List UInt8)} (h : Series 0x5D Eq started items s)
    (hitems : ∀ i ∈ items, Starts i ∧ Passes i) (stack : List Container) (r : List UInt8) :
    skipLoop (.next started) (.list :: stack) (s ++ r) = skipLoop (.next true) stack r := by
  induction h with
  | close hw =>
    rw [List.append_assoc]
    exact (skipLoop_list (skipBlanks_to hw (by decide) r)).trans (if_pos rfl)
  | @first w s t i items hw head tail ih =>
    subst head
    obtain ⟨⟨b, u, rfl, hb, hclose⟩, hpass⟩ := hitems _ List.mem_cons_self
    rw [List.append_assoc, List.append_assoc, List.cons_append,
      skipLoop_list (skipBlanks_to hw hb _), if_neg hclose, if_neg Bool.false_ne_true]
    refine (hpass _ [] _ blanks_nil (tail.ends (.inl rfl) r)).trans ?_
    exact ih fun i hi => hitems i (List.mem_cons_of_mem _ hi)
  | @next w w' s t i items hw hw' head tail ih =>
    subst head
    obtain ⟨-, hpass⟩ := hitems _ List.mem_cons_self
    rw [List.append_assoc, List.cons_append, skipLoop_list (skipBlanks_to hw (by decide) _),
      if_neg (by decide), if_pos rfl, if_pos rfl, List.append_assoc, List.append_assoc]
    refine (hpass _ w' _ hw' (tail.ends (.inl rfl) r)).trans ?_
    exact ih fun i hi => hitems i (List.mem_cons_of_mem _ hi)

/-- The loop gets past the members of an object, if it gets past each key and value. -/
theorem skipLoop_members {ms : List (List UInt8 × List UInt8)}
    (h : Series 0x7D (MemberForm Eq Eq) started ms s)
    (hms : ∀ m ∈ ms, Quotable m.1 ∧ Passes m.2) (stack : List Container) (r : List UInt8) :
    skipLoop (.next started) (.object :: stack) (s ++ r) = skipLoop (.next true) stack r := by
  induction h with
  | close hw =>
    rw [List.append_assoc]
    exact (skipLoop_object (skipBlanks_to hw (by decide) r)).trans (if_pos rfl)
  | @first w s t m ms hw head tail ih =>
    obtain ⟨hkey, hpass⟩ := hms _ List.mem_cons_self
    obtain ⟨rfl, hw₁, hw₂, rfl⟩ := head
    simp only [List.append_assoc, List.cons_append]
    rw [skipLoop_object (skipBlanks_to hw (by decide) _), if_neg (by decide), skipToMember,
      if_neg Bool.false_ne_true]
    refine (congrArg (· >>= _) (skipKey_quotable blanks_nil hkey hw₁ _)).trans ?_
    refine (hpass _ _ _ hw₂ (tail.ends (.inr rfl) r)).trans ?_
    exact ih fun m hm => hms m (List.mem_cons_of_mem _ hm)
  | @next w w' s t m ms hw hw' head tail ih =>
    obtain ⟨hkey, hpass⟩ := hms _ List.mem_cons_self
    obtain ⟨rfl, hw₁, hw₂, rfl⟩ := head
    simp only [List.append_assoc, List.cons_append]
    rw [skipLoop_object (skipBlanks_to hw (by decide) _), if_neg (by decide), skipToMember,
      if_pos rfl, if_pos rfl]
    refine (congrArg (· >>= _) (skipKey_quotable hw' hkey hw₁ _)).trans ?_
    refine (hpass _ _ _ hw₂ (tail.ends (.inr rfl) r)).trans ?_
    exact ih fun m hm => hms m (List.mem_cons_of_mem _ hm)

/-- A value starts with neither a blank nor the end of a list. -/
theorem Valid.starts (h : Valid s) : Starts s := by
  cases h with
  | numeral h =>
    obtain ⟨b, t, rfl, hb⟩ := h.head
    exact ⟨b, t, rfl, isBlank_of_isDigit hb⟩
  | null | «true» | «false» | negative | text | list | object =>
    exact starts_cons (by decide) (by decide) _

theorem skipNumeral_of_form (h : NumeralForm s) (hr : Ends r) : skipNumeral (s ++ r) = .ok r := by
  obtain ⟨n, hn⟩ := numeral_of_form h false
  rw [skipNumeral, hn r hr]

/-- A number is passed over at its first digit. -/
theorem skipScalar_digit {b : UInt8} (hb : isDigit b = true) (t : List UInt8) :
    skipScalar b t = skipNumeral (b :: t) := by
  rw [skipScalar, if_neg (ne_of_isDigit hb (by decide)), if_neg (ne_of_isDigit hb (by decide)),
    if_neg (ne_of_isDigit hb (by decide)), if_neg (ne_of_isDigit hb (by decide)), if_pos hb]

/-- What is neither a list nor an object is passed over at once. -/
theorem skipLoop_scalar {b : UInt8} (hw : Blanks w)
    (hb : isBlank b = false ∧ b ≠ 0x5B ∧ b ≠ 0x7B) (h : skipScalar b t = .ok r) :
    skipLoop .value stack (w ++ b :: t) = skipLoop (.next true) stack r := by
  rw [skipLoop_value (skipBlanks_to hw hb.1 t), if_neg hb.2.1, if_neg hb.2.2, h]
  rfl

/-- **The loop gets past every JSON value.** -/
theorem passes_valid (h : Valid s) : Passes s := by
  induction h with
  | null => exact fun _ _ r hw _ => skipLoop_scalar hw (by decide) (word_append ull r)
  | «true» => exact fun _ _ r hw _ => skipLoop_scalar hw (by decide) (word_append rue r)
  | «false» => exact fun _ _ r hw _ => skipLoop_scalar hw (by decide) (word_append alse r)
  | numeral h =>
    intro stack w r hw hr
    obtain ⟨b, t, rfl, hb⟩ := h.head
    have hplain : isBlank b = false ∧ b ≠ 0x5B ∧ b ≠ 0x7B :=
      ⟨(isBlank_of_isDigit hb).1, ne_of_isDigit hb (by decide), ne_of_isDigit hb (by decide)⟩
    exact skipLoop_scalar hw hplain ((skipScalar_digit hb _).trans (skipNumeral_of_form h hr))
  | negative h =>
    exact fun _ _ _ hw hr => skipLoop_scalar hw (by decide) (skipNumeral_of_form h hr)
  | text h =>
    intro stack w r hw _
    rw [List.cons_append, List.append_assoc]
    exact skipLoop_scalar hw (by decide) (skipText_quotable h r)
  | list hitems h ih =>
    intro stack w r hw _
    rw [List.cons_append, skipLoop_value (skipBlanks_to hw (by decide) _), if_pos rfl]
    exact skipLoop_items h (fun i hi => ⟨(hitems i hi).starts, ih i hi⟩) stack r
  | object hkeys _ h ih =>
    intro stack w r hw _
    rw [List.cons_append, skipLoop_value (skipBlanks_to hw (by decide) _), if_neg (by decide),
      if_pos rfl]
    exact skipLoop_members h (fun m hm => ⟨hkeys m hm, ih m hm⟩) stack r

/-- **Every JSON value is passed over to its end.** -/
theorem skip_valid (h : Valid s) (hw : Blanks w) (hr : Ends r) :
    skip (w ++ (s ++ r)) = .ok r := by
  rw [skip, passes_valid h [] w r hw hr, skipLoop]

end CloudGrant.Json
