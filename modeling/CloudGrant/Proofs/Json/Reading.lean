import CloudGrant.Json.Decoder
import CloudGrant.Proofs.Json.Skipping
import CloudGrant.Proofs.Json.Writing

/-!
# Reading values

`Accepts f s a` says that the reader `f` takes the text `s` for `a`, with blanks before it and anything
behind it that may follow a value. It is shown for each shape from the shapes inside: a decoder for a
shape accepts every text of that shape's form. `Reads` is the case of the text that is written for a
value.

The members of an object are read in a loop with a state. `Takes` lists what the loop does member by
member, so the loop itself is followed once (`outcome_members`); a dictionary and a record say only
what one member does.
-/

namespace CloudGrant

namespace Json

variable {α β σ : Type}

/-- What was read and what is left. -/
def outcome {n : Nat} (x : Except Error (Read n α)) : Except Error (α × List UInt8) :=
  x.map fun r => (r.value, r.rest)

theorem outcome_map {n : Nat} (f : α → β) (x : Except Error (Read n α)) :
    outcome (x.map (Read.map f)) = (outcome x).map fun p => (f p.1, p.2) := by
  cases x <;> rfl

theorem outcome_widen {m n : Nat} (h : m ≤ n) (x : Except Error (Read m α)) :
    outcome (x.map (Read.widen h)) = outcome x := by
  cases x <;> rfl

theorem outcome_eq_ok {n : Nat} {x : Except Error (Read n α)} {a : α} {s : List UInt8}
    (h : outcome x = .ok (a, s)) : ∃ hs, x = .ok ⟨a, s, hs⟩ := by
  cases x with
  | error e => cases h
  | ok r =>
    cases h
    exact ⟨r.shorter, rfl⟩

/-- The reader takes this text for `a` and nothing beyond it. -/
structure Accepts (f : (s : List UInt8) → Except Error (Read s.length α)) (s : List UInt8)
    (a : α) : Prop where
  starts : Starts s
  reads : ∀ w r, Blanks w → Ends r → outcome (f (w ++ (s ++ r))) = .ok (a, r)

theorem Accepts.map {d : Decoder α} {depth : Nat} {s : List UInt8} {a : α} (f : α → β)
    (h : Accepts (d depth) s a) : Accepts (d.map f depth) s (f a) := by
  refine ⟨h.starts, fun w r hw hr => ?_⟩
  show outcome ((d depth _).map (Read.map f)) = _
  rw [outcome_map, h.reads w r hw hr]
  rfl

/-- **A whole document is decoded if its value is accepted**, blanks around it or not. -/
theorem Accepts.decode {d : Decoder α} {s w w' : List UInt8} {a : α}
    (h : Accepts (d maxDepth) s a) (hw : Blanks w) (hw' : Blanks w') :
    decode d (w ++ (s ++ w')) = .ok a := by
  have hend : Ends w' := by
    have hblanks := ends_nil.blanks hw'
    rwa [List.append_nil] at hblanks
  have hrest : skipBlanks w' = [] := by
    have hskip := skipBlanks_append hw' []
    rwa [List.append_nil] at hskip
  obtain ⟨hs, heq⟩ := outcome_eq_ok (h.reads w w' hw hend)
  unfold Json.decode
  rw [heq]
  simp only [bind, Except.bind, hrest]

/-- The decoder takes the text that is written for `v` as `a`. -/
def Reads (d : Decoder α) (depth : Nat) (v : Value) (a : α) : Prop :=
  Accepts (d depth) (bytes v.render) a

theorem Reads.decode {d : Decoder α} {v : Value} {a : α} (h : Reads d maxDepth v a) :
    decode d v.toBytes = .ok a := by
  have hdecode := Accepts.decode h blanks_nil blanks_nil
  rwa [List.nil_append, List.append_nil, ← toBytes_eq] at hdecode

/-! ## Texts and integers -/

/-- A value is read from its first byte. -/
theorem outcome_atByte {f : Nat → (b : UInt8) → (s : List UInt8) →
      Except Error (Read (b :: s).length α)} {depth : Nat} {b : UInt8} {w s : List UInt8}
    (hw : Blanks w) (hb : isBlank b = false) :
    outcome (Decoder.atByte f depth (w ++ b :: s)) = outcome (f depth b s) := by
  have hskip := skipBlanks_to hw hb s
  unfold Decoder.atByte
  split
  · next h => cases h.symm.trans hskip
  · next c r h =>
    cases h.symm.trans hskip
    exact outcome_widen _ _

theorem accepts_atByte {f : Nat → (b : UInt8) → (s : List UInt8) →
      Except Error (Read (b :: s).length α)} {depth : Nat} {b : UInt8} {s : List UInt8} {a : α}
    (hb : isBlank b = false) (hclose : b ≠ 0x5D)
    (h : ∀ r, Ends r → outcome (f depth b (s ++ r)) = .ok (a, r)) :
    Accepts (Decoder.atByte f depth) (b :: s) a :=
  ⟨starts_cons hb hclose s, fun _ r hw hr => (outcome_atByte hw hb).trans (h r hr)⟩

theorem accepts_text {t : String} {s : List UInt8} (h : TextForm t s) (depth : Nat) :
    Accepts (Decoder.text depth) s t := by
  obtain ⟨hkey⟩ := h
  refine accepts_atByte (by decide) (by decide) fun r _ => ?_
  have htext := text_keyForm hkey r
  rw [List.append_assoc, if_pos rfl]
  split
  · next e he => cases he.symm.trans htext
  · next t' u ht =>
    cases ht.symm.trans htext
    rfl

/-- **An integer of 64 bits is read as itself.** -/
theorem accepts_int64 {n : Int} {s : List UInt8} (h : IntegerForm n s) (depth : Nat)
    (hlow : -0x8000000000000000 ≤ n) (hhigh : n < 0x8000000000000000) :
    Accepts (Decoder.int64 depth) s n := by
  cases n with
  | ofNat n =>
    have hwhole := wholeForm_digitBytes n
    obtain ⟨b, t, hbt, hb⟩ := hwhole.head
    have hbound : (n : Int) < 0x8000000000000000 := hhigh
    have hvalue := value_digits (n := n) (show n ≤ 0xFFFFFFFFFFFFFFFF by omega)
    rw [integerForm_ofNat h]
    rw [hbt] at hwhole hvalue ⊢
    obtain ⟨hblank, hclose⟩ := isBlank_of_isDigit hb
    refine accepts_atByte hblank hclose fun r hr => ?_
    have hnumeral := numeral_whole hwhole hr false
    rw [if_neg (ne_of_isDigit hb (by decide)), if_pos hb]
    split
    · next e he => cases he.symm.trans hnumeral
    · next m u he =>
      cases he.symm.trans hnumeral
      simp only [hvalue, bind, Except.bind]
      rw [if_pos hbound]
      rfl
  | negSucc n =>
    have hwhole := wholeForm_digitBytes (n + 1)
    have hvalue := value_negative (n := n) (by omega)
    rw [integerForm_negSucc h]
    refine accepts_atByte (by decide) (by decide) fun r hr => ?_
    have hnumeral := numeral_whole hwhole hr true
    rw [if_pos rfl]
    split
    · next e he => cases he.symm.trans hnumeral
    · next m u he =>
      cases he.symm.trans hnumeral
      simp only [hvalue, bind, Except.bind]
      rw [if_pos hhigh]
      rfl

/-! ## Lists -/

section Loops

variable {w r s t : List UInt8} {started : Bool}

theorem nextItem_end (hw : Blanks w) : Decoder.nextItem started (w ++ 0x5D :: r) = .ok none := by
  unfold Decoder.nextItem
  rw [skipBlanks_to hw (by decide)]
  exact if_pos rfl

/-- The next item of a list that has one. -/
theorem nextItem_series {P : α → List UInt8 → Prop} {a : α} {as : List α}
    (h : Series 0x5D P started (a :: as) s) (hstarts : ∀ i, P a i → Starts i) :
    ∃ i t, P a i ∧ Series 0x5D P true as t ∧
      ∀ r, Decoder.nextItem started (s ++ r) = .ok (some (i ++ (t ++ r))) := by
  unfold Decoder.nextItem
  cases h with
  | @first w i t _ _ hw head tail =>
    refine ⟨i, t, head, tail, fun r => ?_⟩
    obtain ⟨b, u, rfl, hb, hclose⟩ := hstarts i head
    simp only [List.append_assoc, List.cons_append]
    rw [skipBlanks_to hw hb]
    exact (if_neg hclose).trans (if_neg Bool.false_ne_true)
  | @next w w' i t _ _ hw hw' head tail =>
    refine ⟨i, t, head, tail, fun r => ?_⟩
    obtain ⟨b, u, rfl, hb, hclose⟩ := hstarts i head
    simp only [List.append_assoc, List.cons_append]
    rw [skipBlanks_to hw (by decide)]
    simp only [if_pos, skipBlanks_to hw' hb]
    rw [if_neg (by decide), if_neg hclose]

theorem endList_end (hw : Blanks w) : Decoder.endList (w ++ 0x5D :: r) = .ok r := by
  unfold Decoder.endList
  rw [skipBlanks_to hw (by decide)]
  exact if_pos rfl

variable {f : (s : List UInt8) → Except Error (Read s.length α)}

theorem outcome_items_end {acc : List α} {n : Nat} (hw : Blanks w)
    (hn : (w ++ 0x5D :: r).length ≤ n) :
    outcome (Decoder.items f started acc (w ++ 0x5D :: r) hn) = .ok (acc.reverse, r) := by
  have hnext : Decoder.nextItem started (w ++ 0x5D :: r) = .ok none := nextItem_end hw
  have hend := endList_end (r := r) hw
  rw [Decoder.items]
  split
  · next e he => cases he.symm.trans hnext
  · split
    · next e he => cases he.symm.trans hend
    · next u he =>
      cases he.symm.trans hend
      rfl
  · next u he => cases he.symm.trans hnext

/-- One turn of the loop over items. -/
theorem outcome_items_step {acc : List α} {a : α} {n : Nat} (hn : s.length ≤ n)
    (hnext : Decoder.nextItem started s = .ok (some t)) (hread : outcome (f t) = .ok (a, r)) :
    ∃ hr : r.length ≤ n, outcome (Decoder.items f started acc s hn) =
      outcome (Decoder.items f true (a :: acc) r hr) := by
  obtain ⟨ht, hf⟩ := outcome_eq_ok hread
  have hle := Decoder.length_nextItem_le hnext
  refine ⟨by omega, ?_⟩
  rw [Decoder.items]
  split
  · next e he => cases he.symm.trans hnext
  · next he => cases he.symm.trans hnext
  · next u he =>
    cases he.symm.trans hnext
    rw [hf]

/-- **The loop takes up the items of a list**, if each is accepted. -/
theorem outcome_items {P : α → List UInt8 → Prop} {as : List α} (h : Series 0x5D P started as s)
    (hitems : ∀ a ∈ as, ∀ t, P a t → Accepts f t a) (r : List UInt8) (acc : List α) {n : Nat}
    (hn : (s ++ r).length ≤ n) :
    outcome (Decoder.items f started acc (s ++ r) hn) = .ok (acc.reverse ++ as, r) := by
  -- on the items as they are taken up; what is left gets shorter, so `n` stays general
  induction as generalizing started s acc n with
  | nil =>
    obtain ⟨hw⟩ := h
    simp only [List.append_assoc, List.append_nil] at hn ⊢
    exact outcome_items_end hw hn
  | cons a as ih =>
    have haccepts := hitems a List.mem_cons_self
    obtain ⟨i, t, hi, htail, hnext⟩ := nextItem_series h fun i hi => (haccepts i hi).starts
    have hread := (haccepts i hi).reads [] (t ++ r) blanks_nil (htail.ends (.inl rfl) r)
    obtain ⟨hu, heq⟩ := outcome_items_step hn (hnext r) hread
    rw [heq, ih htail (fun b hb => hitems b (List.mem_cons_of_mem _ hb)) (a :: acc) hu,
      List.reverse_cons, List.append_assoc]
    rfl

end Loops

/-- Two levels are enough to open a container. -/
theorem deeper_add_two (depth : Nat) (f : Nat → Except Error β) :
    Decoder.deeper (depth + 2) f = f (depth + 1) := rfl

/-- **A list is read if its items are.** -/
theorem accepts_list {d : Decoder α} {depth : Nat} {P : α → List UInt8 → Prop} {as : List α}
    {s : List UInt8} (h : ∀ a ∈ as, ∀ t, P a t → Accepts (d (depth + 1)) t a)
    (hs : ListForm P as s) : Accepts (Decoder.list d (depth + 2)) s as := by
  obtain ⟨hs⟩ := hs
  refine accepts_atByte (by decide) (by decide) fun r _ => ?_
  rw [if_pos rfl, deeper_add_two, outcome_items hs h r []]
  rfl

/-! ## Objects -/

section Loops

variable {w r s t : List UInt8} {started : Bool}

theorem nextKey_end (hw : Blanks w) : Decoder.nextKey started (w ++ 0x7D :: r) = .ok none := by
  unfold Decoder.nextKey
  rw [skipBlanks_to hw (by decide)]
  exact if_pos rfl

/-- The key and the value of the next member of an object that has one. -/
theorem nextKey_series {P : α → List UInt8 → Prop} {k : String} {a : α} {ms : List (String × α)}
    (h : Series 0x7D (MemberForm KeyForm P) started ((k, a) :: ms) s) :
    ∃ key w w' i t, KeyForm k key ∧ Blanks w ∧ Blanks w' ∧ P a i ∧
      Series 0x7D (MemberForm KeyForm P) true ms t ∧
      ∀ r, Decoder.nextKey started (s ++ r) =
        .ok (some (key ++ 0x22 :: (w ++ 0x3A :: (w' ++ (i ++ (t ++ r)))))) := by
  unfold Decoder.nextKey
  cases h with
  | first hw head tail =>
    obtain ⟨hkey, hw₁, hw₂, hvalue⟩ := head
    refine ⟨_, _, _, _, _, hkey, hw₁, hw₂, hvalue, tail, fun r => ?_⟩
    simp only [List.append_assoc, List.cons_append]
    rw [skipBlanks_to hw (by decide)]
    rfl
  | next hw hw' head tail =>
    obtain ⟨hkey, hw₁, hw₂, hvalue⟩ := head
    refine ⟨_, _, _, _, _, hkey, hw₁, hw₂, hvalue, tail, fun r => ?_⟩
    simp only [List.append_assoc, List.cons_append]
    rw [skipBlanks_to hw (by decide)]
    simp only [if_pos, skipBlanks_to hw' (b := 0x22) (by decide)]
    rw [if_neg (by decide)]

theorem endObject_end (hw : Blanks w) : Decoder.endObject (w ++ 0x7D :: r) = .ok r := by
  unfold Decoder.endObject
  rw [skipBlanks_to hw (by decide)]
  exact if_pos rfl

/-- A member's value is read behind the colon. -/
theorem outcome_afterColon (d : (s : List UInt8) → Except Error (Read s.length α))
    (hw : Blanks w) (s : List UInt8) :
    outcome (Decoder.afterColon d (w ++ 0x3A :: s)) = outcome (d s) := by
  have hcolon : Decoder.colon (w ++ 0x3A :: s) = .ok s := by
    unfold Decoder.colon
    rw [skipBlanks_to hw (by decide)]
    exact if_pos rfl
  unfold Decoder.afterColon
  split
  · next e he => cases he.symm.trans hcolon
  · next r he =>
    cases he.symm.trans hcolon
    exact outcome_widen _ _

variable {f : σ → String → (s : List UInt8) → Except Error (Read s.length σ)}
  {P : α → List UInt8 → Prop}

/-- The loop over an object's members takes up these, one after the other. -/
inductive Takes (f : σ → String → (s : List UInt8) → Except Error (Read s.length σ))
    (P : α → List UInt8 → Prop) : σ → List (String × α) → σ → Prop where
  | nil {x : σ} : Takes f P x [] x
  | cons {x y z : σ} {k : String} {a : α} {ms : List (String × α)}
      (head : ∀ w w' s r, Blanks w → Blanks w' → P a s → Ends r →
        outcome (f x k (w ++ 0x3A :: (w' ++ (s ++ r)))) = .ok (y, r))
      (tail : Takes f P y ms z) : Takes f P x ((k, a) :: ms) z

/-- A member whose value is read behind the colon and put into the state. -/
theorem Takes.value {d : (s : List UInt8) → Except Error (Read s.length β)} {b : β} {g : β → σ}
    {x z : σ} {k : String} {a : α} {ms : List (String × α)}
    (hf : ∀ s, f x k s = (Decoder.afterColon d s).map (Read.map g))
    (haccepts : ∀ s, P a s → Accepts d s b) (tail : Takes f P (g b) ms z) :
    Takes f P x ((k, a) :: ms) z := by
  refine .cons (fun w w' s r hw hw' hs hr => ?_) tail
  rw [hf, outcome_map, outcome_afterColon d hw, (haccepts s hs).reads w' r hw' hr]
  rfl

/-- The loop ends at the closing brace. -/
theorem outcome_members_end {x : σ} {n : Nat} (hw : Blanks w)
    (hn : (w ++ 0x7D :: r).length ≤ n) :
    outcome (Decoder.members f started x (w ++ 0x7D :: r) hn) = .ok (x, r) := by
  have hkey : Decoder.nextKey started (w ++ 0x7D :: r) = .ok none := nextKey_end hw
  have hend := endObject_end (r := r) hw
  rw [Decoder.members]
  split
  · next e he => cases he.symm.trans hkey
  · split
    · next e he => cases he.symm.trans hend
    · next u he =>
      cases he.symm.trans hend
      rfl
  · next u he => cases he.symm.trans hkey

/-- One turn of the loop. -/
theorem outcome_members_step {x y : σ} {k : String} {n : Nat} {u : List UInt8}
    (hn : s.length ≤ n) (hkey : Decoder.nextKey started s = .ok (some t))
    (htext : text t = .ok (k, u)) (hread : outcome (f x k u) = .ok (y, r)) :
    ∃ hr : r.length ≤ n,
      outcome (Decoder.members f started x s hn) = outcome (Decoder.members f true y r hr) := by
  obtain ⟨hs, hf⟩ := outcome_eq_ok hread
  have hr : r.length ≤ n := by
    have := length_text_lt htext
    have := Decoder.length_nextKey_lt hkey
    omega
  refine ⟨hr, ?_⟩
  rw [Decoder.members]
  split
  · next e he => cases he.symm.trans hkey
  · next he => cases he.symm.trans hkey
  · next r' he =>
    cases he.symm.trans hkey
    split
    · next e he => cases he.symm.trans htext
    · next k' t' he =>
      cases he.symm.trans htext
      rw [hf]

/-- **The loop takes up the members of an object.** -/
theorem outcome_members {ms : List (String × α)} {x z : σ} (htakes : Takes f P x ms z)
    (h : Series 0x7D (MemberForm KeyForm P) started ms s) (r : List UInt8) {n : Nat}
    (hn : (s ++ r).length ≤ n) :
    outcome (Decoder.members f started x (s ++ r) hn) = .ok (z, r) := by
  -- on the members as they are taken up; what is left gets shorter, so `n` stays general
  induction htakes generalizing started s n with
  | nil =>
    obtain ⟨hw⟩ := h
    simp only [List.append_assoc] at hn ⊢
    exact outcome_members_end hw hn
  | cons head _ ih =>
    obtain ⟨key, w, w', i, t, hkey, hw, hw', hvalue, htail, hnext⟩ := nextKey_series h
    obtain ⟨hu, heq⟩ := outcome_members_step hn (hnext r) (text_keyForm hkey _)
      (head w w' i (t ++ r) hw hw' hvalue (htail.ends (.inr rfl) r))
    rw [heq]
    exact ih htail hu

end Loops

/-! ## Dictionaries -/

/-- The members of one kind are inserted in order. -/
theorem takes_insert {d : (s : List UInt8) → Except Error (Read s.length α)}
    {P : α → List UInt8 → Prop} : ∀ {es : List (String × α)} (m : Dict String α),
      (∀ e ∈ es, ∀ s, P e.2 s → Accepts d s e.2) →
      Takes (fun m k t => (Decoder.afterColon d t).map (Read.map (m.insert k))) P
        m es (m.insertAll es)
  | [], _, _ => .nil
  | e :: _, m, h => .value (fun _ => rfl) (h e List.mem_cons_self)
      (takes_insert (m.insert e.1 e.2) fun e' he => h e' (List.mem_cons_of_mem _ he))

/-- **A dictionary is read if its values are**, whatever the order of its entries. -/
theorem accepts_dict {d : Decoder α} {depth : Nat} {P : α → List UInt8 → Prop}
    {m : Dict String α} {s : List UInt8} (h : ∀ a t, P a t → Accepts (d (depth + 1)) t a)
    (hs : DictForm P m s) : Accepts (Decoder.dict d (depth + 2)) s m := by
  obtain ⟨⟨hs⟩⟩ := hs
  refine accepts_atByte (by decide) (by decide) fun r _ => ?_
  rw [if_pos rfl, deeper_add_two,
    outcome_members (takes_insert Dict.empty fun e _ => h e.2) hs r]
  rfl

/-! ## Values of any shape -/

section Any

variable {inner : Option ((s : List UInt8) → Except Error (Read s.length Value))} {r t : List UInt8}

theorem anyWith_null (r : List UInt8) :
    outcome (Decoder.anyWith inner 0x6E (ull ++ r)) = .ok (.null, r) := by
  have hword := word_append ull r
  unfold Decoder.anyWith
  rw [if_pos rfl]
  split
  · next e he => cases he.symm.trans hword
  · next u hu =>
    cases hu.symm.trans hword
    rfl

theorem anyWith_true (r : List UInt8) :
    outcome (Decoder.anyWith inner 0x74 (rue ++ r)) = .ok (.bool true, r) := by
  have hword := word_append rue r
  unfold Decoder.anyWith
  rw [if_neg (by decide), if_pos rfl]
  split
  · next e he => cases he.symm.trans hword
  · next u hu =>
    cases hu.symm.trans hword
    rfl

theorem anyWith_false (r : List UInt8) :
    outcome (Decoder.anyWith inner 0x66 (alse ++ r)) = .ok (.bool false, r) := by
  have hword := word_append alse r
  unfold Decoder.anyWith
  rw [if_neg (by decide), if_neg (by decide), if_pos rfl]
  split
  · next e he => cases he.symm.trans hword
  · next u hu =>
    cases hu.symm.trans hword
    rfl

theorem anyWith_negative {n : Numeral} {x : Number} (h : numeral true t = .ok (n, r))
    (hvalue : n.value = .ok x) :
    outcome (Decoder.anyWith inner 0x2D t) = .ok (.number x, r) := by
  unfold Decoder.anyWith
  rw [if_neg (by decide), if_neg (by decide), if_neg (by decide), if_pos rfl]
  split
  · next e he => cases he.symm.trans h
  · next m u hu =>
    cases hu.symm.trans h
    simp only [hvalue, bind, Except.bind]
    rfl

theorem anyWith_digit {b : UInt8} {n : Numeral} {x : Number} (hb : isDigit b = true)
    (h : numeral false (b :: t) = .ok (n, r)) (hvalue : n.value = .ok x) :
    outcome (Decoder.anyWith inner b t) = .ok (.number x, r) := by
  unfold Decoder.anyWith
  rw [if_neg (ne_of_isDigit hb (by decide)), if_neg (ne_of_isDigit hb (by decide)),
    if_neg (ne_of_isDigit hb (by decide)), if_neg (ne_of_isDigit hb (by decide)), if_pos hb]
  split
  · next e he => cases he.symm.trans h
  · next m u hu =>
    cases hu.symm.trans h
    simp only [hvalue, bind, Except.bind]
    rfl

theorem anyWith_text {k : List UInt8} {t : String} (hk : KeyForm t k) (r : List UInt8) :
    outcome (Decoder.anyWith inner 0x22 (k ++ 0x22 :: r)) = .ok (.text t, r) := by
  have htext := text_keyForm hk r
  unfold Decoder.anyWith
  rw [if_neg (by decide), if_neg (by decide), if_neg (by decide), if_neg (by decide),
    if_neg (by decide), if_pos rfl]
  split
  · next e he => cases he.symm.trans htext
  · next t' u ht =>
    cases ht.symm.trans htext
    rfl

end Any

/-- What may be read with any number of containers to open is read at every depth. -/
theorem accepts_value_anyWith {b : UInt8} {s : List UInt8} {v : Value} (hb : isBlank b = false)
    (hclose : b ≠ 0x5D)
    (h : ∀ inner r, Ends r → outcome (Decoder.anyWith inner b (s ++ r)) = .ok (v, r))
    (depth : Nat) : Accepts (Decoder.value depth) (b :: s) v := by
  unfold Decoder.value
  split <;> exact accepts_atByte hb hclose fun r hr => h _ r hr

/-- **What holds no other value is read at every depth.** -/
theorem accepts_scalar {v : Value} {s : List UInt8} (h : ScalarForm v s) (depth : Nat) :
    Accepts (Decoder.value depth) s v := by
  cases h with
  | null => exact accepts_value_anyWith (by decide) (by decide) (fun _ r _ => anyWith_null r) depth
  | «true» =>
    exact accepts_value_anyWith (by decide) (by decide) (fun _ r _ => anyWith_true r) depth
  | «false» =>
    exact accepts_value_anyWith (by decide) (by decide) (fun _ r _ => anyWith_false r) depth
  | numeral h hparts hvalue =>
    obtain ⟨b, t, rfl, hb⟩ := h.head
    obtain ⟨hblank, hclose⟩ := isBlank_of_isDigit hb
    refine accepts_value_anyWith hblank hclose (fun _ r hr => ?_) depth
    exact anyWith_digit hb (numeral_append h hparts hr) hvalue
  | negative h hparts hvalue =>
    refine accepts_value_anyWith (by decide) (by decide) (fun _ r hr => ?_) depth
    exact anyWith_negative (numeral_append h hparts hr) hvalue
  | text h =>
    obtain ⟨hk⟩ := h
    refine accepts_value_anyWith (by decide) (by decide) (fun _ r _ => ?_) depth
    rw [List.append_assoc]
    exact anyWith_text hk r

/-- **A list of values is read if its items are.** -/
theorem accepts_value_list {P : Value → List UInt8 → Prop} {vs : List Value} {depth : Nat}
    {s : List UInt8} (hs : ListForm P vs s)
    (h : ∀ v ∈ vs, ∀ t, P v t → Accepts (Decoder.value (depth + 1)) t v) :
    Accepts (Decoder.value (depth + 2)) s (.list vs) := by
  obtain ⟨hs⟩ := hs
  unfold Decoder.value
  refine accepts_atByte (by decide) (by decide) fun r _ => ?_
  unfold Decoder.anyWith
  rw [if_neg (by decide), if_neg (by decide), if_neg (by decide), if_neg (by decide),
    if_neg (by decide), if_neg (by decide), if_pos rfl]
  refine (outcome_map _ _).trans ?_
  rw [outcome_items hs h r []]
  rfl

/-- **An object of values is read if its members' values are**; of a repeated key the last stays. -/
theorem accepts_value_object {P : Value → List UInt8 → Prop} {ms : List (String × Value)}
    {depth : Nat} {s : List UInt8} (hs : ObjectForm P ms s)
    (h : ∀ m ∈ ms, ∀ t, P m.2 t → Accepts (Decoder.value (depth + 1)) t m.2) :
    Accepts (Decoder.value (depth + 2)) s (.ofMembers ms) := by
  obtain ⟨hs⟩ := hs
  unfold Decoder.value
  refine accepts_atByte (by decide) (by decide) fun r _ => ?_
  unfold Decoder.anyWith
  rw [if_neg (by decide), if_neg (by decide), if_neg (by decide), if_neg (by decide),
    if_neg (by decide), if_neg (by decide), if_neg (by decide), if_pos rfl]
  refine (outcome_map _ _).trans ?_
  rw [outcome_members (takes_insert Dict.empty h) hs r]
  rfl

/-- **Every way to write a value is read as it**, within the limit on containers. -/
theorem accepts_value {depth : Nat} {v : Value} {s : List UInt8} (h : ValueForm depth v s) :
    Accepts (Decoder.value (depth + 1)) s v := by
  -- on the containers that may be open: what stands in one is written with fewer
  induction depth generalizing v s with
  | zero => exact accepts_scalar h 1
  | succ depth ih =>
    cases h with
    | scalar h => exact accepts_scalar h _
    | list h => exact accepts_value_list h fun _ _ _ hv => ih hv
    | object h => exact accepts_value_object h fun _ _ _ hv => ih hv

theorem reads_value_null (depth : Nat) : Reads Decoder.value depth .null .null :=
  accepts_scalar .null depth

theorem reads_value_text (t : String) (depth : Nat) :
    Reads Decoder.value depth (.text t) (.text t) :=
  accepts_scalar (.text (textForm_render t)) depth

theorem reads_value_bool (b : Bool) (depth : Nat) :
    Reads Decoder.value depth (.bool b) (.bool b) := by
  cases b with
  | «false» => exact accepts_scalar .false depth
  | «true» => exact accepts_scalar .true depth

/-- Members whose keys ascend stand as they are. -/
theorem ofMembers_ascending {ms : List (String × Value)} (h : Ascending ms) :
    Value.ofMembers ms = .object ms := by
  have hentries : (Dict.empty.insertAll ms).entries = ms := Dict.entries_insertAll h
  have hsame : ms.map (fun m => (m.1, id m.2)) = ms := List.map_id' ms
  unfold Value.ofMembers Value.ofDict Dict.ofList
  rw [hentries, hsame]

/-- An object is written with its members in order. -/
theorem objectForm_values {P : Value → List UInt8 → Prop} {ms : List (String × Value)}
    (h : ∀ m ∈ ms, P m.2 (bytes m.2.render)) : ObjectForm P ms (bytes (Value.object ms).render) := by
  have hform : ObjectForm P ms (bytes (Value.object (ms.map fun m => (m.1, id m.2))).render) :=
    objectForm_render h
  have hsame : ms.map (fun m => (m.1, id m.2)) = ms := List.map_id' ms
  rwa [hsame] at hform

/-- What is written for an object whose keys ascend is one of its forms, if this holds of its values. -/
theorem valueForm_object {ms : List (String × Value)} {depth : Nat} (hasc : Ascending ms)
    (h : ∀ m ∈ ms, ValueForm depth m.2 (bytes m.2.render)) :
    ValueForm (depth + 1) (.object ms) (bytes (Value.object ms).render) := by
  have hform : NestedForm (ValueForm depth) (.ofMembers ms) (bytes (Value.object ms).render) :=
    .object (objectForm_values h)
  rwa [ofMembers_ascending hasc] at hform

theorem valueForm_text (t : String) (depth : Nat) :
    ValueForm depth (.text t) (bytes (Value.text t).render) := by
  have hscalar : ScalarForm (.text t) (bytes (Value.text t).render) := .text (textForm_render t)
  cases depth with
  | zero => exact hscalar
  | succ depth => exact .scalar hscalar

/-- **An object whose keys ascend is read as it stands**, if its values are. -/
theorem reads_value_object {ms : List (String × Value)} {depth : Nat} (hasc : Ascending ms)
    (h : ∀ m ∈ ms, Reads Decoder.value (depth + 1) m.2 m.2) :
    Reads Decoder.value (depth + 2) (.object ms) (.object ms) := by
  have hform : ObjectForm (fun v s => s = bytes v.render) ms (bytes (Value.object ms).render) :=
    objectForm_values fun _ _ => rfl
  have hvalues : ∀ m ∈ ms, ∀ t, t = bytes m.2.render →
      Accepts (Decoder.value (depth + 1)) t m.2 := by
    rintro m hm t rfl
    exact h m hm
  unfold Reads
  have haccepts := accepts_value_object hform hvalues
  rwa [ofMembers_ascending hasc] at haccepts

end Json

end CloudGrant
