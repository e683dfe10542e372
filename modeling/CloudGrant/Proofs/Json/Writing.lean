import CloudGrant.Proofs.Json.Text

/-!
# What is written is a form

The text that is written for a value is one of the forms of what the value stands for: a text of that
text (`textForm_render`), a list of the items (`listForm_render`), an object of the members
(`objectForm_render`). So what holds of every form holds of what is written.
-/

namespace CloudGrant.Json

open Text.Utf8

theorem toBytes_eq (v : Value) : v.toBytes = bytes v.render := by
  unfold Value.toBytes Value.toText encode bytes
  rw [String.toList_ofList]

/-! ## Texts -/

theorem hexForm_hexDigit {k : Nat} (h : k < 16) : HexForm k (UInt8.ofNat (hexDigit k).toNat) :=
  ⟨h, .inl rfl⟩

theorem encodeChar_hexDigit : ∀ k < 16,
    encodeChar (hexDigit k) = [UInt8.ofNat (hexDigit k).toNat] := by decide

/-- The four digits of a control character. -/
theorem unitForm_control {n : Nat} (h : n < 0x20) :
    UnitForm n (bytes ['0', '0', hexDigit (n / 16), hexDigit (n % 16)]) := by
  have hform := UnitForm.intro (hexForm_hexDigit (k := 0) (by omega))
    (hexForm_hexDigit (k := 0) (by omega)) (hexForm_hexDigit (k := n / 16) (by omega))
    (hexForm_hexDigit (k := n % 16) (by omega))
  rw [show ((0 * 16 + 0) * 16 + n / 16) * 16 + n % 16 = n by omega] at hform
  simp only [bytes_cons, bytes_nil, encodeChar_hexDigit (n / 16) (by omega),
    encodeChar_hexDigit (n % 16) (by omega)]
  exact hform

/-- What a character is escaped to is one of its forms. -/
theorem charForm_escape (c : Char) : CharForm c (bytes (escape c)) := by
  have hnamed : ∀ {b : UInt8} {d : Char}, (b, d) ∈ namedEscapes → c = d →
      CharForm c [0x5C, b] := by
    rintro b d h rfl
    exact .named h
  unfold escape
  by_cases hquote : c = '"'
  · rw [if_pos (.inl hquote), hquote]
    exact .named (by decide)
  by_cases hback : c = '\\'
  · rw [if_pos (.inr hback), hback]
    exact .named (by decide)
  rw [if_neg (by simp [hquote, hback])]
  by_cases hb : c = '\x08'
  · rw [if_pos hb]
    exact hnamed (by decide) hb
  rw [if_neg hb]
  by_cases ht : c = '\t'
  · rw [if_pos ht]
    exact hnamed (by decide) ht
  rw [if_neg ht]
  by_cases hn : c = '\n'
  · rw [if_pos hn]
    exact hnamed (by decide) hn
  rw [if_neg hn]
  by_cases hf : c = '\x0c'
  · rw [if_pos hf]
    exact hnamed (by decide) hf
  rw [if_neg hf]
  by_cases hr : c = '\r'
  · rw [if_pos hr]
    exact hnamed (by decide) hr
  rw [if_neg hr]
  by_cases hcontrol : c.toNat < 0x20
  · rw [if_pos hcontrol]
    exact .unit (unitForm_control hcontrol)
  · -- what is not escaped stands for itself
    rw [if_neg hcontrol, bytes_cons, bytes_nil, List.append_nil]
    exact .plain (by omega) hquote hback

theorem charsForm_escape : ∀ cs : List Char, CharsForm cs (bytes (cs.flatMap escape))
  | [] => .nil
  | c :: cs => by
    rw [List.flatMap_cons, bytes_append]
    exact .cons (charForm_escape c) (charsForm_escape cs)

/-- What is written between quotes for a text is one of its forms. -/
theorem keyForm_escape (t : String) : KeyForm t (bytes (t.toList.flatMap escape)) :=
  charsForm_escape t.toList

theorem bytes_renderText (t : String) (s : List UInt8) :
    bytes (renderText t) ++ s = 0x22 :: (bytes (t.toList.flatMap escape) ++ 0x22 :: s) := by
  have hquote : encodeChar '"' = [0x22] := rfl
  simp only [renderText, bytes_cons, bytes_append, bytes_nil, hquote, List.cons_append,
    List.nil_append, List.append_assoc]

theorem textForm_render (t : String) : TextForm t (bytes (Value.text t).render) := by
  have hbytes := bytes_renderText t []
  rw [List.append_nil] at hbytes
  show TextForm t (bytes (renderText t))
  rw [hbytes]
  exact .intro (keyForm_escape t)

/-! ## Lists and objects -/

variable {α : Type} {P : α → List UInt8 → Prop} {g : α → Value}

theorem series_renderItems : ∀ {as : List α}, (∀ a ∈ as, P a (bytes (g a).render)) →
    Series 0x5D P true as (bytes (renderItems (as.map g)))
  | [], _ => .close blanks_nil
  | a :: as, h => by
    have hcomma : encodeChar ',' = [0x2C] := rfl
    rw [List.map_cons, renderItems, bytes_cons, bytes_append, hcomma]
    exact .next blanks_nil blanks_nil (h a List.mem_cons_self)
      (series_renderItems fun b hb => h b (List.mem_cons_of_mem _ hb))

/-- **What is written for a list is a form of it.** -/
theorem listForm_render {as : List α} (h : ∀ a ∈ as, P a (bytes (g a).render)) :
    ListForm P as (bytes (Value.list (as.map g)).render) := by
  cases as with
  | nil => exact .intro (.close blanks_nil)
  | cons a as =>
    have hopen : encodeChar '[' = [0x5B] := rfl
    rw [List.map_cons, Value.render, bytes_cons, bytes_append, hopen]
    exact .intro (.first blanks_nil (h a List.mem_cons_self)
      (series_renderItems fun b hb => h b (List.mem_cons_of_mem _ hb)))

theorem memberForm_render {a : α} (k : String) (h : P a (bytes (g a).render)) :
    MemberForm KeyForm P (k, a) (bytes (renderText k ++ ':' :: (g a).render)) := by
  have hcolon : encodeChar ':' = [0x3A] := rfl
  rw [bytes_append, bytes_renderText, bytes_cons, hcolon]
  exact .intro (keyForm_escape k) blanks_nil blanks_nil h

theorem series_renderMembers : ∀ {ms : List (String × α)},
    (∀ m ∈ ms, P m.2 (bytes (g m.2).render)) →
      Series 0x7D (MemberForm KeyForm P) true ms
        (bytes (renderMembers (ms.map fun m => (m.1, g m.2))))
  | [], _ => .close blanks_nil
  | m :: ms, h => by
    have hcomma : encodeChar ',' = [0x2C] := rfl
    have hbytes : bytes (renderMembers ((m :: ms).map fun m => (m.1, g m.2))) =
        0x2C :: (bytes (renderText m.1 ++ ':' :: (g m.2).render) ++
          bytes (renderMembers (ms.map fun m => (m.1, g m.2)))) := by
      simp only [List.map_cons, renderMembers, bytes_cons, bytes_append, hcomma,
        List.append_assoc, List.cons_append, List.nil_append]
    rw [hbytes]
    exact .next blanks_nil blanks_nil (memberForm_render m.1 (h m List.mem_cons_self))
      (series_renderMembers fun n hn => h n (List.mem_cons_of_mem _ hn))

/-- **What is written for an object is a form of its members.** -/
theorem objectForm_render {ms : List (String × α)} (h : ∀ m ∈ ms, P m.2 (bytes (g m.2).render)) :
    ObjectForm P ms (bytes (Value.object (ms.map fun m => (m.1, g m.2))).render) := by
  cases ms with
  | nil => exact .intro (.close blanks_nil)
  | cons m ms =>
    have hopen : encodeChar '\x7b' = [0x7B] := rfl
    have hbytes : bytes (Value.object ((m :: ms).map fun m => (m.1, g m.2))).render =
        0x7B :: (bytes (renderText m.1 ++ ':' :: (g m.2).render) ++
          bytes (renderMembers (ms.map fun m => (m.1, g m.2)))) := by
      simp only [List.map_cons, Value.render, bytes_cons, bytes_append, hopen,
        List.append_assoc, List.cons_append, List.nil_append]
    rw [hbytes]
    exact .intro (.first blanks_nil (memberForm_render m.1 (h m List.mem_cons_self))
      (series_renderMembers fun n hn => h n (List.mem_cons_of_mem _ hn)))

/-- What is written for a dictionary is a form of it. -/
theorem dictForm_render {d : Dict String α} (h : ∀ a, P a (bytes (g a).render)) :
    DictForm P d (bytes (Value.ofDict g d).render) := by
  have hform : DictForm P (Dict.ofList d.entries) (bytes (Value.ofDict g d).render) :=
    .intro (objectForm_render fun m _ => h m.2)
  rwa [Dict.ofList_entries] at hform

/-- The same parts, taken for something else. -/
theorem Series.map {β : Type} {Q : β → List UInt8 → Prop} {close : UInt8} {started : Bool}
    {as : List α} {s : List UInt8} {f : α → β} (h : Series close P started as s)
    (hPQ : ∀ a t, P a t → Q (f a) t) : Series close Q started (as.map f) s := by
  induction h with
  | close hw => exact .close hw
  | first hw head _ ih => exact .first hw (hPQ _ _ head) ih
  | next hw hw' head _ ih => exact .next hw hw' (hPQ _ _ head) ih

theorem integerForm_render (n : Int) : IntegerForm n (bytes (Value.number (.int n)).render) := rfl

end CloudGrant.Json
