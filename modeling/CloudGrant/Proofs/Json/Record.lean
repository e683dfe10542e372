import Mathlib.Data.List.Nodup
import Mathlib.Data.List.Perm.Basic
import CloudGrant.Proofs.Json.Reading

/-!
# Reading records

A record is written as an object that holds its fields in any order, with members of other names
between them, or as the list of its fields in order; a field that has a default may be absent if the
record holds the default. `accepts_record` says that all of these are read as the record.

A field takes its value up into a record that holds the initial values still. Fields that are apart
commute, so every order of the members leads where the order of declaration leads, and a field that
is absent would have changed nothing.
-/

namespace CloudGrant.Json

variable {σ β : Type}

/-! ## How a record is written -/

/-- A field as it is written. -/
structure Slot (σ : Type) where
  name : String
  /-- The texts of the field's value in a record. -/
  Written : σ → List UInt8 → Prop
  /-- The field may be absent: it has a default, and a record holds it. -/
  Omitted : σ → Prop
  /-- A record with this field's value taken from a second one. -/
  take : σ → σ → σ

/-- A field without default. -/
def Slot.needed (name : String) (P : β → List UInt8 → Prop) (get : σ → β) (set : σ → β → σ) :
    Slot σ :=
  ⟨name, fun v => P (get v), fun _ => False, fun x v => set x (get v)⟩

/-- A field with a default. -/
def Slot.optional (name : String) (P : β → List UInt8 → Prop) (get : σ → β) (set : σ → β → σ)
    (default : β) : Slot σ :=
  ⟨name, fun v => P (get v), fun v => get v = default, fun x v => set x (get v)⟩

/-- These members of an object hold the fields of a record, beside members of other names. -/
structure Holds (slots : List (Slot σ)) (v : σ) (ms : List (String × List UInt8)) : Prop where
  written : ∀ m ∈ ms, ∀ slot ∈ slots, slot.name = m.1 → slot.Written v m.2
  other : ∀ m ∈ ms, (∀ slot ∈ slots, slot.name ≠ m.1) → Valid m.2
  once : ∀ slot ∈ slots, (ms.map Prod.fst).count slot.name ≤ 1
  omitted : ∀ slot ∈ slots, slot.name ∉ ms.map Prod.fst → slot.Omitted v

/-- A record, as an object or as the list of its fields. -/
inductive RecordForm (slots : List (Slot σ)) (v : σ) : List UInt8 → Prop where
  | object {ms : List (String × List UInt8)} {s : List UInt8} (h : Holds slots v ms)
      (hs : ObjectForm Eq ms s) : RecordForm slots v s
  | list {given left : List (Slot σ)} {items : List (List UInt8)} {s : List UInt8}
      (hslots : slots = given ++ left)
      (hgiven : List.Forall₂ (fun slot i => slot.Written v i) given items)
      (hleft : ∀ slot ∈ left, slot.Omitted v) (hs : ListForm Eq items s) : RecordForm slots v s

/-! ## Taking fields up -/

/-- The record with these fields' values taken from `v`. -/
def takeAll (slots : List (Slot σ)) (v x : σ) : σ := slots.foldl (fun x slot => slot.take x v) x

/-- The fields make up the record type, and `initial` holds the defaults. -/
structure Lawful (slots : List (Slot σ)) (initial : σ) : Prop where
  names : (slots.map Slot.name).Nodup
  commute : ∀ a ∈ slots, ∀ b ∈ slots, ∀ x v, b.take (a.take x v) v = a.take (b.take x v) v
  whole : ∀ v, takeAll slots v initial = v
  omitted : ∀ slot ∈ slots, ∀ v, slot.Omitted v → slot.take initial v = initial

variable {slots given left : List (Slot σ)} {initial v : σ}

theorem Lawful.takeAll_omitted (h : Lawful slots initial) (hsub : ∀ slot ∈ left, slot ∈ slots)
    (hleft : ∀ slot ∈ left, slot.Omitted v) : takeAll left v initial = initial := by
  induction left with
  | nil => rfl
  | cons slot left ih =>
    have hstep : slot.take initial v = initial :=
      h.omitted slot (hsub slot List.mem_cons_self) v (hleft slot List.mem_cons_self)
    show takeAll left v (slot.take initial v) = initial
    rw [hstep]
    exact ih (fun x hx => hsub x (List.mem_cons_of_mem _ hx))
      fun x hx => hleft x (List.mem_cons_of_mem _ hx)

/-- **Whatever the order, and with fields left out that hold their defaults, the record is made.** -/
theorem Lawful.takeAll_given (h : Lawful slots initial) (hperm : (given ++ left).Perm slots)
    (hleft : ∀ slot ∈ left, slot.Omitted v) : takeAll given v initial = v := by
  have hcommute : ∀ a ∈ slots, ∀ b ∈ slots, ∀ x : σ,
      b.take (a.take x v) v = a.take (b.take x v) v :=
    fun a ha b hb x => h.commute a ha b hb x v
  have hperm' : slots.Perm (left ++ given) := hperm.symm.trans List.perm_append_comm
  calc takeAll given v initial
      = takeAll given v (takeAll left v initial) := by
        rw [h.takeAll_omitted (fun x hx => hperm.mem_iff.mp (List.mem_append_right _ hx)) hleft]
    _ = takeAll (left ++ given) v initial := List.foldl_append.symm
    _ = takeAll slots v initial := (hperm'.foldl_eq' hcommute initial).symm
    _ = v := h.whole v

/-! ## Members of an object -/

/-- What stands on the right of a list of pairs has a partner on the left. -/
theorem exists_of_forall₂ {α γ : Type} {R : α → γ → Prop} {as : List α} {cs : List γ}
    (h : List.Forall₂ R as cs) : ∀ c ∈ cs, ∃ a ∈ as, R a c := by
  induction h with
  | nil => exact fun _ hc => nomatch hc
  | @cons a c as cs head _ ih =>
    intro c' hc'
    rcases List.mem_cons.mp hc' with rfl | hc'
    · exact ⟨a, List.mem_cons_self, head⟩
    · obtain ⟨later, hlater, hR⟩ := ih c' hc'
      exact ⟨later, List.mem_cons_of_mem _ hlater, hR⟩

/-- The field that is written as this slot: it has the same name, is required at most where the slot
is, and takes the slot's value up. -/
structure ReadBy (depth : Nat) (v : σ) (field : Decoder.Field σ) (slot : Slot σ) : Prop where
  name : field.name = slot.name
  required : field.required = true → ¬ slot.Omitted v
  accepts : ∀ s, slot.Written v s → Accepts (field.read depth) s (fun x => slot.take x v)

variable {fields : List (Decoder.Field σ)} {depth : Nat}

def slotNamed? (slots : List (Slot σ)) (k : String) : Option (Slot σ) :=
  slots.find? fun slot => slot.name == k

theorem of_slotNamed? {k : String} {slot : Slot σ} (h : slotNamed? slots k = some slot) :
    slot ∈ slots ∧ slot.name = k := by
  have hname := List.find?_some h
  exact ⟨List.mem_of_find?_eq_some h, beq_iff_eq.mp hname⟩

theorem ne_of_slotNamed? {k : String} (h : slotNamed? slots k = none) :
    ∀ slot ∈ slots, slot.name ≠ k := fun slot hslot hname =>
  List.find?_eq_none.mp h slot hslot (beq_iff_eq.mpr hname)

/-- Names are unique, so a slot is found under its own. -/
theorem slotNamed?_name (hnames : (slots.map Slot.name).Nodup) {slot : Slot σ}
    (hslot : slot ∈ slots) : slotNamed? slots slot.name = some slot := by
  cases hfind : slotNamed? slots slot.name with
  | none => exact absurd rfl (ne_of_slotNamed? hfind slot hslot)
  | some other =>
    obtain ⟨hother, hname⟩ := of_slotNamed? hfind
    exact congrArg some (List.inj_on_of_nodup_map hnames hother hslot hname)

/-- The slots of the members that are fields, in the order of the members. -/
def heldBy (slots : List (Slot σ)) (ms : List (String × List UInt8)) : List (Slot σ) :=
  ms.filterMap fun m => slotNamed? slots m.1

theorem heldBy_cons_none {m : String × List UInt8} {ms : List (String × List UInt8)}
    (h : slotNamed? slots m.1 = none) : heldBy slots (m :: ms) = heldBy slots ms :=
  List.filterMap_cons_none h

theorem heldBy_cons_some {m : String × List UInt8} {ms : List (String × List UInt8)}
    {slot : Slot σ} (h : slotNamed? slots m.1 = some slot) :
    heldBy slots (m :: ms) = slot :: heldBy slots ms :=
  List.filterMap_cons_some h

/-- A field and its slot are found under the same name. -/
theorem find?_readBy (k : String) (h : List.Forall₂ (ReadBy depth v) fields slots) :
    (fields.find? (fun f => f.name == k) = none ∧ slotNamed? slots k = none) ∨
      ∃ field slot, fields.find? (fun f => f.name == k) = some field ∧
        slotNamed? slots k = some slot ∧ ReadBy depth v field slot := by
  unfold slotNamed?
  induction h with
  | nil => exact .inl ⟨rfl, rfl⟩
  | @cons field slot fields slots hread _ ih =>
    by_cases hk : slot.name = k
    · refine .inr ⟨field, slot, ?_, ?_, hread⟩
      · exact List.find?_cons_of_pos (by simp [hread.name, hk])
      · exact List.find?_cons_of_pos (by simp [hk])
    · rw [List.find?_cons_of_neg (by simp [hread.name, hk]),
        List.find?_cons_of_neg (by simp [hk])]
      exact ih

/-- A value that nobody looks at is accepted. -/
theorem accepts_skipped {s : List UInt8} (h : Valid s) : Accepts Decoder.skipped s () := by
  refine ⟨h.starts, fun w r hw hr => ?_⟩
  have hskip := skip_valid h hw hr
  unfold Decoder.skipped
  split
  · next e he => cases he.symm.trans hskip
  · next u he =>
    cases he.symm.trans hskip
    rfl

section

variable {x : σ} {seen : List String} {k : String} {s : List UInt8}

/-- A member of another name is passed over. -/
theorem fieldMember_none (h : fields.find? (fun f => f.name == k) = none) :
    Decoder.fieldMember fields depth (x, seen) k s =
      (Decoder.afterColon Decoder.skipped s).map (Read.map fun _ => (x, seen)) := by
  unfold Decoder.fieldMember
  rw [h]

/-- A field is taken up the first time. -/
theorem fieldMember_some {field : Decoder.Field σ}
    (h : fields.find? (fun f => f.name == k) = some field) (hseen : k ∉ seen) :
    Decoder.fieldMember fields depth (x, seen) k s =
      (Decoder.afterColon (field.read depth) s).map (Read.map fun set => (set x, k :: seen)) := by
  have hfirst : ¬ seen.contains k = true := fun hmem => hseen (List.contains_iff_mem.mp hmem)
  unfold Decoder.fieldMember
  rw [h]
  exact if_neg hfirst

end

/-- **The loop over members takes up the fields among them and passes over the others.** -/
theorem takes_fields (h : List.Forall₂ (ReadBy depth v) fields slots)
    {ms : List (String × List UInt8)} {x : σ} {seen : List String}
    (hwritten : ∀ m ∈ ms, ∀ slot ∈ slots, slot.name = m.1 → slot.Written v m.2)
    (hother : ∀ m ∈ ms, (∀ slot ∈ slots, slot.name ≠ m.1) → Valid m.2)
    (hnodup : ((heldBy slots ms).map Slot.name).Nodup)
    (hseen : ∀ slot ∈ heldBy slots ms, slot.name ∉ seen) :
    Takes (Decoder.fieldMember fields depth) Eq (x, seen) ms
      (takeAll (heldBy slots ms) v x, ((heldBy slots ms).map Slot.name).reverse ++ seen) := by
  induction ms generalizing x seen with
  | nil => exact .nil
  | cons m ms ih =>
    have hwritten' := fun n hn => hwritten n (List.mem_cons_of_mem _ hn)
    have hother' := fun n hn => hother n (List.mem_cons_of_mem _ hn)
    obtain ⟨hnone, hslot⟩ | ⟨field, slot, hfield, hslot, hread⟩ := find?_readBy m.1 h
    · -- a member of another name
      have hvalid : Valid m.2 := hother m List.mem_cons_self (ne_of_slotNamed? hslot)
      rw [heldBy_cons_none hslot] at hnodup hseen ⊢
      exact .value (fun _ => fieldMember_none hnone) (fun s hs => hs ▸ accepts_skipped hvalid)
        (ih hwritten' hother' hnodup hseen)
    · -- a field, for the first time
      obtain ⟨hmem, hname⟩ := of_slotNamed? hslot
      have hvalue : slot.Written v m.2 := hwritten m List.mem_cons_self slot hmem hname
      rw [heldBy_cons_some hslot] at hnodup hseen ⊢
      obtain ⟨hnew, hnodup'⟩ := List.nodup_cons.mp hnodup
      have hfirst : m.1 ∉ seen := hname ▸ hseen slot List.mem_cons_self
      have hseen' : ∀ later ∈ heldBy slots ms, later.name ∉ m.1 :: seen := by
        intro later hlater hmem
        rcases List.mem_cons.mp hmem with heq | hmem
        · exact hnew (List.mem_map.mpr ⟨later, hlater, heq.trans hname.symm⟩)
        · exact hseen later (List.mem_cons_of_mem _ hlater) hmem
      have hstate : ((slot :: heldBy slots ms).map Slot.name).reverse ++ seen =
          ((heldBy slots ms).map Slot.name).reverse ++ m.1 :: seen := by
        rw [List.map_cons, List.reverse_cons, List.append_assoc, hname]
        rfl
      rw [hstate]
      exact .value (fun _ => fieldMember_some hfield hfirst)
        (fun s hs => hs ▸ hread.accepts _ hvalue) (ih hwritten' hother' hnodup' hseen')

/-! ## Which fields are held -/

variable {ms : List (String × List UInt8)}

theorem mem_heldBy (hnames : (slots.map Slot.name).Nodup) {slot : Slot σ} :
    slot ∈ heldBy slots ms ↔ slot ∈ slots ∧ slot.name ∈ ms.map Prod.fst := by
  unfold heldBy
  rw [List.mem_filterMap]
  constructor
  · rintro ⟨m, hm, hfind⟩
    obtain ⟨hslot, hname⟩ := of_slotNamed? hfind
    exact ⟨hslot, List.mem_map.mpr ⟨m, hm, hname.symm⟩⟩
  · rintro ⟨hslot, hkey⟩
    obtain ⟨m, hm, hname⟩ := List.mem_map.mp hkey
    exact ⟨m, hm, hname ▸ slotNamed?_name hnames hslot⟩

theorem names_heldBy : (heldBy slots ms).map Slot.name =
    (ms.map Prod.fst).filter fun k => (slotNamed? slots k).isSome := by
  induction ms with
  | nil => rfl
  | cons m ms ih =>
    cases hfind : slotNamed? slots m.1 with
    | none =>
      rw [heldBy_cons_none hfind, List.map_cons, List.filter_cons_of_neg (by simp [hfind]), ih]
    | some slot =>
      rw [heldBy_cons_some hfind, List.map_cons, List.map_cons,
        List.filter_cons_of_pos (by simp [hfind]), ih, (of_slotNamed? hfind).2]

theorem nodup_names_heldBy (h : Holds slots v ms) : ((heldBy slots ms).map Slot.name).Nodup := by
  rw [names_heldBy, List.nodup_iff_count_le_one]
  intro k
  cases hfind : slotNamed? slots k with
  | some slot =>
    obtain ⟨hslot, rfl⟩ := of_slotNamed? hfind
    rw [List.count_filter (by simp [hfind])]
    exact h.once slot hslot
  | none =>
    have hnot : k ∉ (ms.map Prod.fst).filter fun k => (slotNamed? slots k).isSome := by
      intro hmem
      have hsome := (List.mem_filter.mp hmem).2
      rw [hfind] at hsome
      cases hsome
    rw [List.count_eq_zero_of_not_mem hnot]
    exact Nat.zero_le 1

/-- The fields that are held and those that are not are all fields. -/
theorem perm_heldBy (hlawful : Lawful slots initial) (h : Holds slots v ms) :
    (heldBy slots ms ++ slots.filter fun slot => slot.name ∉ ms.map Prod.fst).Perm slots := by
  have hslots : slots.Nodup := .of_map _ hlawful.names
  have hheld : (heldBy slots ms).Nodup := .of_map _ (nodup_names_heldBy h)
  have hdisjoint : (heldBy slots ms).Disjoint
      (slots.filter fun slot => slot.name ∉ ms.map Prod.fst) := by
    intro slot hmem hmem'
    exact of_decide_eq_true (List.mem_filter.mp hmem').2 ((mem_heldBy hlawful.names).mp hmem).2
  refine (List.perm_ext_iff_of_nodup (hheld.append (hslots.filter _) hdisjoint) hslots).mpr
    fun slot => ?_
  rw [List.mem_append, mem_heldBy hlawful.names, List.mem_filter]
  by_cases hkey : slot.name ∈ ms.map Prod.fst <;> simp [hkey]

theorem missing?_heldBy (h : List.Forall₂ (ReadBy depth v) fields slots)
    (hnames : (slots.map Slot.name).Nodup) (hms : Holds slots v ms) :
    Decoder.missing? fields (((heldBy slots ms).map Slot.name).reverse ++ []) = none := by
  unfold Decoder.missing?
  rw [Option.map_eq_none_iff, List.find?_eq_none]
  intro field hfield hmissing
  obtain ⟨hrequired, hunseen⟩ := (Bool.and_eq_true_iff).mp hmissing
  obtain ⟨slot, hslot, hread⟩ := exists_of_forall₂ h.flip field hfield
  refine hread.required hrequired (hms.omitted slot hslot fun hkey => ?_)
  have hmem : field.name ∈ (heldBy slots ms).map Slot.name :=
    List.mem_map.mpr ⟨slot, (mem_heldBy hnames).mpr ⟨hslot, hkey⟩, hread.name.symm⟩
  simp [hmem] at hunseen

/-! ## Items of a list -/

variable {name : String} {total index : Nat} {w r : List UInt8}

/-- The fields behind the last item keep their initial values. -/
theorem outcome_positions_end (h : List.Forall₂ (ReadBy depth v) fields left)
    (hleft : ∀ slot ∈ left, slot.Omitted v) (hw : Blanks w) (x : σ) {n : Nat}
    (hn : (w ++ 0x5D :: r).length ≤ n) :
    outcome (Decoder.positions name total depth fields index x (w ++ 0x5D :: r) hn) =
      .ok (x, r) := by
  have hnext : Decoder.nextItem (index != 0) (w ++ 0x5D :: r) = .ok none := nextItem_end hw
  have hend : Decoder.endList (w ++ 0x5D :: r) = .ok r := endList_end hw
  induction h generalizing index with
  | nil =>
    unfold Decoder.positions
    split
    · next e he => cases he.symm.trans hend
    · next u he =>
      cases he.symm.trans hend
      rfl
  | @cons field slot fields left hread _ ih =>
    have hoptional : ¬ field.required = true :=
      fun hrequired => hread.required hrequired (hleft slot List.mem_cons_self)
    unfold Decoder.positions
    split
    · next e he => cases he.symm.trans hnext
    · rw [if_neg hoptional]
      exact ih (fun x hx => hleft x (List.mem_cons_of_mem _ hx)) (nextItem_end hw)
    · next u he => cases he.symm.trans hnext

/-- **The items of a list are taken up as the fields in order.** -/
theorem outcome_positions {items : List (List UInt8)}
    (hgiven : List.Forall₂ (fun slot i => slot.Written v i) given items)
    (h : List.Forall₂ (ReadBy depth v) fields (given ++ left))
    (hleft : ∀ slot ∈ left, slot.Omitted v) {started : Bool} (hstarted : started = (index != 0))
    {s : List UInt8} (hs : Series 0x5D Eq started items s) (x : σ) (r : List UInt8) {n : Nat}
    (hn : (s ++ r).length ≤ n) :
    outcome (Decoder.positions name total depth fields index x (s ++ r) hn) =
      .ok (takeAll given v x, r) := by
  induction hgiven generalizing fields index x started s n with
  | nil =>
    obtain ⟨hw⟩ := hs
    simp only [List.append_assoc] at hn ⊢
    exact outcome_positions_end h hleft hw x hn
  | @cons slot i given items hwritten _ ih =>
    obtain _ | ⟨hread, h⟩ := h
    rename_i field fields
    have haccepts := hread.accepts i hwritten
    obtain ⟨i', t, rfl, htail, hnext⟩ := nextItem_series hs fun i' hi' => hi' ▸ haccepts.starts
    have hnext := hnext r
    rw [hstarted] at hnext
    have hreads : outcome (field.read depth (i ++ (t ++ r))) = .ok (fun x => slot.take x v, t ++ r) :=
      haccepts.reads [] (t ++ r) blanks_nil (htail.ends (.inl rfl) r)
    obtain ⟨hu, heq⟩ := outcome_eq_ok hreads
    unfold Decoder.positions
    split
    · next e he => cases he.symm.trans hnext
    · next he => cases he.symm.trans hnext
    · next u he =>
      cases he.symm.trans hnext
      rw [heq]
      exact ih h (show true = (index + 1 != 0) from rfl) htail (slot.take x v) _

/-! ## Records -/

/-- **A record is read from each of its forms.** -/
theorem accepts_record {name : String} {s : List UInt8} (hlawful : Lawful slots initial)
    (h : List.Forall₂ (ReadBy (depth + 1) v) fields slots) (hs : RecordForm slots v s) :
    Accepts (Decoder.record name fields initial (depth + 2)) s v := by
  cases hs with
  | object hms hs =>
    obtain ⟨hs⟩ := hs
    refine accepts_atByte (by decide) (by decide) fun r _ => ?_
    have hmade : takeAll (heldBy slots _) v initial = v :=
      hlawful.takeAll_given (perm_heldBy hlawful hms) fun slot hmem =>
        hms.omitted slot (List.mem_filter.mp hmem).1
          (of_decide_eq_true (List.mem_filter.mp hmem).2)
    have htakes := takes_fields h hms.written hms.other (nodup_names_heldBy hms)
      (x := initial) (fun _ _ => List.not_mem_nil)
    rw [hmade] at htakes
    -- the members are all there, so nothing is missing and the record stands
    obtain ⟨hr, heq⟩ := outcome_eq_ok (outcome_members htakes hs r (Nat.le_succ _))
    rw [if_neg (by decide), if_pos rfl, deeper_add_two, heq]
    simp only [bind, Except.bind, missing?_heldBy h hlawful.names hms]
    rfl
  | list hslots hgiven hleft hs =>
    obtain ⟨hs⟩ := hs
    refine accepts_atByte (by decide) (by decide) fun r _ => ?_
    subst hslots
    rw [if_pos rfl, deeper_add_two]
    refine (outcome_positions hgiven h hleft (show false = (0 != 0) from rfl) hs initial r _).trans ?_
    rw [hlawful.takeAll_given (List.Perm.refl _) hleft]

/-! ## What is written -/

/-- The object of a record's members, as texts. -/
theorem objectForm_texts (ms : List (String × Value)) :
    ObjectForm Eq (ms.map fun m => (m.1, bytes m.2.render)) (bytes (Value.object ms).render) := by
  have hform : ObjectForm (fun v s => bytes v.render = s) ms (bytes (Value.object ms).render) :=
    objectForm_values fun _ _ => rfl
  generalize bytes (Value.object ms).render = s at hform
  obtain ⟨hs⟩ := hform
  refine .intro (hs.map fun m t hm => ?_)
  obtain ⟨hkey, hw, hw', hvalue⟩ := hm
  exact .intro hkey hw hw' hvalue

/-- **What is written for a record is one of its forms**, if each field is written as its slot. -/
theorem recordForm_render {ms : List (String × Value)} (hnames : (slots.map Slot.name).Nodup)
    (h : List.Forall₂ (fun slot m => m.1 = slot.name ∧ slot.Written v (bytes m.2.render)) slots ms) :
    RecordForm slots v (bytes (Value.object ms).render) := by
  have hkeys : (ms.map fun m => (m.1, bytes m.2.render)).map Prod.fst = slots.map Slot.name := by
    clear hnames
    induction h with
    | nil => rfl
    | cons head _ ih =>
      simp only [List.map_cons] at ih ⊢
      rw [head.1, ih]
  have hwritten := exists_of_forall₂ h
  refine .object ⟨?_, ?_, ?_, ?_⟩ (objectForm_texts ms)
  · intro m hm slot hslot hname
    obtain ⟨n, hn, rfl⟩ := List.mem_map.mp hm
    obtain ⟨other, hother, hkey, hvalue⟩ := hwritten n hn
    rw [List.inj_on_of_nodup_map hnames hslot hother (hname.trans hkey)]
    exact hvalue
  · intro m hm hne
    obtain ⟨n, hn, rfl⟩ := List.mem_map.mp hm
    obtain ⟨other, hother, hkey, -⟩ := hwritten n hn
    exact absurd hkey.symm (hne other hother)
  · intro slot _
    rw [hkeys]
    exact List.nodup_iff_count_le_one.mp hnames slot.name
  · intro slot hslot habsent
    rw [hkeys] at habsent
    exact absurd (List.mem_map.mpr ⟨slot, hslot, rfl⟩) habsent

end CloudGrant.Json
