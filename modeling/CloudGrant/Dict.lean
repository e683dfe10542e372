/-!
# Sorted dictionaries

A `Dict κ α` lists its entries in strictly increasing key order, and the order is part of the type.
Two dictionaries that answer every look-up alike are therefore the same value
(`Dict.ext_find?`), so a dictionary written out and read back can be compared with `=`.

Every operation is described through one view, `find?`: `find?_insert`, `find?_erase`,
`find?_empty`.

## Termination

All loops recurse on the list of entries.
-/

namespace CloudGrant

/-- A strict total order on keys. -/
class Key (κ : Type) [LT κ] : Prop where
  lt_irrefl (a : κ) : ¬ a < a
  lt_trans {a b c : κ} : a < b → b < c → a < c
  eq_of_not_lt {a b : κ} : ¬ a < b → ¬ b < a → a = b

/-- Texts are ordered by code point, which is also the order of their UTF-8 bytes. -/
instance : Key String where
  lt_irrefl := String.lt_irrefl
  lt_trans := String.lt_trans
  eq_of_not_lt h₁ h₂ := String.le_antisymm (String.not_lt.mp h₂) (String.not_lt.mp h₁)

/-- Entries in strictly increasing key order. -/
def Ascending {κ α : Type} [LT κ] (entries : List (κ × α)) : Prop :=
  entries.Pairwise (fun a b => a.1 < b.1)

/-- Only the keys matter for the order. -/
theorem ascending_iff {κ α : Type} [LT κ] {entries : List (κ × α)} :
    Ascending entries ↔ (entries.map Prod.fst).Pairwise (· < ·) := List.pairwise_map.symm

/-- A finite map whose entries are kept in strictly increasing key order. -/
structure Dict (κ α : Type) [LT κ] where
  entries : List (κ × α)
  ascending : Ascending entries

namespace Dict

variable {κ α β : Type} [LT κ] [DecidableLT κ]

/-! ## Entry lists -/

/-- Put an entry at its place, replacing the one of the same key. -/
def insertEntry (k : κ) (v : α) : List (κ × α) → List (κ × α)
  | [] => [(k, v)]
  | e :: rest =>
    if k < e.1 then (k, v) :: e :: rest
    else if e.1 < k then e :: insertEntry k v rest
    else (k, v) :: rest

/-- Drop the entry of a key. -/
def eraseEntry (k : κ) : List (κ × α) → List (κ × α)
  | [] => []
  | e :: rest => if k < e.1 ∨ e.1 < k then e :: eraseEntry k rest else rest

/-- The value of a key in an entry list. -/
def findEntry (k : κ) : List (κ × α) → Option α
  | [] => none
  | e :: rest => if k < e.1 ∨ e.1 < k then findEntry k rest else some e.2

theorem mem_insertEntry {k : κ} {v : α} : ∀ {l : List (κ × α)} {e : κ × α},
    e ∈ insertEntry k v l → e = (k, v) ∨ e ∈ l
  | [], e, h => by simpa [insertEntry] using h
  | d :: rest, e, h => by
    unfold insertEntry at h
    split at h
    · simpa using h
    · split at h
      · rcases List.mem_cons.mp h with h | h
        · exact .inr (h ▸ List.mem_cons_self)
        · exact (mem_insertEntry h).imp id (List.mem_cons_of_mem _)
      · rcases List.mem_cons.mp h with h | h
        · exact .inl h
        · exact .inr (List.mem_cons_of_mem _ h)

theorem mem_eraseEntry {k : κ} : ∀ {l : List (κ × α)} {e : κ × α}, e ∈ eraseEntry k l → e ∈ l
  | [], _, h => h
  | d :: rest, e, h => by
    unfold eraseEntry at h
    split at h
    · rcases List.mem_cons.mp h with h | h
      · exact h ▸ List.mem_cons_self
      · exact List.mem_cons_of_mem _ (mem_eraseEntry h)
    · exact List.mem_cons_of_mem _ h

theorem ascending_insertEntry [Key κ] {k : κ} {v : α} : ∀ {l : List (κ × α)},
    Ascending l → Ascending (insertEntry k v l)
  | [], _ => by simp [Ascending, insertEntry]
  | e :: rest, h => by
    obtain ⟨hhead, htail⟩ := List.pairwise_cons.mp h
    unfold insertEntry
    split
    · next hlt =>
      refine List.pairwise_cons.mpr ⟨fun d hd => ?_, h⟩
      rcases List.mem_cons.mp hd with hd | hd
      · exact hd ▸ hlt
      · exact Key.lt_trans hlt (hhead d hd)
    · split
      · next hgt =>
        refine List.pairwise_cons.mpr ⟨fun d hd => ?_, ascending_insertEntry htail⟩
        rcases mem_insertEntry hd with hd | hd
        · exact hd ▸ hgt
        · exact hhead d hd
      · next h₁ h₂ =>
        have heq : k = e.1 := Key.eq_of_not_lt h₁ h₂
        exact List.pairwise_cons.mpr ⟨fun d hd => heq ▸ hhead d hd, htail⟩

theorem ascending_eraseEntry {k : κ} : ∀ {l : List (κ × α)},
    Ascending l → Ascending (eraseEntry k l)
  | [], h => h
  | e :: rest, h => by
    obtain ⟨hhead, htail⟩ := List.pairwise_cons.mp h
    unfold eraseEntry
    split
    · exact List.pairwise_cons.mpr ⟨fun d hd => hhead d (mem_eraseEntry hd), ascending_eraseEntry htail⟩
    · exact htail

theorem findEntry_insertEntry_self [Key κ] (k : κ) (v : α) : ∀ l : List (κ × α),
    findEntry k (insertEntry k v l) = some v
  | [] => by simp [insertEntry, findEntry, Key.lt_irrefl]
  | e :: rest => by
    unfold insertEntry
    split
    · simp [findEntry, Key.lt_irrefl]
    · split
      · next hgt => simp [findEntry, hgt, findEntry_insertEntry_self k v rest]
      · simp [findEntry, Key.lt_irrefl]

theorem findEntry_insertEntry_of_ne [Key κ] {j k : κ} (v : α) (h : j ≠ k) : ∀ l : List (κ × α),
    findEntry j (insertEntry k v l) = findEntry j l
  | [] => by
    have : j < k ∨ k < j := by
      by_cases h₁ : j < k
      · exact .inl h₁
      · by_cases h₂ : k < j
        · exact .inr h₂
        · exact absurd (Key.eq_of_not_lt h₁ h₂) h
    simp [insertEntry, findEntry, this]
  | e :: rest => by
    have hjk : j < k ∨ k < j := by
      by_cases h₁ : j < k
      · exact .inl h₁
      · by_cases h₂ : k < j
        · exact .inr h₂
        · exact absurd (Key.eq_of_not_lt h₁ h₂) h
    unfold insertEntry
    split
    · simp [findEntry, hjk]
    · split
      · simp only [findEntry, findEntry_insertEntry_of_ne v h rest]
      · next h₁ h₂ =>
        have heq : k = e.1 := Key.eq_of_not_lt h₁ h₂
        simp only [findEntry, if_pos hjk, if_pos (heq ▸ hjk : j < e.1 ∨ e.1 < j)]

theorem findEntry_cons [Key κ] [DecidableEq κ] (k : κ) (e : κ × α) (rest : List (κ × α)) :
    findEntry k (e :: rest) = if k = e.1 then some e.2 else findEntry k rest := by
  rw [findEntry]
  by_cases h : k = e.1
  · have hsame : ¬ (k < e.1 ∨ e.1 < k) := by simp [h, Key.lt_irrefl]
    rw [if_neg hsame, if_pos h]
  · have hother : k < e.1 ∨ e.1 < k := by
      refine Classical.byContradiction fun hnot => h ?_
      exact Key.eq_of_not_lt (fun hlt => hnot (.inl hlt)) fun hlt => hnot (.inr hlt)
    rw [if_pos hother, if_neg h]

/-- A key below all others has no entry. -/
theorem findEntry_eq_none [Key κ] {k : κ} : ∀ {l : List (κ × α)}, (∀ e ∈ l, k < e.1) →
    findEntry k l = none
  | [], _ => rfl
  | e :: rest, h => by
    have he : k < e.1 := h e List.mem_cons_self
    simp [findEntry, he, findEntry_eq_none (fun d hd => h d (List.mem_cons_of_mem _ hd))]

theorem findEntry_eq_some_iff [Key κ] [DecidableEq κ] {k : κ} {v : α} : ∀ {l : List (κ × α)},
    Ascending l → (findEntry k l = some v ↔ (k, v) ∈ l)
  | [], _ => by simp [findEntry]
  | e :: rest, h => by
    obtain ⟨hhead, htail⟩ := List.pairwise_cons.mp h
    rw [findEntry_cons, List.mem_cons, Prod.ext_iff]
    split
    · next heq =>
      have hrest : (k, v) ∉ rest := fun hmem => Key.lt_irrefl _ (heq ▸ hhead _ hmem)
      rw [or_iff_left hrest, Option.some.injEq, eq_comm]
      exact (and_iff_right heq).symm
    · next hne =>
      rw [findEntry_eq_some_iff htail]
      exact (or_iff_right fun heq => hne heq.1).symm

theorem isSome_findEntry_iff [Key κ] {k : κ} : ∀ {l : List (κ × α)},
    (findEntry k l).isSome = true ↔ k ∈ l.map Prod.fst
  | [] => by simp [findEntry]
  | e :: rest => by
    rw [List.map_cons, List.mem_cons, findEntry]
    split
    · next hne =>
      have hk : k ≠ e.1 := by
        rintro rfl
        exact hne.elim (Key.lt_irrefl _) (Key.lt_irrefl _)
      rw [isSome_findEntry_iff, or_iff_right hk]
    · next hne =>
      have heq : k = e.1 := Key.eq_of_not_lt (fun h₁ => hne (.inl h₁)) (fun h₂ => hne (.inr h₂))
      exact iff_of_true rfl (.inl heq)

theorem findEntry_eraseEntry_self [Key κ] (k : κ) : ∀ {l : List (κ × α)}, Ascending l →
    findEntry k (eraseEntry k l) = none
  | [], _ => rfl
  | e :: rest, h => by
    obtain ⟨hhead, htail⟩ := List.pairwise_cons.mp h
    unfold eraseEntry
    split
    · next hne => simp [findEntry, hne, findEntry_eraseEntry_self k htail]
    · next hne =>
      have heq : k = e.1 := Key.eq_of_not_lt (fun h₁ => hne (.inl h₁)) (fun h₂ => hne (.inr h₂))
      exact findEntry_eq_none (fun d hd => heq ▸ hhead d hd)

theorem findEntry_eraseEntry_of_ne [Key κ] {j k : κ} (h : j ≠ k) : ∀ l : List (κ × α),
    findEntry j (eraseEntry k l) = findEntry j l
  | [] => rfl
  | e :: rest => by
    unfold eraseEntry
    split
    · simp only [findEntry, findEntry_eraseEntry_of_ne h rest]
    · next hne =>
      have heq : k = e.1 := Key.eq_of_not_lt (fun h₁ => hne (.inl h₁)) (fun h₂ => hne (.inr h₂))
      have hj : j < e.1 ∨ e.1 < j := by
        by_cases h₁ : j < e.1
        · exact .inl h₁
        · by_cases h₂ : e.1 < j
          · exact .inr h₂
          · exact absurd ((Key.eq_of_not_lt h₁ h₂).trans heq.symm) h
      simp [findEntry, hj]

theorem lt_of_findEntry {j k : κ} {v : α} : ∀ {l : List (κ × α)},
    (∀ e ∈ l, j < e.1) → [Key κ] → findEntry k l = some v → j < k
  | [], _, _, h => by simp [findEntry] at h
  | e :: rest, hlt, _, h => by
    unfold findEntry at h
    split at h
    · exact lt_of_findEntry (fun d hd => hlt d (List.mem_cons_of_mem _ hd)) h
    · next hne =>
      have heq : k = e.1 := Key.eq_of_not_lt (fun h₁ => hne (.inl h₁)) (fun h₂ => hne (.inr h₂))
      exact heq ▸ hlt e List.mem_cons_self

/-- Ascending entry lists that answer alike are equal. -/
theorem eq_of_findEntry_eq [Key κ] : ∀ {l m : List (κ × α)}, Ascending l → Ascending m →
    (∀ k, findEntry k l = findEntry k m) → l = m
  | [], [], _, _, _ => rfl
  | [], e :: rest, _, _, h => by
    have := h e.1
    simp [findEntry, Key.lt_irrefl] at this
  | e :: rest, [], _, _, h => by
    have := h e.1
    simp [findEntry, Key.lt_irrefl] at this
  | d :: l, e :: m, hl, hm, h => by
    obtain ⟨hdl, hl'⟩ := List.pairwise_cons.mp hl
    obtain ⟨hem, hm'⟩ := List.pairwise_cons.mp hm
    have hdd : findEntry d.1 (e :: m) = some d.2 := by
      rw [← h d.1]; simp [findEntry, Key.lt_irrefl]
    have hee : findEntry e.1 (d :: l) = some e.2 := by
      rw [h e.1]; simp [findEntry, Key.lt_irrefl]
    have hkey : d.1 = e.1 := by
      refine Key.eq_of_not_lt (fun hlt => ?_) (fun hlt => ?_)
      · have : d.1 < d.1 := by
          refine lt_of_findEntry (l := e :: m) (fun x hx => ?_) hdd
          rcases List.mem_cons.mp hx with hx | hx
          · exact hx ▸ hlt
          · exact Key.lt_trans hlt (hem x hx)
        exact Key.lt_irrefl _ this
      · have : e.1 < e.1 := by
          refine lt_of_findEntry (l := d :: l) (fun x hx => ?_) hee
          rcases List.mem_cons.mp hx with hx | hx
          · exact hx ▸ hlt
          · exact Key.lt_trans hlt (hdl x hx)
        exact Key.lt_irrefl _ this
    have hval : d.2 = e.2 := by
      have : findEntry d.1 (e :: m) = some e.2 := by
        simp [findEntry, hkey, Key.lt_irrefl]
      exact Option.some.inj (hdd.symm.trans this)
    have hrest : l = m := by
      refine eq_of_findEntry_eq hl' hm' (fun k => ?_)
      have hk := h k
      simp only [findEntry] at hk
      by_cases hne : k < d.1 ∨ d.1 < k
      · rw [if_pos hne, if_pos (hkey ▸ hne)] at hk
        exact hk
      · have heq : k = d.1 := Key.eq_of_not_lt (fun h₁ => hne (.inl h₁)) (fun h₂ => hne (.inr h₂))
        rw [heq, findEntry_eq_none hdl, findEntry_eq_none (fun x hx => hkey ▸ hem x hx)]
    rw [hrest, Prod.ext hkey hval]

/-! ## Dictionaries -/

/-- The dictionary without entries. -/
def empty {κ α : Type} [LT κ] : Dict κ α := ⟨[], List.Pairwise.nil⟩

instance : Inhabited (Dict κ α) := ⟨empty⟩

instance [DecidableEq κ] [DecidableEq α] : DecidableEq (Dict κ α) := fun d e =>
  if h : d.entries = e.entries then
    isTrue (by cases d; cases e; cases h; rfl)
  else isFalse (fun he => h (he ▸ rfl))

/-- The value of a key. -/
def find? (d : Dict κ α) (k : κ) : Option α := findEntry k d.entries

/-- Whether a key has a value. -/
def contains (d : Dict κ α) (k : κ) : Bool := (d.find? k).isSome

/-- Give a key a value, replacing the one it had. -/
def insert [Key κ] (d : Dict κ α) (k : κ) (v : α) : Dict κ α :=
  ⟨insertEntry k v d.entries, ascending_insertEntry d.ascending⟩

/-- Take a key's value away; without effect if it has none. -/
def erase (d : Dict κ α) (k : κ) : Dict κ α :=
  ⟨eraseEntry k d.entries, ascending_eraseEntry d.ascending⟩

/-- The keys in increasing order. -/
def keys (d : Dict κ α) : List κ := d.entries.map Prod.fst

/-- How many keys have a value. -/
def size (d : Dict κ α) : Nat := d.entries.length

/-- Whether no key has a value. -/
def isEmpty (d : Dict κ α) : Bool := d.entries.isEmpty

/-- Insert a list of pairs from left to right: of a repeated key the last value stays. -/
def insertAll [Key κ] (d : Dict κ α) (pairs : List (κ × α)) : Dict κ α :=
  pairs.foldl (fun d e => d.insert e.1 e.2) d

/-- The dictionary of a list of pairs; of a repeated key the last value stays. -/
def ofList [Key κ] (pairs : List (κ × α)) : Dict κ α := insertAll empty pairs

/-! ## Laws -/

/-- **A dictionary is determined by its look-ups.** -/
theorem ext_find? [Key κ] {d e : Dict κ α} (h : ∀ k, d.find? k = e.find? k) : d = e := by
  have : d.entries = e.entries := eq_of_findEntry_eq d.ascending e.ascending h
  cases d; cases e; cases this; rfl

@[simp] theorem find?_empty (k : κ) : (empty : Dict κ α).find? k = none := rfl

@[simp] theorem find?_insert_self [Key κ] (d : Dict κ α) (k : κ) (v : α) :
    (d.insert k v).find? k = some v := findEntry_insertEntry_self k v d.entries

theorem find?_insert_of_ne [Key κ] (d : Dict κ α) {j k : κ} (v : α) (h : j ≠ k) :
    (d.insert k v).find? j = d.find? j := findEntry_insertEntry_of_ne v h d.entries

@[simp] theorem find?_erase_self [Key κ] (d : Dict κ α) (k : κ) : (d.erase k).find? k = none :=
  findEntry_eraseEntry_self k d.ascending

theorem find?_erase_of_ne [Key κ] (d : Dict κ α) {j k : κ} (h : j ≠ k) :
    (d.erase k).find? j = d.find? j := findEntry_eraseEntry_of_ne h d.entries

theorem find?_insert [Key κ] [DecidableEq κ] (d : Dict κ α) (j k : κ) (v : α) :
    (d.insert k v).find? j = if j = k then some v else d.find? j := by
  split
  · next h => rw [h, find?_insert_self]
  · next h => exact find?_insert_of_ne d v h

theorem find?_erase [Key κ] [DecidableEq κ] (d : Dict κ α) (j k : κ) :
    (d.erase k).find? j = if j = k then none else d.find? j := by
  split
  · next h => rw [h, find?_erase_self]
  · next h => exact find?_erase_of_ne d h

theorem find?_eq_some_iff [Key κ] [DecidableEq κ] {d : Dict κ α} {k : κ} {v : α} :
    d.find? k = some v ↔ (k, v) ∈ d.entries := findEntry_eq_some_iff d.ascending

theorem mem_keys_iff [Key κ] {d : Dict κ α} {k : κ} : k ∈ d.keys ↔ d.contains k = true :=
  isSome_findEntry_iff.symm

omit [DecidableLT κ] in
@[simp] theorem isEmpty_empty : (empty : Dict κ α).isEmpty = true := rfl

@[simp] theorem isEmpty_insert [Key κ] (d : Dict κ α) (k : κ) (v : α) :
    (d.insert k v).isEmpty = false := by
  change (insertEntry k v d.entries).isEmpty = false
  cases d.entries with
  | nil => rfl
  | cons e rest =>
    simp only [insertEntry]
    split
    · rfl
    · split <;> rfl

/-! ## Listing and rebuilding -/

/-- An entry above all others goes to the end. -/
theorem insertEntry_of_above [Key κ] {k : κ} {v : α} : ∀ {l : List (κ × α)}, (∀ e ∈ l, e.1 < k) →
    insertEntry k v l = l ++ [(k, v)]
  | [], _ => rfl
  | e :: rest, h => by
    have habove : e.1 < k := h e List.mem_cons_self
    have hnot : ¬ k < e.1 := fun hlt => Key.lt_irrefl _ (Key.lt_trans habove hlt)
    rw [insertEntry, if_neg hnot, if_pos habove,
      insertEntry_of_above fun d hd => h d (List.mem_cons_of_mem _ hd)]
    rfl

/-- Entries that go on in order are appended. -/
theorem entries_insertAll [Key κ] : ∀ {l : List (κ × α)} {d : Dict κ α},
    Ascending (d.entries ++ l) → (d.insertAll l).entries = d.entries ++ l
  | [], d, _ => (List.append_nil d.entries).symm
  | e :: rest, d, h => by
    have habove : ∀ x ∈ d.entries, x.1 < e.1 := fun x hx =>
      (List.pairwise_append.mp h).2.2 x hx e List.mem_cons_self
    have hinsert : (d.insert e.1 e.2).entries = d.entries ++ [e] := insertEntry_of_above habove
    have hsplit : d.entries ++ e :: rest = (d.insert e.1 e.2).entries ++ rest := by
      rw [hinsert, List.append_assoc]
      rfl
    rw [hsplit] at h ⊢
    exact entries_insertAll h

/-- **A dictionary is rebuilt from its entries.** -/
theorem ofList_entries [Key κ] (d : Dict κ α) : ofList d.entries = d := by
  have hentries : (ofList d.entries).entries = d.entries :=
    entries_insertAll (d := empty) d.ascending
  refine ext_find? fun k => ?_
  unfold find?
  rw [hentries]

end Dict

end CloudGrant
