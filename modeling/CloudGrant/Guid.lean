/-!
# Guids

The guid in the names of an application's resources is eight random bytes, written as lower-case
hexadecimal digits. Different bytes give different guids (`ofBytes_injective`).
-/

namespace CloudGrant.Guid

/-- How many bytes a guid has. -/
def size : Nat := 8

/-- A byte as two digits. -/
def digits (b : UInt8) : List Char := [Nat.digitChar (b.toNat / 16), Nat.digitChar (b.toNat % 16)]

/-- The guid of random bytes. -/
def ofBytes (bytes : List UInt8) : String := String.ofList (bytes.flatMap digits)

/-! ## Different guids -/

/-- The value of a digit. -/
def value (c : Char) : Nat := if c.isDigit then c.toNat - 48 else c.toNat - 87

theorem value_digitChar : ∀ n : Nat, n < 16 → value (Nat.digitChar n) = n := by decide

theorem digits_injective {a b : UInt8} (h : digits a = digits b) : a = b := by
  have ha := a.toNat_lt
  have hb := b.toNat_lt
  simp only [digits, List.cons.injEq, and_true] at h
  have high := congrArg value h.1
  have low := congrArg value h.2
  rw [value_digitChar _ (by omega), value_digitChar _ (by omega)] at high
  rw [value_digitChar _ (by omega), value_digitChar _ (by omega)] at low
  exact UInt8.toNat_inj.mp (by omega)

theorem flatMap_digits_injective : ∀ {l m : List UInt8}, l.flatMap digits = m.flatMap digits → l = m
  | [], [], _ => rfl
  | [], _ :: _, h => by simp [digits] at h
  | _ :: _, [], h => by simp [digits] at h
  | a :: l, b :: m, h => by
    rw [List.flatMap_cons, List.flatMap_cons] at h
    obtain ⟨hd, tl⟩ := List.append_inj h rfl
    rw [digits_injective hd, flatMap_digits_injective tl]

/-- **Different bytes give different guids.** -/
theorem ofBytes_injective {l m : List UInt8} (h : ofBytes l = ofBytes m) : l = m :=
  flatMap_digits_injective (String.ofList_injective h)

end CloudGrant.Guid
