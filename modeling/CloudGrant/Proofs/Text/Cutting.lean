import Mathlib.Data.List.TakeWhile
import CloudGrant.Text.Blank

/-!
# Texts that are cut

Where a text is cut at the first character of a kind depends on what stands before the cut alone: what
follows the text can be added before the cut or after it (`cut_append`). So it is with what is trimmed
off the ends of a text that ends in a character that stays (`trimWhile_append`).
-/

namespace CloudGrant.Text

/-! ## Up to a mark -/

theorem all_ne {c : Char} {s : List Char} (h : c ∉ s) : ∀ d ∈ s, decide (d ≠ c) = true := by
  intro d hd
  refine decide_eq_true ?_
  rintro rfl
  exact h hd

/-- What is dropped up to a character that does not occur before. -/
theorem dropWhile_ne {c : Char} {s : List Char} (h : c ∉ s) (r : List Char) :
    (s ++ c :: r).dropWhile (· ≠ c) = c :: r := by
  rw [List.dropWhile_append_of_pos (all_ne h), List.dropWhile_cons_of_neg (by simp)]

theorem takeWhile_ne {c : Char} {s : List Char} (h : c ∉ s) (r : List Char) :
    (s ++ c :: r).takeWhile (· ≠ c) = s := by
  rw [List.takeWhile_append_of_pos (all_ne h), List.takeWhile_cons_of_neg (by simp),
    List.append_nil]

/-- Everything is dropped if the mark does not occur. -/
theorem dropWhile_ne_eq_nil_iff {c : Char} {s : List Char} :
    s.dropWhile (· ≠ c) = [] ↔ c ∉ s := by
  rw [List.dropWhile_eq_nil_iff]
  exact ⟨fun h hc => absurd rfl (of_decide_eq_true (h c hc)), all_ne⟩

/-! ## Up to a character of a kind -/

section Kind

variable {α : Type} {p : α → Bool} {z : α}

/-- If a text is cut then what follows the text comes after the cut. -/
theorem cut_append {s : List α} (h : s.dropWhile p ≠ []) (t : List α) :
    (s ++ t).dropWhile p = s.dropWhile p ++ t ∧ (s ++ t).takeWhile p = s.takeWhile p := by
  have hlength : (s.takeWhile p).length ≠ s.length := by
    intro he
    have hsum := congrArg List.length (List.takeWhile_append_dropWhile (p := p) (l := s))
    rw [List.length_append] at hsum
    exact h (List.length_eq_zero_iff.mp (by omega))
  rw [List.dropWhile_append, if_neg (by simpa using h), List.takeWhile_append, if_neg hlength]
  exact ⟨rfl, rfl⟩

/-- What starts with a character to be cut at can follow a text without moving the cut. -/
theorem cut_append_cons (hz : p z = false) (s t : List α) :
    (s ++ z :: t).dropWhile p = s.dropWhile p ++ z :: t ∧
      (s ++ z :: t).takeWhile p = s.takeWhile p := by
  by_cases h : s.dropWhile p = []
  · have hall : ∀ x ∈ s, p x = true := List.dropWhile_eq_nil_iff.mp h
    have hz' : ¬ p z = true := by simp [hz]
    refine ⟨?_, ?_⟩
    · rw [List.dropWhile_append_of_pos hall, List.dropWhile_cons_of_neg hz', h, List.nil_append]
    · rw [List.takeWhile_append_of_pos hall, List.takeWhile_cons_of_neg hz', List.append_nil,
        List.takeWhile_eq_self_iff.mpr hall]
  · exact cut_append h (z :: t)

theorem dropWhile_snoc (hz : p z = false) (s : List α) :
    (s ++ [z]).dropWhile p = s.dropWhile p ++ [z] := by
  rw [List.dropWhile_append]
  split
  · next h => simp [List.isEmpty_iff.mp h, hz]
  · rfl

theorem trimWhile_snoc (hz : p z = false) (s : List α) :
    trimWhile p (s ++ [z]) = s.dropWhile p ++ [z] := by
  unfold trimWhile
  rw [dropWhile_snoc hz, List.reverse_append, List.reverse_singleton, List.singleton_append,
    List.dropWhile_cons_of_neg (by simp [hz])]
  simp

/-- What follows a text without anything to be dropped at its end is not dropped either. -/
theorem trimWhile_append (hz : p z = false) (s : List α) {t : List α} (ht : ∀ c ∈ t, p c = false) :
    trimWhile p (s ++ [z] ++ t) = trimWhile p (s ++ [z]) ++ t := by
  rcases List.eq_nil_or_concat t with rfl | ⟨t, y, rfl⟩
  · rw [List.append_nil, List.append_nil]
  · have hy : p y = false := ht y (by simp)
    have hdrop : (s ++ [z] ++ t).dropWhile p = s.dropWhile p ++ [z] ++ t := by
      rw [List.dropWhile_append, dropWhile_snoc hz, if_neg (by simp)]
    rw [List.concat_eq_append, ← List.append_assoc, trimWhile_snoc hy, trimWhile_snoc hz, hdrop]
    simp

end Kind

end CloudGrant.Text
