/-!
# Replacing every occurrence

`replaceAll pattern value s` puts `value` for each occurrence of `pattern`, found from left to
right without overlap; text once inserted is not looked at again. The empty pattern occurs before
each character and at the end.

## Termination

`replaceOccurrences` drops at least one character of the text in each round, because the pattern
has a first character.
-/

namespace CloudGrant.Text

/-- What follows a leading `p`, if the text starts with it. -/
def afterPrefix? : (p s : List Char) → Option (List Char)
  | [], s => some s
  | _ :: _, [] => none
  | a :: p, b :: s => if a = b then afterPrefix? p s else none

theorem afterPrefix?_eq_some_iff : ∀ {p s r : List Char},
    afterPrefix? p s = some r ↔ s = p ++ r
  | [], s, r => by simp [afterPrefix?]
  | a :: p, [], r => by simp [afterPrefix?]
  | a :: p, b :: s, r => by
    unfold afterPrefix?
    split
    · next h => simp [h, afterPrefix?_eq_some_iff]
    · next h => simp [Ne.symm h]

theorem afterPrefix?_eq_none_iff {p s : List Char} : afterPrefix? p s = none ↔ ¬ p <+: s := by
  rw [Option.eq_none_iff_forall_ne_some]
  constructor
  · rintro h ⟨r, rfl⟩
    exact h r (afterPrefix?_eq_some_iff.mpr rfl)
  · intro h r hr
    exact h ⟨r, (afterPrefix?_eq_some_iff.mp hr).symm⟩

theorem length_of_afterPrefix? {p s r : List Char} (h : afterPrefix? p s = some r) :
    s.length = p.length + r.length := by
  rw [afterPrefix?_eq_some_iff.mp h, List.length_append]

/-- Put `value` for each occurrence of the pattern `first :: more`. -/
def replaceOccurrences (first : Char) (more value : List Char) : List Char → List Char
  | [] => []
  | c :: s =>
    match _h : afterPrefix? (first :: more) (c :: s) with
    | some rest => value ++ replaceOccurrences first more value rest
    | none => c :: replaceOccurrences first more value s
termination_by s => s.length
decreasing_by
  · have := length_of_afterPrefix? _h
    simp only [List.length_cons] at this ⊢
    omega
  · exact Nat.lt_succ_self _

/-- Put `value` for each occurrence of `pattern`. -/
def replaceAll (pattern value s : List Char) : List Char :=
  match pattern with
  | [] => value ++ s.flatMap (fun c => c :: value)
  | first :: more => replaceOccurrences first more value s

theorem replaceOccurrences_append (first : Char) (more value rest : List Char) :
    replaceOccurrences first more value (first :: more ++ rest) =
      value ++ replaceOccurrences first more value rest := by
  rw [List.cons_append, replaceOccurrences]
  have h : afterPrefix? (first :: more) (first :: (more ++ rest)) = some rest :=
    afterPrefix?_eq_some_iff.mpr rfl
  split
  · next r hr => rw [h] at hr; rw [Option.some.inj hr]
  · next hr => rw [h] at hr; cases hr

theorem replaceOccurrences_cons_of_none {first : Char} {more value s : List Char} {c : Char}
    (h : afterPrefix? (first :: more) (c :: s) = none) :
    replaceOccurrences first more value (c :: s) =
      c :: replaceOccurrences first more value s := by
  rw [replaceOccurrences]
  split
  · next r hr => rw [h] at hr; cases hr
  · rfl

end CloudGrant.Text
