import Mathlib.Data.List.DropRight
import CloudGrant.Naming

/-!
# Base names

Which of a path's segments gives the base name of an application type. The segments are what stands
between the slashes (`segments_eq_splitOn`); one that is empty or `.` names nothing, so the last of the
others decides (`lastComponent?`). What names nothing can follow it (`lastComponent?_append_flatten`),
such as the slashes that are taken off the end (`lastComponent?_withoutSlashes`).

The last component is the name that the path ends in, unless it is `..` (`fileName?_eq_some_iff`), and so
it is the base name of the type (`base_of_name`); without such a name the type stands for itself
(`base_of_no_name`).
-/

namespace CloudGrant.Naming

/-! ## Segments -/

theorem segments_eq_splitOn (c : Char) (s : List Char) : segments c s = s.splitOn c := by
  induction s with
  | nil => rfl
  | cons d s ih =>
    rw [segments, List.splitOn_cons_eq_if_modifyHead, ih]
    by_cases h : d = c
    · simp [h]
    · rw [if_neg h, if_neg (by simpa using h)]
      cases hs : s.splitOn c with
      | nil => exact absurd hs (List.splitOn_ne_nil c s)
      | cons first more => rfl

theorem segments_of_notMem {s : List Char} (h : '/' ∉ s) : segments '/' s = [s] := by
  rw [segments_eq_splitOn, List.splitOn_eq_singleton h]

theorem segments_append (s t : List Char) :
    segments '/' (s ++ '/' :: t) = segments '/' s ++ segments '/' t := by
  simp only [segments_eq_splitOn, List.splitOn_append_cons_self]

/-- A text that does not end in a slash has a last segment that is not empty. -/
theorem segments_snoc {z : Char} (h : z ≠ '/') (s : List Char) :
    ∃ l last, segments '/' (s ++ [z]) = l ++ [last ++ [z]] := by
  induction s with
  | nil => exact ⟨[], [], segments_of_notMem (by simpa using Ne.symm h)⟩
  | cons c s ih =>
    obtain ⟨l, last, hs⟩ := ih
    rw [List.cons_append, segments, hs]
    by_cases hc : c = '/'
    · exact ⟨[] :: l, last, by rw [if_pos hc]; rfl⟩
    · rw [if_neg hc]
      cases l with
      | nil => exact ⟨[], c :: last, rfl⟩
      | cons first more => exact ⟨(c :: first) :: more, last, rfl⟩

/-- No segment holds the separator. -/
theorem notMem_of_mem_segments {c : Char} {s x : List Char} (h : x ∈ segments c s) : c ∉ x := by
  induction s generalizing x with
  | nil => simp_all [segments]
  | cons d s ih =>
    rw [segments] at h
    by_cases hd : d = c
    · rw [if_pos hd] at h
      rcases List.mem_cons.mp h with rfl | h
      · simp
      · exact ih h
    · rw [if_neg hd] at h
      cases hs : segments c s with
      | nil => exact absurd hs (segments_ne_nil c s)
      | cons first more =>
        simp only [hs, List.mem_cons] at h
        rcases h with rfl | h
        · have hfirst : c ∉ first := ih (by simp [hs])
          simpa [hfirst] using Ne.symm hd
        · exact ih (by simp [hs, h])

/-! ## The last component -/

/-- Of what stands between the slashes of a path, the last that is neither empty nor `.`. -/
def lastComponent? (path : List Char) : Option (List Char) :=
  ((path.splitOn '/').filter fun c => c ≠ [] ∧ c ≠ ['.']).getLast?

theorem notMem_of_lastComponent? {path c : List Char} (h : lastComponent? path = some c) :
    '/' ∉ c := by
  have hmem : c ∈ path.splitOn '/' := List.mem_of_mem_filter (List.mem_of_getLast? h)
  rw [← segments_eq_splitOn] at hmem
  exact notMem_of_mem_segments hmem

/-- What follows a slash decides, if anything there is a component. -/
theorem lastComponent?_append (s t : List Char) :
    lastComponent? (s ++ '/' :: t) = (lastComponent? t).or (lastComponent? s) := by
  unfold lastComponent?
  rw [List.splitOn_append_cons_self, List.filter_append, List.getLast?_append]

/-- **What names nothing can follow a path.** -/
theorem lastComponent?_append_flatten {marks : List (List Char)}
    (h : ∀ t ∈ marks, t = ['/'] ∨ t = ['/', '.']) (s : List Char) :
    lastComponent? (s ++ marks.flatten) = lastComponent? s := by
  induction marks generalizing s with
  | nil => simp
  | cons t marks ih =>
    have hmark : lastComponent? (s ++ t) = lastComponent? s := by
      rcases h t (by simp) with rfl | rfl
      · exact lastComponent?_append s []
      · exact lastComponent?_append s ['.']
    rw [List.flatten_cons, ← List.append_assoc, ih (fun u hu => h u (by simp [hu])), hmark]

/-- The same of texts: slashes, and a `.` after a slash, in any number. -/
theorem lastComponent?_append_join {marks : List String}
    (h : ∀ mark ∈ marks, mark = "/" ∨ mark = "/.") (path : String) :
    lastComponent? (path ++ String.join marks).toList = lastComponent? path.toList := by
  have hmarks : ∀ t ∈ marks.map String.toList, t = ['/'] ∨ t = ['/', '.'] := by
    intro t ht
    obtain ⟨mark, hmark, rfl⟩ := List.mem_map.mp ht
    rcases h mark hmark with rfl | rfl
    · exact .inl rfl
    · exact .inr rfl
  rw [String.toList_append, String.toList_join, List.flatMap_def]
  exact lastComponent?_append_flatten hmarks _

/-- The slashes at the end of a path do not matter. -/
theorem lastComponent?_withoutSlashes (s : List Char) :
    lastComponent? (withoutSlashes s) = lastComponent? s := by
  have hs : withoutSlashes s ++ s.rtakeWhile (· = '/') = s := List.rdropWhile_append_rtakeWhile
  have hmarks : ∀ t ∈ (s.rtakeWhile (· = '/')).map ([·]), t = ['/'] ∨ t = ['/', '.'] := by
    intro t ht
    obtain ⟨c, hc, rfl⟩ := List.mem_map.mp ht
    exact .inl (by simpa using List.mem_rtakeWhile_imp hc)
  have hpadded := lastComponent?_append_flatten hmarks (withoutSlashes s)
  rw [← List.flatMap_def, List.flatMap_singleton'] at hpadded
  rw [← hpadded, hs]

/-! ## The name at the end -/

/-- Components stand for the segments that are neither empty nor `.`. -/
theorem filterMap_ofSegment? (l : List (List Char)) :
    l.filterMap Component.ofSegment? =
      (l.filter fun c => c ≠ [] ∧ c ≠ ['.']).map
        fun c => if c = ['.', '.'] then Component.parent else .name c := by
  induction l with
  | nil => rfl
  | cons c l ih =>
    rw [List.filterMap_cons, ih, Component.ofSegment?]
    by_cases hc : c = [] ∨ c = ['.']
    · rw [if_pos hc, List.filter_cons_of_neg (by simpa [or_iff_not_imp_left] using hc)]
    · rw [if_neg hc, List.filter_cons_of_pos (by simpa using not_or.mp hc), List.map_cons]

/-- Where a path starts is no name. -/
theorem start?_ne_name (path n : List Char) : start? path ≠ some (.name n) := by
  unfold start?
  split <;> simp

/-- A path ends in its last component, or else where it starts. -/
theorem getLast?_components (path : List Char) :
    (components path).getLast? =
      ((lastComponent? path).map fun c =>
        if c = ['.', '.'] then Component.parent else .name c).or (start? path) := by
  have hstart : (start? path).toList.getLast? = start? path := by cases start? path <;> rfl
  unfold components lastComponent?
  rw [List.getLast?_append, filterMap_ofSegment?, segments_eq_splitOn, List.getLast?_map, hstart]

/-- **The name that a path ends in is its last component**, if that is not `..`. -/
theorem fileName?_eq_some_iff {path n : List Char} :
    fileName? path = some n ↔ lastComponent? path = some n ∧ n ≠ ['.', '.'] := by
  rw [fileName?, getLast?_components]
  cases lastComponent? path with
  | none =>
    rw [Option.map_none, Option.none_or]
    constructor
    · intro h
      split at h
      · next hstart => exact absurd hstart (start?_ne_name path _)
      · cases h
    · rintro ⟨h, -⟩
      cases h
  | some c =>
    rw [Option.map_some, Option.some_or]
    by_cases hc : c = ['.', '.']
    · rw [if_pos hc, hc]
      constructor
      · intro h
        cases h
      · rintro ⟨h, hn⟩
        exact absurd (Option.some.inj h).symm hn
    · rw [if_neg hc]
      constructor
      · rintro ⟨⟩
        exact ⟨rfl, hc⟩
      · exact And.left

/-! ## Base names -/

variable {applicationType : String} {c : List Char}

theorem base_of_name (h : lastComponent? applicationType.toList = some c) (hc : c ≠ ['.', '.']) :
    base applicationType = String.ofList c := by
  have hname : fileName? (withoutSlashes applicationType.toList) = some c := by
    rw [fileName?_eq_some_iff, lastComponent?_withoutSlashes]
    exact ⟨h, hc⟩
  rw [base, hname]

theorem base_of_no_name (h : ∀ c, lastComponent? applicationType.toList = some c → c = ['.', '.']) :
    base applicationType = applicationType := by
  cases hname : fileName? (withoutSlashes applicationType.toList) with
  | none => rw [base, hname]
  | some n =>
    rw [fileName?_eq_some_iff, lastComponent?_withoutSlashes] at hname
    exact absurd (h n hname.1) hname.2

end CloudGrant.Naming
