import Mathlib.Data.List.Nodup
import CloudGrant.Text.Replace

/-!
# Replacing one pattern after another

A text in which the patterns of a table stand apart from each other splits into pieces: characters
that stay, and slots, one for each occurrence (`exists_marked`). To replace one pattern is to fill its
slots (`replaceAll_marked`). This holds of a text in which other slots are filled already, because no
pattern reaches into a value: a value has at least one character, and no pattern has any of its
characters (`startsWith_of_filled`). So to replace all patterns one after the other is to fill all
slots at once, in whatever order it is done (`replaceEach_marked`).
-/

namespace CloudGrant.Text

/-! ## Texts without occurrences -/

/-- Text in which no occurrence starts is kept. -/
theorem replaceOccurrences_keep {first : Char} {more value u s : List Char}
    (h : ∀ i < u.length, ¬ first :: more <+: (u ++ s).drop i) :
    replaceOccurrences first more value (u ++ s) = u ++ replaceOccurrences first more value s := by
  induction u with
  | nil => rfl
  | cons c u ih =>
    have hhead : afterPrefix? (first :: more) (c :: (u ++ s)) = none :=
      afterPrefix?_eq_none_iff.mpr (h 0 (Nat.succ_pos _))
    rw [List.cons_append, replaceOccurrences_cons_of_none hhead, ih fun i hi => ?_,
      List.cons_append]
    exact h (i + 1) (Nat.succ_lt_succ hi)

/-! ## Pieces -/

/-- A piece of a text: a character that stays, or a slot for a value that stands at a pattern. -/
inductive Piece where
  | kept (c : Char)
  | slot (pattern value : List Char)

namespace Piece

/-- The text of a piece where some patterns are replaced. -/
def textAfter (replaced : List (List Char)) : Piece → List Char
  | kept c => [c]
  | slot pattern value => if pattern ∈ replaced then value else pattern

/-- The text of a piece before anything is replaced. -/
def source : Piece → List Char
  | kept c => [c]
  | slot pattern _ => pattern

/-- The text of a piece with its slot filled. -/
def target : Piece → List Char
  | kept c => [c]
  | slot _ value => value

theorem textAfter_slot_of_mem {replaced : List (List Char)} {p v : List Char} (h : p ∈ replaced) :
    textAfter replaced (slot p v) = v := if_pos h

theorem textAfter_slot_of_notMem {replaced : List (List Char)} {p v : List Char}
    (h : p ∉ replaced) : textAfter replaced (slot p v) = p := if_neg h

theorem textAfter_nil : textAfter [] = source := by
  funext piece
  cases piece <;> simp [textAfter, source]

end Piece

/-- A table of patterns and values in which each pattern has one value, nothing is empty and no
value shares a character with a pattern. -/
structure Clean (table : List (List Char × List Char)) : Prop where
  distinct : (table.map Prod.fst).Nodup
  pattern_ne : ∀ e ∈ table, e.1 ≠ []
  value_ne : ∀ e ∈ table, e.2 ≠ []
  apart : ∀ e ∈ table, ∀ f ∈ table, ∀ c ∈ e.2, c ∉ f.1

/-- The occurrences of the patterns in a text do not overlap. -/
def Apart (table : List (List Char × List Char)) (s : List Char) : Prop :=
  ∀ e ∈ table, ∀ f ∈ table, ∀ m n, e.1 <+: s.drop m → f.1 <+: s.drop n →
    (e = f ∧ m = n) ∨ m + e.1.length ≤ n ∨ n + f.1.length ≤ m

/-- Of the pieces, each slot is one of the table, and no pattern of the table starts anywhere but at
a slot of its own. -/
inductive Marked (table : List (List Char × List Char)) : List Piece → Prop where
  | nil : Marked table []
  | kept {c : Char} {pieces : List Piece}
      (hnone : ∀ e ∈ table, ¬ e.1 <+: c :: pieces.flatMap Piece.source)
      (hrest : Marked table pieces) : Marked table (.kept c :: pieces)
  | slot {e : List Char × List Char} {pieces : List Piece} (he : e ∈ table)
      (honly : ∀ f ∈ table, ∀ i < e.1.length,
        f.1 <+: (e.1 ++ pieces.flatMap Piece.source).drop i → f = e ∧ i = 0)
      (hrest : Marked table pieces) : Marked table (.slot e.1 e.2 :: pieces)

section

variable {table : List (List Char × List Char)} {pieces : List Piece} {s : List Char}

theorem Apart.drop (h : Apart table s) (k : Nat) : Apart table (s.drop k) := by
  intro e he f hf m n hm hn
  rw [List.drop_drop] at hm hn
  rcases h e he f hf _ _ hm hn with ⟨rfl, hmn⟩ | hmn | hmn
  · exact .inl ⟨rfl, by omega⟩
  · exact .inr (.inl (by omega))
  · exact .inr (.inr (by omega))

/-- Where a pattern starts in a text. -/
def occurrences (pattern s : List Char) : List Nat :=
  (List.range s.length).filter fun n => pattern.isPrefixOf (s.drop n)

theorem mem_occurrences {pattern : List Char} (hne : pattern ≠ []) {n : Nat}
    (h : pattern <+: s.drop n) : n ∈ occurrences pattern s := by
  refine List.mem_filter.mpr ⟨List.mem_range.mpr (Nat.lt_of_not_le fun hle => hne ?_), ?_⟩
  · rwa [List.drop_eq_nil_of_le hle, List.prefix_nil] at h
  · exact List.isPrefixOf_iff_prefix.mpr h

/-- Whether the patterns stand apart can be told from where they start. -/
theorem apart_of_occurrences (hclean : Clean table)
    (h : ∀ e ∈ table, ∀ f ∈ table, ∀ m ∈ occurrences e.1 s, ∀ n ∈ occurrences f.1 s,
      (e = f ∧ m = n) ∨ m + e.1.length ≤ n ∨ n + f.1.length ≤ m) : Apart table s :=
  fun e he f hf m n hm hn => h e he f hf m (mem_occurrences (hclean.pattern_ne e he) hm) n
    (mem_occurrences (hclean.pattern_ne f hf) hn)

/-- **A text in which the patterns stand apart splits into pieces with a slot at each
occurrence.** -/
theorem exists_marked (hclean : Clean table) (h : Apart table s) :
    ∃ pieces, pieces.flatMap Piece.source = s ∧ Marked table pieces := by
  -- what follows a slot is shorter, but not by one character
  induction hn : s.length using Nat.strongRecOn generalizing s with
  | ind n ih =>
    subst hn
    cases s with
    | nil => exact ⟨[], rfl, .nil⟩
    | cons c s =>
      by_cases hhead : ∃ e ∈ table, e.1 <+: c :: s
      · obtain ⟨e, he, rest, hrest⟩ := hhead
        have hpos := List.length_pos_iff.mpr (hclean.pattern_ne e he)
        have hdrop : (c :: s).drop e.1.length = rest := by rw [← hrest, List.drop_left]
        have hlength : rest.length < (c :: s).length := by
          rw [← hrest, List.length_append]
          omega
        obtain ⟨pieces, rfl, hmarked⟩ := ih _ hlength (hdrop ▸ h.drop _) rfl
        refine ⟨.slot e.1 e.2 :: pieces, hrest, .slot he (fun f hf i hi hstart => ?_) hmarked⟩
        rw [hrest] at hstart
        rcases h e he f hf 0 i ⟨_, hrest⟩ hstart with ⟨rfl, rfl⟩ | hle | hle
        · exact ⟨rfl, rfl⟩
        · omega
        · have := List.length_pos_iff.mpr (hclean.pattern_ne f hf)
          omega
      · obtain ⟨pieces, rfl, hmarked⟩ := ih _ (Nat.lt_succ_self _) (h.drop 1) rfl
        exact ⟨.kept c :: pieces, rfl, .kept (fun e he hstart => hhead ⟨e, he, hstart⟩) hmarked⟩

theorem Marked.mem_table (h : Marked table pieces) {pattern value : List Char}
    (hmem : Piece.slot pattern value ∈ pieces) : (pattern, value) ∈ table := by
  induction h with
  | nil => cases hmem
  | kept hnone hrest ih => exact ih ((List.mem_cons.mp hmem).resolve_left nofun)
  | slot he honly hrest ih =>
    rcases List.mem_cons.mp hmem with heq | hmem
    · cases heq
      exact he
    · exact ih hmem

/-- Each occurrence of a pattern is a slot. -/
theorem Marked.exists_slot (hclean : Clean table) (h : Marked table pieces)
    {e : List Char × List Char} (he : e ∈ table) {n : Nat}
    (hn : e.1 <+: (pieces.flatMap Piece.source).drop n) :
    ∃ before after, pieces = before ++ .slot e.1 e.2 :: after ∧
      (before.flatMap Piece.source).length = n := by
  induction h generalizing n with
  | nil =>
    rw [List.flatMap_nil, List.drop_nil, List.prefix_nil] at hn
    exact absurd hn (hclean.pattern_ne e he)
  | @kept c pieces hnone hrest ih =>
    cases n with
    | zero => exact absurd hn (hnone e he)
    | succ n =>
      obtain ⟨before, after, rfl, rfl⟩ := ih hn
      exact ⟨.kept c :: before, after, rfl, rfl⟩
  | @slot f pieces hf honly hrest ih =>
    rw [List.flatMap_cons] at hn
    by_cases hlt : n < f.1.length
    · obtain ⟨rfl, rfl⟩ := honly e he n hlt hn
      exact ⟨[], pieces, rfl, rfl⟩
    · obtain ⟨k, rfl⟩ := Nat.exists_eq_add_of_le (Nat.not_lt.mp hlt)
      rw [Piece.source, ← List.drop_drop, List.drop_left] at hn
      obtain ⟨before, after, rfl, rfl⟩ := ih hn
      refine ⟨.slot f.1 f.2 :: before, after, rfl, ?_⟩
      rw [List.flatMap_cons, List.length_append]
      rfl

/-! ## Filling slots -/

/-- What stands at the start of a text and lacks the character at which the text goes on ends before
that character. -/
theorem startsWith_before {q u t : List Char} {d : Char} (hd : d ∉ q) (h : q <+: u ++ d :: t) :
    q <+: u := by
  rcases List.prefix_or_prefix_of_prefix h (List.prefix_append u _) with hq | ⟨q', rfl⟩
  · exact hq
  · cases q' with
    | nil => exact (List.append_nil u).symm ▸ List.prefix_rfl
    | cons c q' =>
      rw [List.prefix_append_right_inj] at h
      have hcd := (List.cons_prefix_cons.mp h).1
      exact absurd (List.mem_append_right u (hcd ▸ List.mem_cons_self)) hd

/-- A pattern at the start of a text with filled slots was there before they were filled. -/
theorem startsWith_of_filled {replaced : List (List Char)} {q : List Char}
    (hvalue : ∀ p v, Piece.slot p v ∈ pieces → v ≠ [] ∧ ∀ c ∈ v, c ∉ q) {u : List Char}
    (h : q <+: u ++ pieces.flatMap (Piece.textAfter replaced)) :
    q <+: u ++ pieces.flatMap Piece.source := by
  -- the pattern ends before the first slot that is filled
  induction pieces generalizing u with
  | nil => exact h
  | cons piece pieces ih =>
    have hrest := fun {u} => @ih (fun p v hmem => hvalue p v (List.mem_cons_of_mem _ hmem)) u
    rw [List.flatMap_cons] at h ⊢
    cases piece with
    | kept c =>
      rw [← List.append_assoc] at h ⊢
      exact hrest h
    | slot p v =>
      by_cases hmem : p ∈ replaced
      · rw [Piece.textAfter_slot_of_mem hmem] at h
        obtain ⟨hne, hnot⟩ := hvalue p v List.mem_cons_self
        obtain ⟨d, v, rfl⟩ := List.exists_cons_of_ne_nil hne
        have hu := startsWith_before (hnot d List.mem_cons_self) h
        exact List.prefix_append_of_prefix hu
      · rw [Piece.textAfter_slot_of_notMem hmem, ← List.append_assoc] at h
        rw [← List.append_assoc]
        exact hrest h

/-- A pattern of the table that starts in a text with filled slots starts there before. -/
theorem Marked.startsWith (hclean : Clean table) (h : Marked table pieces)
    {e : List Char × List Char} (he : e ∈ table) {replaced : List (List Char)} {u : List Char}
    (hstart : e.1 <+: u ++ pieces.flatMap (Piece.textAfter replaced)) :
    e.1 <+: u ++ pieces.flatMap Piece.source := by
  refine startsWith_of_filled (fun p v hmem => ?_) hstart
  exact ⟨hclean.value_ne _ (h.mem_table hmem), hclean.apart _ (h.mem_table hmem) e he⟩

theorem Clean.eq_of_pattern_eq (hclean : Clean table) {e f : List Char × List Char}
    (he : e ∈ table) (hf : f ∈ table) (h : e.1 = f.1) : e = f :=
  List.inj_on_of_nodup_map hclean.distinct he hf h

/-- In a slot, filled or not, no pattern of the table starts but that of the slot. -/
theorem not_startsWith_slot (hclean : Clean table) {e f : List Char × List Char} (he : e ∈ table)
    (hf : f ∈ table) (hne : f.1 ≠ e.1)
    (honly : ∀ g ∈ table, ∀ i < f.1.length,
      g.1 <+: (f.1 ++ pieces.flatMap Piece.source).drop i → g = f ∧ i = 0)
    (hrest : Marked table pieces) {replaced : List (List Char)} {i : Nat}
    (hi : i < (Piece.textAfter replaced (.slot f.1 f.2)).length) :
    ¬ e.1 <+: (Piece.textAfter replaced (.slot f.1 f.2) ++
      pieces.flatMap (Piece.textAfter replaced)).drop i := by
  intro hstart
  rw [List.drop_append_of_le_length (Nat.le_of_lt hi)] at hstart
  by_cases hmem : f.1 ∈ replaced
  · -- the pattern would have a character of the value
    rw [Piece.textAfter_slot_of_mem hmem] at hi hstart
    obtain ⟨d, v, hv⟩ := List.exists_cons_of_ne_nil (List.drop_eq_nil_iff.not.mpr (Nat.not_le.mpr hi))
    obtain ⟨c, more, hpattern⟩ := List.exists_cons_of_ne_nil (hclean.pattern_ne e he)
    rw [hpattern, hv] at hstart
    obtain rfl : c = d := (List.cons_prefix_cons.mp hstart).1
    have hvalue : c ∈ f.2 := List.mem_of_mem_drop (hv ▸ List.mem_cons_self)
    exact hclean.apart f hf e he c hvalue (hpattern ▸ List.mem_cons_self)
  · rw [Piece.textAfter_slot_of_notMem hmem] at hi hstart
    have hsource := hrest.startsWith hclean he hstart
    rw [← List.drop_append_of_le_length (Nat.le_of_lt hi)] at hsource
    exact hne (congrArg Prod.fst (honly e he i hi hsource).1).symm

/-- To replace a pattern is to fill its slots, whatever other slots are filled already. -/
theorem replaceAll_marked (hclean : Clean table) (h : Marked table pieces)
    {e : List Char × List Char} (he : e ∈ table) {replaced : List (List Char)}
    (hnew : e.1 ∉ replaced) :
    replaceAll e.1 e.2 (pieces.flatMap (Piece.textAfter replaced)) =
      pieces.flatMap (Piece.textAfter (e.1 :: replaced)) := by
  obtain ⟨c, more, hpattern⟩ := List.exists_cons_of_ne_nil (hclean.pattern_ne e he)
  have hreplace : ∀ s, replaceAll e.1 e.2 s = replaceOccurrences c more e.2 s := by
    intro s
    rw [hpattern]
    rfl
  rw [hreplace]
  induction h with
  | nil =>
    unfold replaceOccurrences
    rfl
  | @kept d pieces hnone hrest ih =>
    have hkept :
        afterPrefix? (c :: more) (d :: pieces.flatMap (Piece.textAfter replaced)) = none := by
      refine afterPrefix?_eq_none_iff.mpr fun hstart => hnone e he ?_
      rw [← hpattern] at hstart
      exact hrest.startsWith (u := [d]) hclean he hstart
    rw [List.flatMap_cons, List.flatMap_cons, ← ih]
    exact replaceOccurrences_cons_of_none hkept
  | @slot f pieces hf honly hrest ih =>
    rw [List.flatMap_cons, List.flatMap_cons, ← ih]
    by_cases hfe : f.1 = e.1
    · cases hclean.eq_of_pattern_eq hf he hfe
      rw [Piece.textAfter_slot_of_notMem hnew, Piece.textAfter_slot_of_mem List.mem_cons_self,
        hpattern]
      exact replaceOccurrences_append c more e.2 _
    · have hsame : Piece.textAfter (e.1 :: replaced) (.slot f.1 f.2) =
          Piece.textAfter replaced (.slot f.1 f.2) := by
        simp [Piece.textAfter, hfe]
      rw [hsame]
      exact replaceOccurrences_keep fun i hi =>
        hpattern ▸ not_startsWith_slot hclean he hf hfe honly hrest hi

/-- Replace one pattern of a table after the other. -/
def replaceEach (table : List (List Char × List Char)) (s : List Char) : List Char :=
  table.foldl (fun s e => replaceAll e.1 e.2 s) s

theorem replaceEach_filled (hclean : Clean table) (h : Marked table pieces)
    {l : List (List Char × List Char)} {replaced : List (List Char)} (hl : ∀ e ∈ l, e ∈ table)
    (hdistinct : (l.map Prod.fst).Nodup) (hnew : ∀ e ∈ l, e.1 ∉ replaced) :
    replaceEach l (pieces.flatMap (Piece.textAfter replaced)) =
      pieces.flatMap (Piece.textAfter ((l.map Prod.fst).reverse ++ replaced)) := by
  induction l generalizing replaced with
  | nil => rfl
  | cons e l ih =>
    obtain ⟨he, hl⟩ := List.forall_mem_cons.mp hl
    obtain ⟨hnew, hrest⟩ := List.forall_mem_cons.mp hnew
    obtain ⟨hnot, hdistinct⟩ := List.nodup_cons.mp hdistinct
    have hfirst := replaceAll_marked hclean h he hnew
    unfold replaceEach at ih ⊢
    rw [List.foldl_cons, hfirst, ih hl hdistinct fun f hf => ?_, List.map_cons, List.reverse_cons,
      List.append_assoc]
    · rfl
    · intro hmem
      rcases List.mem_cons.mp hmem with heq | hmem
      · exact hnot (heq ▸ List.mem_map_of_mem hf)
      · exact hrest f hf hmem

theorem Marked.flatMap_target (h : Marked table pieces) {replaced : List (List Char)}
    (hall : ∀ e ∈ table, e.1 ∈ replaced) :
    pieces.flatMap (Piece.textAfter replaced) = pieces.flatMap Piece.target := by
  induction h with
  | nil => rfl
  | kept hnone hrest ih =>
    rw [List.flatMap_cons, List.flatMap_cons, ih]
    rfl
  | slot he honly hrest ih =>
    rw [List.flatMap_cons, List.flatMap_cons, ih, Piece.textAfter_slot_of_mem (hall _ he)]
    rfl

/-- **To replace the patterns of a table one after the other, in whatever order, is to fill all slots
at once.** -/
theorem replaceEach_marked (hclean : Clean table) (h : Marked table pieces)
    {l : List (List Char × List Char)} (hl : l.Perm table) :
    replaceEach l (pieces.flatMap Piece.source) = pieces.flatMap Piece.target := by
  have hdistinct : (l.map Prod.fst).Nodup := (hl.map _).nodup_iff.mpr hclean.distinct
  rw [← Piece.textAfter_nil, replaceEach_filled hclean h (fun e he => hl.mem_iff.mp he) hdistinct
    fun e _ => List.not_mem_nil]
  refine h.flatMap_target fun e he => ?_
  rw [List.append_nil, List.mem_reverse]
  exact List.mem_map_of_mem (hl.mem_iff.mpr he)

end

end CloudGrant.Text
