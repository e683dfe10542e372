import CloudGrant.Http.Url
import CloudGrant.Proofs.Naming
import CloudGrant.Proofs.Text.Cutting
import CloudGrant.Proofs.Text.Utf8

/-!
# URLs that are put together

The URL of a request is the text of a base, followed by a path and a query. Read as a URL, it is the base
with the segments of the path walked down from the base's own (`IsBase.parse?_append`). No character
of the path can reach what stands before it, but a segment of dots can: it is no place to go down to.

The proof follows the reader from cut to cut: the ends of the text (`tidy_append`), the scheme
(`splitScheme?_append`), the path with what follows it (`Tail.ofChars_append`), the segments
(`segmentsOf_append`, `walk_append`), and with these the authority (`ofAuthority?_append`).
-/

namespace CloudGrant

namespace Text.Percent

/-- A text of characters that are all kept stands for itself. -/
theorem encode_of_keep {keep : Char → Bool} {s : List Char} (h : ∀ c ∈ s, keep c = true) :
    encode keep s = s := by
  induction s with
  | nil => rfl
  | cons c s ih =>
    obtain ⟨hc, hs⟩ := List.forall_mem_cons.mp h
    have hrest : s.flatMap (encodeChar keep) = s := ih hs
    rw [encode, List.flatMap_cons, hrest, encodeChar, if_pos hc]
    rfl

theorem encode_ne_nil (keep : Char → Bool) {s : List Char} (h : s ≠ []) : encode keep s ≠ [] := by
  cases s with
  | nil => exact absurd rfl h
  | cons c s =>
    refine List.append_ne_nil_of_left_ne_nil ?_ _
    unfold encodeChar
    split
    · exact List.cons_ne_nil _ _
    · cases hc : Utf8.encodeChar c with
      | nil => exact absurd hc (Utf8.encodeChar_ne_nil c)
      | cons b bs => exact List.cons_ne_nil _ _

end Text.Percent

namespace Http.Url

open Naming (segments)

/-! ## Walking down -/

/-- The place that a segment leads to, if more follows. -/
def enter (place : List (List Char)) (s : List Char) : List (List Char) :=
  if isDoubleDot s then place.dropLast else if isDot s then place else place ++ [s]

/-- The segments of a URL's path as a place to go down from: an empty segment at the end is none. -/
def directory (u : Url) : List (List Char) :=
  if u.segmentList.getLast? = some [] then u.segmentList.dropLast else u.segmentList

theorem walk_cons {place l : List (List Char)} (s : List Char) (h : l ≠ []) :
    walk place (s :: l) = walk (enter place s) l := by
  cases l with
  | nil => exact absurd rfl h
  | cons t l =>
    rw [walk, enter]
    · split
      · rfl
      · split <;> rfl
    · exact List.cons_ne_nil _ _

theorem walk_append {l' : List (List Char)} (h : l' ≠ []) (place l : List (List Char)) :
    walk place (l ++ l') = walk (l.foldl enter place) l' := by
  induction l generalizing place with
  | nil => rfl
  | cons s l ih =>
    rw [List.cons_append, walk_cons s (List.append_ne_nil_of_right_ne_nil l h), ih]
    rfl

/-- Segments that are no dots are where they lead to. -/
theorem walk_of_no_dots {l : List (List Char)}
    (h : ∀ s ∈ l, isDot s = false ∧ isDoubleDot s = false) (place : List (List Char)) :
    walk place l = place ++ l := by
  induction l generalizing place with
  | nil => exact (List.append_nil place).symm
  | cons s l ih =>
    obtain ⟨⟨hdot, hdouble⟩, hl⟩ := List.forall_mem_cons.mp h
    cases l with
    | nil => simp [walk, hdot, hdouble]
    | cons t l =>
      rw [walk_cons s (List.cons_ne_nil t l), ih hl, enter, hdouble, hdot]
      simp

/-- A path that does not end in a slash is gone down from where it leads to. -/
theorem directory_of_walk {u : Url} {l : List (List Char)} {last : List Char} (hlast : last ≠ [])
    (h : u.segmentList = walk [] (l ++ [last])) : u.directory = (l ++ [last]).foldl enter [] := by
  rw [walk_append (List.cons_ne_nil _ _)] at h
  rw [directory, h, List.foldl_append]
  generalize l.foldl enter [] = place
  show (if (walk place [last]).getLast? = some [] then _ else walk place [last]) = enter place last
  rw [walk, enter]
  split
  · simp
  · split
    · simp
    · simp [hlast]

/-! ## Dots -/

theorem toNat_toLower (c : Char) : c.toLower.toNat =
    if 65 ≤ c.toNat ∧ c.toNat ≤ 90 then c.toNat + 32 else c.toNat := by
  have hiff : (c.val ≥ 'A'.val ∧ c.val ≤ 'Z'.val) ↔ 65 ≤ c.toNat ∧ c.toNat ≤ 90 := Iff.rfl
  unfold Char.toLower
  by_cases h : c.val ≥ 'A'.val ∧ c.val ≤ 'Z'.val
  · have hupper : c.toNat ≤ 90 := h.2
    rw [dif_pos h, if_pos (hiff.mp h)]
    show (c.val + 32).toNat = c.val.toNat + 32
    rw [UInt32.toNat_add]
    show (c.toNat + 32) % 4294967296 = c.toNat + 32
    omega
  · rw [dif_neg h, if_neg (mt hiff.mpr h)]

/-- The value of a hexadecimal digit does not depend on its case. -/
theorem value?_toLower (c : Char) :
    Text.Percent.value? c.toLower = Text.Percent.value? c := by
  unfold Text.Percent.value?
  simp only [toNat_toLower]
  grind

theorem eq_of_toLower {c d : Char} (hd : ¬ (97 ≤ d.toNat ∧ d.toNat ≤ 122)) (h : c.toLower = d) :
    c = d := by
  have hc := toNat_toLower c
  rw [h] at hc
  refine Char.toNat_inj.mp ?_
  split at hc <;> omega

/-- A dot, or an escape that stands for one, is read as a dot. -/
theorem exists_decode_dot {s t : List Char}
    (h : s.map Char.toLower = '.' :: t ∨ s.map Char.toLower = '%' :: '2' :: 'e' :: t) :
    ∃ s', s'.map Char.toLower = t ∧ Text.Percent.decode s = 0x2E :: Text.Percent.decode s' := by
  rcases h with h | h
  · obtain ⟨c, s', rfl, hc, hs⟩ := List.map_eq_cons_iff.mp h
    obtain rfl : c = '.' := eq_of_toLower (by decide) hc
    exact ⟨s', hs, Text.Percent.decode_cons (by decide) s'⟩
  · obtain ⟨c, s₁, rfl, hc, h₁⟩ := List.map_eq_cons_iff.mp h
    obtain ⟨x, s₂, rfl, hx, h₂⟩ := List.map_eq_cons_iff.mp h₁
    obtain ⟨y, s', rfl, hy, hs⟩ := List.map_eq_cons_iff.mp h₂
    obtain rfl : c = '%' := eq_of_toLower (by decide) hc
    have hhigh : Text.Percent.value? x = some 2 := by rw [← value?_toLower, hx]; rfl
    have hlow : Text.Percent.value? y = some 14 := by rw [← value?_toLower, hy]; rfl
    refine ⟨s', hs, ?_⟩
    rw [Text.Percent.decode, hhigh, hlow]
    rfl

theorem decode_of_isDot {s : List Char} (h : isDot s = true) : Text.Percent.decode s = [0x2E] := by
  simp only [isDot, Bool.or_eq_true, beq_iff_eq] at h
  obtain ⟨s', hs, hdecode⟩ := exists_decode_dot h
  rw [hdecode, List.map_eq_nil_iff.mp hs]
  rfl

theorem decode_of_isDoubleDot {s : List Char} (h : isDoubleDot s = true) :
    Text.Percent.decode s = [0x2E, 0x2E] := by
  have hfirst : ∃ t, (s.map Char.toLower = '.' :: t ∨ s.map Char.toLower = '%' :: '2' :: 'e' :: t) ∧
      (t = ['.'] ∨ t = ['%', '2', 'e']) := by
    simp only [isDoubleDot, List.contains_iff_mem, List.mem_cons, List.not_mem_nil, or_false] at h
    rcases h with h | h | h | h
    · exact ⟨_, .inl h, .inl rfl⟩
    · exact ⟨_, .inl h, .inr rfl⟩
    · exact ⟨_, .inr h, .inl rfl⟩
    · exact ⟨_, .inr h, .inr rfl⟩
  obtain ⟨t, hs, ht⟩ := hfirst
  obtain ⟨s', hs', hdecode⟩ := exists_decode_dot hs
  obtain ⟨s'', hs'', hdecode'⟩ := exists_decode_dot (hs'.symm ▸ ht)
  rw [hdecode, hdecode', List.map_eq_nil_iff.mp hs'']
  rfl

/-! ## Ids as segments -/

/-- A character of a path that stands for itself and separates nothing. -/
def isSegmentChar (c : Char) : Bool := keepsPath c && !isSlash true c

theorem toNat_lt_of_isUnreserved {c : Char} (h : Text.Percent.isUnreserved c = true) :
    c.toNat < 128 := by
  change (c.isUpper || c.isLower || c.isDigit || c == '-' || c == '.' || c == '_' || c == '~') =
    true at h
  simp only [Bool.or_eq_true, beq_iff_eq] at h
  have hbelow : ∀ z : Char, z.toNat < 128 → c.val ≤ z.val → c.toNat < 128 := fun z hz hc =>
    Nat.lt_of_le_of_lt (UInt32.le_iff_toNat_le.mp hc) hz
  rcases h with ((((((h | h) | h) | rfl) | rfl) | rfl) | rfl)
  · exact hbelow 'Z' (by decide) (of_decide_eq_true h).2
  · exact hbelow 'z' (by decide) (of_decide_eq_true (Bool.and_eq_true_iff.mp h).2)
  · exact hbelow '9' (by decide) (of_decide_eq_true (Bool.and_eq_true_iff.mp h).2)
  all_goals decide

theorem isSegmentChar_of_isUnreserved {c : Char} (h : Text.Percent.isUnreserved c = true) :
    isSegmentChar c = true := by
  have hall : ∀ n < 128, Text.Percent.isUnreserved (Char.ofNat n) = true →
      isSegmentChar (Char.ofNat n) = true := by decide
  have hlt := toNat_lt_of_isUnreserved h
  rw [← Char.ofNat_toNat c] at h ⊢
  exact hall c.toNat hlt h

theorem isSegmentChar_of_mem_component {id : String} {c : Char}
    (h : c ∈ Text.Percent.component id) : isSegmentChar c = true := by
  obtain ⟨d, -, hd⟩ := List.mem_flatMap.mp h
  unfold Text.Percent.encodeChar at hd
  split at hd
  · next hkeep =>
    rw [List.mem_singleton.mp hd]
    exact isSegmentChar_of_isUnreserved hkeep
  · obtain ⟨b, -, hb⟩ := List.mem_flatMap.mp hd
    have hdigit : ∀ n < 16, isSegmentChar (Text.Percent.digit n) = true := by decide
    have hbyte := b.toNat_lt
    simp only [Text.Percent.escape, List.mem_cons, List.not_mem_nil, or_false] at hb
    rcases hb with rfl | rfl | rfl
    · decide
    · exact hdigit _ (by omega)
    · exact hdigit _ (by omega)

theorem decode_component (id : String) :
    Text.Percent.decode (Text.Percent.component id) = Text.Utf8.encode id :=
  Text.Percent.decode_encode (by decide) id.toList

theorem component_inj {id id' : String} :
    Text.Percent.component id = Text.Percent.component id' ↔ id = id' := by
  constructor
  · intro h
    exact Text.Utf8.encode_injective (by rw [← decode_component, h, decode_component])
  · rintro rfl
    rfl

/-- Only two texts are written as segments of dots: no character of theirs is escaped. -/
theorem isDot_component_iff {id : String} :
    isDot (Text.Percent.component id) = true ↔ id = "." := by
  constructor
  · intro h
    have hdecode := decode_of_isDot h
    rw [decode_component] at hdecode
    exact Text.Utf8.encode_injective hdecode
  · rintro rfl
    decide

theorem isDoubleDot_component_iff {id : String} :
    isDoubleDot (Text.Percent.component id) = true ↔ id = ".." := by
  constructor
  · intro h
    have hdecode := decode_of_isDoubleDot h
    rw [decode_component] at hdecode
    exact Text.Utf8.encode_injective hdecode
  · rintro rfl
    decide

/-! ## The ends of a text -/

/-- The characters that may stand at the ends of the text of a URL without a meaning. -/
def isEdge (c : Char) : Bool := c.toNat ≤ 0x20

/-- What is dropped inside a text is of the kind that is dropped at its ends. -/
theorem filter_of_not_isEdge {t : List Char} (h : ∀ c ∈ t, isEdge c = false) :
    t.filter (fun c => c ≠ '\t' ∧ c ≠ '\n' ∧ c ≠ '\r') = t := by
  refine List.filter_eq_self.mpr fun c hc => decide_eq_true ?_
  have hedge := h c hc
  refine ⟨?_, ?_, ?_⟩ <;> (rintro rfl; exact absurd hedge (by decide))

theorem tidy_append {z : Char} (hz : isEdge z = false) (s : List Char) {t : List Char}
    (ht : ∀ c ∈ t, isEdge c = false) : tidy (s ++ [z] ++ t) = tidy (s ++ [z]) ++ t := by
  show (Text.trimWhile isEdge (s ++ [z] ++ t)).filter _ =
    (Text.trimWhile isEdge (s ++ [z])).filter _ ++ t
  rw [Text.trimWhile_append hz s ht, List.filter_append, filter_of_not_isEdge ht]

/-- The last character of a text is kept if it means something. -/
theorem exists_tidy_snoc {z : Char} (hz : isEdge z = false) (s : List Char) :
    ∃ r, tidy (s ++ [z]) = r ++ [z] := by
  show ∃ r, (Text.trimWhile isEdge (s ++ [z])).filter _ = r ++ [z]
  have hlast : ∀ c ∈ [z], isEdge c = false := by simpa using hz
  rw [Text.trimWhile_snoc hz, List.filter_append, filter_of_not_isEdge hlast]
  exact ⟨_, rfl⟩

/-! ## Scheme and authority -/

theorem splitScheme?_append {s scheme rest : List Char} (h : splitScheme? s = some (scheme, rest)) :
    rest <:+ s ∧ ∀ t, splitScheme? (s ++ t) = some (scheme, rest ++ t) := by
  cases s with
  | nil => cases h
  | cons c s =>
    unfold splitScheme? at h
    simp only at h
    split at h
    · next hc =>
      split at h
      · next r hr =>
        cases h
        have hsuffix : ':' :: rest <:+ c :: s := hr ▸ List.dropWhile_suffix isSchemeChar
        refine ⟨(List.suffix_cons ':' rest).trans hsuffix, fun t => ?_⟩
        obtain ⟨hdrop, htake⟩ :=
          Text.cut_append (p := isSchemeChar) (hr ▸ List.cons_ne_nil ':' rest) t
        rw [hr, List.cons_append] at hdrop
        rw [List.cons_append] at hdrop htake
        rw [List.cons_append]
        simp only [splitScheme?, if_pos hc, hdrop, htake]
      · cases h
    · cases h

/-- Whether a character ends the authority of a web URL. -/
def isStop (c : Char) : Bool := isSlash true c || c == '?' || c == '#'

/-- User, host and port of an authority. -/
def authority? (scheme s : List Char) :
    Option (Option (List Char × List Char) × List Char × Option Nat) := do
  let (user, place) := splitUser s
  let (name, portText) := splitPort place
  let host ← specialHost? name
  let port ← port? scheme portText
  some (user.bind userInfo?, host, port)

/-- The segments of the path that follows an authority. -/
def segmentsAfter : List Char → List (List Char)
  | [] => [[]]
  | _ :: path => walk [] (segmentsOf true path)

/-- Authority and tail of a URL are read apart from each other. -/
theorem ofAuthority?_eq {scheme : List Char} (h : isSpecial scheme = true) (s : List Char) :
    ofAuthority? scheme s = (authority? scheme (s.takeWhile fun c => !isStop c)).map fun a =>
      let tail := Tail.ofChars (s.dropWhile fun c => !isStop c)
      withTail ⟨scheme, a.1, some a.2.1, a.2.2, .segments (segmentsAfter tail.path), none, none⟩
        tail := by
  unfold ofAuthority? authority? isStop segmentsAfter
  simp only [h, if_true]
  cases splitUser (s.takeWhile fun c => !(isSlash true c || c == '?' || c == '#')) with
  | mk user place =>
    dsimp only
    cases specialHost? (splitPort place).1 with
    | none => rfl
    | some host =>
      cases port? scheme (splitPort place).2 with
      | none => rfl
      | some port => rfl

theorem scheme_of_ofAuthority? {scheme s : List Char} {u : Url}
    (h : ofAuthority? scheme s = some u) : u.scheme = scheme := by
  unfold ofAuthority? at h
  dsimp only at h
  split at h
  all_goals
    simp only [Option.bind_eq_bind, Option.bind_eq_some_iff] at h
    obtain ⟨host, -, port, -, h⟩ := h
    cases h
    rfl

theorem scheme_of_ofFile? {s : List Char} {u : Url} (h : ofFile? s = some u) :
    u.scheme = fileScheme := by
  unfold ofFile? at h
  dsimp only at h
  repeat' split at h
  all_goals
    simp only [Option.bind_eq_bind, Option.bind_eq_some_iff] at h
    obtain ⟨host, -, h⟩ := h
    cases h
    rfl

theorem scheme_of_ofScheme? {scheme s : List Char} {u : Url} (h : ofScheme? scheme s = some u) :
    u.scheme = scheme := by
  unfold ofScheme? at h
  split at h
  · next hfile => exact (scheme_of_ofFile? h).trans hfile.symm
  · split at h
    · exact scheme_of_ofAuthority? h
    · split at h
      · exact scheme_of_ofAuthority? h
      · cases h
        rfl

/-- The URL of a web scheme starts with its authority, whatever slashes stand before it. -/
theorem ofScheme?_of_isWeb {scheme s : List Char} {u : Url} (h : ofScheme? scheme s = some u)
    (hweb : u.isWeb = true) : isSpecial scheme = true ∧
      ∀ t, ofScheme? scheme t = ofAuthority? scheme (t.dropWhile (isSlash true)) := by
  have hscheme : scheme = "http".toList ∨ scheme = "https".toList := by
    rw [← scheme_of_ofScheme? h]
    simpa [isWeb] using hweb
  have hspecial : scheme ≠ fileScheme ∧ isSpecial scheme = true := by
    rcases hscheme with rfl | rfl <;> decide
  refine ⟨hspecial.2, fun t => ?_⟩
  unfold ofScheme?
  rw [if_neg hspecial.1, if_pos hspecial.2]

/-! ## Path, query and fragment -/

theorem cut_of_notMem {mark : Char} {s : List Char} (h : mark ∉ s) : cut mark s = (s, none) := by
  unfold cut
  rw [Text.dropWhile_ne_eq_nil_iff.mpr h]

theorem notMem_of_cut {mark : Char} {s : List Char} (h : (cut mark s).2 = none) :
    mark ∉ s ∧ (cut mark s).1 = s := by
  have hmem : mark ∉ s := by
    unfold cut at h
    split at h
    · next hdrop => exact Text.dropWhile_ne_eq_nil_iff.mp hdrop
    · cases h
  exact ⟨hmem, by rw [cut_of_notMem hmem]⟩

theorem cut_append {mark : Char} {s : List Char} (h : mark ∉ s) (t : List Char) :
    cut mark (s ++ mark :: t) = (s, some t) := by
  unfold cut
  rw [Text.dropWhile_ne h, Text.takeWhile_ne h]

/-- The query of a URL as it stands in its text. -/
def queryText (query : Option (List Char)) : List Char := (query.map ('?' :: ·)).getD []

/-- Path and query are told apart by the mark between them. -/
theorem Tail.ofChars_append {path : List Char} {query : Option (List Char)} (hpath : '?' ∉ path)
    (h : '#' ∉ path ++ queryText query) :
    Tail.ofChars (path ++ queryText query) = ⟨path, query, none⟩ := by
  rw [Tail.ofChars, cut_of_notMem h]
  cases query with
  | none => simp [queryText, cut_of_notMem hpath]
  | some q => simp [queryText, cut_append hpath]

theorem Tail.ofChars_of_notMem {path : List Char} (hmark : '?' ∉ path) (hhash : '#' ∉ path) :
    Tail.ofChars path = ⟨path, none, none⟩ := by
  rw [Tail.ofChars, cut_of_notMem hhash]
  simp [cut_of_notMem hmark]

theorem Tail.notMem_of_ofChars {s : List Char} (hquery : (Tail.ofChars s).query = none)
    (hfragment : (Tail.ofChars s).fragment = none) : '?' ∉ s ∧ '#' ∉ s := by
  obtain ⟨hhash, hfront⟩ : '#' ∉ s ∧ (cut '#' s).1 = s := notMem_of_cut hfragment
  have hmark : '?' ∉ (cut '#' s).1 := (notMem_of_cut hquery).1
  exact ⟨hfront ▸ hmark, hhash⟩

/-! ## Segments -/

/-- All characters of some segments stand for themselves. -/
def AreSegments (l : List (List Char)) : Prop := ∀ s ∈ l, ∀ c ∈ s, isSegmentChar c = true

instance : DecidablePred AreSegments := fun l =>
  decidable_of_iff (l.all (fun s => s.all isSegmentChar) = true) (by simp [AreSegments])

theorem not_isSlash_of_isSegmentChar {c : Char} (h : isSegmentChar c = true) :
    isSlash true c = false := by
  simpa using (Bool.and_eq_true_iff.mp h).2

theorem segmentsOf_of_segment {s : List Char} (h : ∀ c ∈ s, isSegmentChar c = true) :
    segmentsOf true s = [s] := by
  have hslash : ∀ c ∈ s, isSlash true c = false := fun c hc => not_isSlash_of_isSegmentChar (h c hc)
  have hslashed : s.map (fun c => if isSlash true c then '/' else c) = s := by
    refine (List.map_congr_left fun c hc => ?_).trans (List.map_id s)
    rw [hslash c hc]
    rfl
  have hnone : '/' ∉ s := fun hmem => absurd (hslash '/' hmem) (by decide)
  have hkeep : ∀ c ∈ s, keepsPath c = true := fun c hc => (Bool.and_eq_true_iff.mp (h c hc)).1
  rw [segmentsOf, hslashed, Naming.segments_of_notMem hnone, List.map_singleton,
    Text.Percent.encode_of_keep hkeep]

theorem segmentsOf_cons (p s : List Char) :
    segmentsOf true (p ++ '/' :: s) = segmentsOf true p ++ segmentsOf true s := by
  simp only [segmentsOf]
  rw [List.map_append, List.map_cons, if_pos (by decide), Naming.segments_append, List.map_append]

/-- Segments that are put at the end of a path come after its own. -/
theorem segmentsOf_append (p : List Char) {l : List (List Char)} (h : AreSegments l) :
    segmentsOf true (p ++ pathText (.segments l)) = segmentsOf true p ++ l := by
  induction l generalizing p with
  | nil => simp [pathText]
  | cons s l ih =>
    obtain ⟨hs, hl⟩ := List.forall_mem_cons.mp h
    have hpath : p ++ pathText (.segments (s :: l)) = (p ++ '/' :: s) ++ pathText (.segments l) := by
      simp [pathText]
    rw [hpath, ih (p ++ '/' :: s) hl, segmentsOf_cons, segmentsOf_of_segment hs, List.append_assoc,
      List.singleton_append]

/-- A path that does not end in a slash has a last segment that is not empty. -/
theorem exists_segmentsOf_snoc {z : Char} (hz : isSlash true z = false) (p : List Char) :
    ∃ l last, last ≠ [] ∧ segmentsOf true (p ++ [z]) = l ++ [last] := by
  have hne : z ≠ '/' := by
    rintro rfl
    exact absurd hz (by decide)
  obtain ⟨l, last, hs⟩ :=
    Naming.segments_snoc hne (p.map fun c => if isSlash true c then '/' else c)
  refine ⟨l.map (Text.Percent.encode keepsPath), Text.Percent.encode keepsPath (last ++ [z]), ?_, ?_⟩
  · exact Text.Percent.encode_ne_nil keepsPath (List.append_ne_nil_of_right_ne_nil last (by simp))
  · rw [segmentsOf, List.map_append, List.map_singleton, if_neg (by simp [hz]), hs, List.map_append,
      List.map_singleton]

theorem eq_or_isSegmentChar_of_mem {l : List (List Char)} (h : AreSegments l) {c : Char}
    (hc : c ∈ pathText (.segments l)) : c = '/' ∨ isSegmentChar c = true := by
  obtain ⟨s, hs, hc⟩ := List.mem_flatMap.mp hc
  rcases List.mem_cons.mp hc with rfl | hc
  · exact .inl rfl
  · exact .inr (h s hs c hc)

theorem eq_or_keepsQuery_of_mem {query : Option (List Char)}
    (h : ∀ q ∈ query, ∀ c ∈ q, keepsQuery c = true) {c : Char} (hc : c ∈ queryText query) :
    c = '?' ∨ keepsQuery c = true := by
  cases query with
  | none => cases hc
  | some q =>
    rcases List.mem_cons.mp hc with rfl | hc
    · exact .inl rfl
    · exact .inr (h q rfl c hc)

/-- The place that a base goes down from is where its own path leads to. -/
theorem segmentsAfter_append {u : Url} {d : List Char} {l : List (List Char)} (hl : l ≠ [])
    (h : AreSegments l) (hu : u.path = .segments (segmentsAfter d))
    (hd : d = [] ∨ ∃ c p z, d = c :: (p ++ [z]) ∧ isSlash true z = false) :
    segmentsAfter (d ++ pathText (.segments l)) = walk u.directory l := by
  have hlist : u.segmentList = segmentsAfter d := by rw [segmentList, hu]
  rcases hd with rfl | ⟨c, p, z, rfl, hz⟩
  · cases l with
    | nil => exact absurd rfl hl
    | cons s l =>
      obtain ⟨hs, hl'⟩ := List.forall_mem_cons.mp h
      have hroot : u.directory = [] := by rw [directory, hlist]; rfl
      have hpath : [] ++ pathText (.segments (s :: l)) = '/' :: (s ++ pathText (.segments l)) := by
        simp [pathText]
      rw [hpath, segmentsAfter, segmentsOf_append s hl', segmentsOf_of_segment hs, hroot]
      rfl
  · obtain ⟨front, last, hlast, hsegments⟩ := exists_segmentsOf_snoc hz p
    have hwalk : u.segmentList = walk [] (front ++ [last]) := by rw [hlist, segmentsAfter, hsegments]
    rw [List.cons_append, segmentsAfter, segmentsOf_append _ h, hsegments, walk_append hl,
      directory_of_walk hlast hwalk]

/-! ## Bases -/

theorem not_isEdge_of_keepsBut {apart : List Char} {c : Char} (hblank : ' ' ∈ apart)
    (h : keepsBut apart c = true) : isEdge c = false := by
  simp only [keepsBut, Bool.and_eq_true, decide_eq_true_eq, Bool.not_eq_true',
    List.contains_eq_mem, decide_eq_false_iff_not] at h
  obtain ⟨⟨hlow, -⟩, hapart⟩ := h
  have hne : c.toNat ≠ ' '.toNat := by
    intro he
    exact hapart (Char.toNat_inj.mp he ▸ hblank)
  have hlt : 0x20 < c.toNat := Nat.lt_of_le_of_ne hlow (Ne.symm hne)
  exact decide_eq_false (Nat.not_le.mpr hlt)

/-- A text that paths can be put after: it names a host that can be reached and nothing after the path,
and it ends in the last character of what it names. -/
structure IsBase (base : String) (b : Url) : Prop where
  parsed : parse? base = some b
  hasHost : b.hasHost = true
  isWeb : b.isWeb = true
  query : b.query = none
  fragment : b.fragment = none
  last : ∃ s z, base.toList = s ++ [z] ∧ isEdge z = false ∧ isSlash true z = false

section Bases

variable {base : String} {b : Url} {l : List (List Char)} {query : Option (List Char)}

/-- What follows the authority of a base is nothing, or starts with a slash and does not end in one. -/
theorem rest_of_base {a s : List Char} {z : Char} (ha : a = s ++ [z]) (hz : isSlash true z = false)
    (hquery : '?' ∉ a.dropWhile fun c => !isStop c)
    (hfragment : '#' ∉ a.dropWhile fun c => !isStop c) :
    (a.dropWhile fun c => !isStop c) = [] ∨
      ∃ c p z, (a.dropWhile fun c => !isStop c) = c :: (p ++ [z]) ∧ isSlash true z = false := by
  have hsuffix : (a.dropWhile fun c => !isStop c) <:+ s ++ [z] := ha ▸ List.dropWhile_suffix _
  have hhead := List.head_dropWhile_not (p := fun c => !isStop c) (l := a)
  generalize (a.dropWhile fun c => !isStop c) = d at *
  rcases List.suffix_concat_iff.mp hsuffix with rfl | ⟨d, rfl, -⟩
  · exact .inl rfl
  cases d with
  | cons c p => exact .inr ⟨c, p, z, rfl, hz⟩
  | nil =>
    have hstop : isStop z = true := by simpa using hhead (List.cons_ne_nil z [])
    have hne : z ≠ '?' ∧ z ≠ '#' := ⟨by simpa [eq_comm] using hquery, by simpa [eq_comm] using hfragment⟩
    simp [isStop, hz, hne.1, hne.2] at hstop

theorem ofChars_append_segments {d : List Char} (hmark : '?' ∉ d) (hhash : '#' ∉ d)
    (hsegments : AreSegments l) (hquery : ∀ q ∈ query, ∀ c ∈ q, keepsQuery c = true) :
    Tail.ofChars (d ++ (pathText (.segments l) ++ queryText query)) =
      ⟨d ++ pathText (.segments l), query, none⟩ := by
  have hpath : ∀ c, isSlash true c = false → isSegmentChar c = false → c ∉ d →
      c ∉ d ++ pathText (.segments l) := by
    intro c hslash hchar hd hc
    rcases List.mem_append.mp hc with hc | hc
    · exact hd hc
    · rcases eq_or_isSegmentChar_of_mem hsegments hc with rfl | hc
      · exact absurd hslash (by decide)
      · rw [hchar] at hc
        cases hc
  have hend : '#' ∉ queryText query := by
    intro hc
    rcases eq_or_keepsQuery_of_mem hquery hc with hc | hc <;> exact absurd hc (by decide)
  rw [← List.append_assoc]
  refine Tail.ofChars_append (hpath '?' (by decide) (by decide) hmark) fun hc => ?_
  rcases List.mem_append.mp hc with hc | hc
  · exact hpath '#' (by decide) (by decide) hhash hc
  · exact hend hc

/-- What is put after an authority and its path goes down from there. -/
theorem ofAuthority?_append {scheme a s : List Char} {z : Char} (hspecial : isSpecial scheme = true)
    (h : ofAuthority? scheme a = some b) (hbquery : b.query = none) (hbfragment : b.fragment = none)
    (ha : a = s ++ [z]) (hz : isSlash true z = false) (hl : l ≠ []) (hsegments : AreSegments l)
    (hquery : ∀ q ∈ query, ∀ c ∈ q, keepsQuery c = true) :
    ofAuthority? scheme (a ++ (pathText (.segments l) ++ queryText query)) =
      some { b with path := .segments (walk b.directory l), query := query } := by
  -- The authority ends where it did: what is put after it starts with a slash.
  obtain ⟨t, ht⟩ : ∃ t, pathText (.segments l) ++ queryText query = '/' :: t := by
    cases l with
    | nil => exact absurd rfl hl
    | cons s l => exact ⟨_, rfl⟩
  have hstop : (!isStop '/') = false := by decide
  obtain ⟨hdrop, htake⟩ := Text.cut_append_cons (p := fun c => !isStop c) hstop a t
  rw [ofAuthority?_eq hspecial] at h ⊢
  obtain ⟨place, hplace, hb⟩ := Option.map_eq_some_iff.mp h
  obtain ⟨hmark, hhash⟩ : ('?' ∉ a.dropWhile fun c => !isStop c) ∧
      '#' ∉ a.dropWhile fun c => !isStop c := by
    rw [← hb] at hbquery hbfragment
    exact Tail.notMem_of_ofChars (Option.map_eq_none_iff.mp hbquery)
      (Option.map_eq_none_iff.mp hbfragment)
  rw [Tail.ofChars_of_notMem hmark hhash] at hb
  have hencode : query.map (encodeQuery (isSpecial scheme)) = query := by
    cases query with
    | none => rfl
    | some q =>
      rw [hspecial]
      exact congrArg some (Text.Percent.encode_of_keep (hquery q rfl))
  have hwalk := segmentsAfter_append hl hsegments (u := b) (by rw [← hb]; rfl)
    (rest_of_base ha hz hmark hhash)
  rw [ht, hdrop, htake, hplace, ← ht, Option.map_some,
    ofChars_append_segments hmark hhash hsegments hquery]
  simp only [hwalk]
  generalize walk b.directory l = segments
  rw [← hb]
  simp [withTail, hencode]

/-- **A path and a query after a base are walked down from the base.** -/
theorem IsBase.parse?_append (hb : IsBase base b) (hl : l ≠ []) (hsegments : AreSegments l)
    (hquery : ∀ q ∈ query, ∀ c ∈ q, keepsQuery c = true) :
    parse? (base ++ String.ofList (pathText (.segments l) ++ queryText query)) =
      some { b with path := .segments (walk b.directory l), query := query } := by
  obtain ⟨s, z, hbase, hedge, hz⟩ := hb.last
  have hends : ∀ c ∈ pathText (.segments l) ++ queryText query, isEdge c = false := by
    intro c hc
    rcases List.mem_append.mp hc with hc | hc
    · rcases eq_or_isSegmentChar_of_mem hsegments hc with rfl | hc
      · decide
      · exact not_isEdge_of_keepsBut (by decide) (Bool.and_eq_true_iff.mp hc).1
    · rcases eq_or_keepsQuery_of_mem hquery hc with rfl | hc
      · decide
      · exact not_isEdge_of_keepsBut (by decide) hc
  obtain ⟨r, hr⟩ := exists_tidy_snoc hedge s
  obtain ⟨⟨scheme, rest⟩, hsplit, hscheme⟩ := Option.bind_eq_some_iff.mp hb.parsed
  dsimp only at hscheme
  obtain ⟨hsuffix, happend⟩ := splitScheme?_append hsplit
  obtain ⟨hspecial, hauthority⟩ := ofScheme?_of_isWeb hscheme hb.isWeb
  have hnonempty : rest.dropWhile (isSlash true) ≠ [] := by
    intro hnil
    rw [hauthority, hnil] at hscheme
    have hempty : Text.Utf8.decodeLossy (Text.Percent.decode []) = "" :=
      Text.Utf8.decodeLossy_of_decode? (Text.Utf8.decode?_encode "")
    have hnowhere : authority? scheme [] = none := by
      simp [authority?, splitUser, splitPort, specialHost?, hempty]
    rw [ofAuthority?_eq hspecial, List.takeWhile_nil, hnowhere] at hscheme
    cases hscheme
  have hparse : parse? (base ++ String.ofList (pathText (.segments l) ++ queryText query)) =
      ofScheme? scheme (rest ++ (pathText (.segments l) ++ queryText query)) := by
    rw [parse?, String.toList_append, String.toList_ofList, hbase, tidy_append hedge s hends, ← hbase,
      happend]
    rfl
  have hend : rest.dropWhile (isSlash true) <:+ r ++ [z] :=
    hr ▸ hbase ▸ (List.dropWhile_suffix _).trans hsuffix
  rcases List.suffix_concat_iff.mp hend with hnil | ⟨p, hplace, -⟩
  · exact absurd hnil hnonempty
  rw [hparse, hauthority, (Text.cut_append hnonempty _).1]
  exact ofAuthority?_append hspecial (hauthority rest ▸ hscheme) hb.query hb.fragment hplace hz hl
    hsegments hquery

end Bases

end Http.Url

end CloudGrant
