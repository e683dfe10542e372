import CloudGrant.Proofs.Text.Replace
import CloudGrant.Substitution

/-!
# Filling the placeholders of a template

Placeholders whose value is unknown play no part in a substitution (`substitute_eq_of_available`).
The others are filled one after the other, each in the text that those before have left. If they stand
apart in the template and can be told from all values (`Separable`) then this is the same as to fill
all of them at once, and the order does not matter.
-/

namespace CloudGrant

open Text (Piece Marked Clean Apart replaceAll replaceEach)

variable {request : Request.Create} {record : Record}

/-- What a substitution that names a filler puts in the place of a placeholder. -/
inductive Fills (request : Request.Create) (record : Record) : String → String → Prop where
  | account {v : String} (h : request.extra.find? "account" = some v) :
      Fills request record "get_account" v
  | bucket {v : String} (h : record.output? "s3" "output" = some v) : Fills request record "s3" v
  | externalId {v : String} (h : request.extra.find? "external_id" = some v) :
      Fills request record "generate_external_id" v

theorem fillerValue?_eq_some_iff {filler v : String} :
    fillerValue? filler request record = some v ↔ Fills request record filler v := by
  constructor
  · intro h
    obtain ⟨f, hf, hv⟩ := Option.bind_eq_some_iff.mp h
    unfold Filler.ofName? at hf
    split at hf
    · next hname =>
      cases hf
      exact hname ▸ .account hv
    · split at hf
      · next hname =>
        cases hf
        exact hname ▸ .bucket hv
      · split at hf
        · next hname =>
          cases hf
          exact hname ▸ .externalId hv
        · cases hf
  · rintro (h | h | h) <;> exact h

/-! ## The table of a substitution -/

/-- The entry of a placeholder in the table, if its value is known. -/
def tableRow? (request : Request.Create) (record : Record) (entry : String × String) :
    Option (List Char × List Char) :=
  (fillerValue? entry.2 request record).map fun v => (entry.1.toList, v.toList)

/-- The placeholders that are filled, with their values. -/
def tableOf (request : Request.Create) (record : Record) (entries : List (String × String)) :
    List (List Char × List Char) :=
  entries.filterMap (tableRow? request record)

/-- To fill the placeholders of a list is to replace those of its table. -/
theorem foldl_fill {entries : List (String × String)} {s : List Char} :
    entries.foldl (fill request record) s = replaceEach (tableOf request record entries) s := by
  induction entries generalizing s with
  | nil => rfl
  | cons e entries ih =>
    rw [List.foldl_cons, ih]
    unfold fill tableOf
    rw [List.filterMap_cons]
    unfold tableRow?
    cases fillerValue? e.2 request record <;> rfl

/-- A placeholder is available with a value. -/
def Available (d : Dict String String) (request : Request.Create) (record : Record)
    (placeholder value : String) : Prop :=
  ∃ filler, d.find? placeholder = some filler ∧ Fills request record filler value

variable {d : Dict String String}

theorem mem_tableOf_iff {e : List Char × List Char} : e ∈ tableOf request record d.entries ↔
    ∃ p v, Available d request record p v ∧ e = (p.toList, v.toList) := by
  unfold tableOf tableRow? Available
  simp only [List.mem_filterMap, Option.map_eq_some_iff, fillerValue?_eq_some_iff]
  constructor
  · rintro ⟨⟨p, filler⟩, hmem, v, hv, rfl⟩
    exact ⟨p, v, ⟨filler, Dict.find?_eq_some_iff.mpr hmem, hv⟩, rfl⟩
  · rintro ⟨p, v, ⟨filler, hfind, hv⟩, rfl⟩
    exact ⟨(p, filler), Dict.find?_eq_some_iff.mp hfind, v, hv, rfl⟩

theorem Available.mem_tableOf {p v : String} (h : Available d request record p v) :
    (p.toList, v.toList) ∈ tableOf request record d.entries :=
  mem_tableOf_iff.mpr ⟨p, v, h, rfl⟩

/-- The placeholders of a dictionary are all different. -/
theorem nodup_tableOf : ((tableOf request record d.entries).map Prod.fst).Nodup := by
  refine List.pairwise_map.mpr (d.ascending.filterMap _ fun e f hlt a ha b hb => ?_)
  obtain ⟨v, -, rfl⟩ := Option.map_eq_some_iff.mp ha
  obtain ⟨w, -, rfl⟩ := Option.map_eq_some_iff.mp hb
  intro heq
  exact Key.lt_irrefl _ (String.toList_inj.mp heq ▸ hlt)

/-- The placeholders of a dictionary whose values are known. -/
def known (d : Dict String String) (request : Request.Create) (record : Record) :
    Dict String String :=
  ⟨d.entries.filter fun e => (fillerValue? e.2 request record).isSome, d.ascending.filter _⟩

theorem find?_known_iff {p filler : String} : (known d request record).find? p = some filler ↔
    d.find? p = some filler ∧ ∃ v, Fills request record filler v := by
  rw [Dict.find?_eq_some_iff, Dict.find?_eq_some_iff]
  simp only [known, List.mem_filter, Option.isSome_iff_exists, fillerValue?_eq_some_iff]

theorem tableOf_known :
    tableOf request record (known d request record).entries = tableOf request record d.entries := by
  unfold tableOf known
  rw [List.filterMap_filter]
  congr 1
  funext e
  unfold tableRow?
  cases fillerValue? e.2 request record <;> rfl

/-- **What is not available plays no part in a substitution.** -/
theorem substitute_eq_of_available {payload : String} {d' : Dict String String}
    (h : ∀ p filler, d'.find? p = some filler ↔
      d.find? p = some filler ∧ ∃ v, Fills request record filler v) :
    substitute payload d' request record = substitute payload d request record := by
  have hknown : d' = known d request record :=
    Dict.ext_find? fun p => Option.ext fun filler => (h p filler).trans find?_known_iff.symm
  unfold substitute
  rw [foldl_fill, foldl_fill, hknown, tableOf_known]

/-! ## Placeholders that stand apart -/

/-- The available placeholders of a payload can be told from each other and from all values: none is
empty, no two occurrences overlap, and no value has a character of a placeholder. -/
structure Separable (payload : String) (d : Dict String String) (request : Request.Create)
    (record : Record) : Prop where
  placeholder_ne : ∀ p v, Available d request record p v → p ≠ ""
  value_ne : ∀ p v, Available d request record p v → v ≠ ""
  foreign : ∀ p v q w, Available d request record p v → Available d request record q w →
    ∀ c ∈ v.toList, c ∉ q.toList
  disjoint : ∀ p v q w m n, Available d request record p v → Available d request record q w →
    p.toList <+: payload.toList.drop m → q.toList <+: payload.toList.drop n →
      (p = q ∧ m = n) ∨ m + p.toList.length ≤ n ∨ n + q.toList.length ≤ m

/-- A payload splits into pieces: its slots are available placeholders with their own values, and
every occurrence of an available placeholder is a slot. -/
structure Splits (available : String → String → Prop) (payload : String) (pieces : List Piece) :
    Prop where
  source : pieces.flatMap Piece.source = payload.toList
  own : ∀ p v, Piece.slot p v ∈ pieces → available (String.ofList p) (String.ofList v)
  all : ∀ p v n, available p v → p.toList <+: payload.toList.drop n →
    ∃ before after, pieces = before ++ .slot p.toList v.toList :: after ∧
      (before.flatMap Piece.source).length = n

section

variable {payload : String}

theorem Separable.clean (h : Separable payload d request record) :
    Clean (tableOf request record d.entries) where
  distinct := nodup_tableOf
  pattern_ne e he := by
    obtain ⟨p, v, hp, rfl⟩ := mem_tableOf_iff.mp he
    exact mt String.toList_eq_nil_iff.mp (h.placeholder_ne p v hp)
  value_ne e he := by
    obtain ⟨p, v, hp, rfl⟩ := mem_tableOf_iff.mp he
    exact mt String.toList_eq_nil_iff.mp (h.value_ne p v hp)
  apart e he f hf := by
    obtain ⟨p, v, hp, rfl⟩ := mem_tableOf_iff.mp he
    obtain ⟨q, w, hq, rfl⟩ := mem_tableOf_iff.mp hf
    exact h.foreign p v q w hp hq

theorem Separable.apart (h : Separable payload d request record) :
    Apart (tableOf request record d.entries) payload.toList := by
  intro e he f hf m n hm hn
  obtain ⟨p, v, hp, rfl⟩ := mem_tableOf_iff.mp he
  obtain ⟨q, w, hq, rfl⟩ := mem_tableOf_iff.mp hf
  refine (h.disjoint p v q w m n hp hq hm hn).imp (fun hpq => ⟨?_, hpq.2⟩) id
  exact h.clean.eq_of_pattern_eq he hf (congrArg String.toList hpq.1)

/-- Placeholders are separable if the patterns of their table are. -/
theorem separable_of_table (hclean : Clean (tableOf request record d.entries))
    (hapart : Apart (tableOf request record d.entries) payload.toList) :
    Separable payload d request record where
  placeholder_ne _ _ hp := mt String.toList_eq_nil_iff.mpr (hclean.pattern_ne _ hp.mem_tableOf)
  value_ne _ _ hp := mt String.toList_eq_nil_iff.mpr (hclean.value_ne _ hp.mem_tableOf)
  foreign _ _ _ _ hp hq := hclean.apart _ hp.mem_tableOf _ hq.mem_tableOf
  disjoint _ _ _ _ m n hp hq hm hn :=
    (hapart _ hp.mem_tableOf _ hq.mem_tableOf m n hm hn).imp
      (fun h => ⟨String.toList_inj.mp (Prod.ext_iff.mp h.1).1, h.2⟩) id

end

/-- **Placeholders that can be told apart are all filled at once**, each occurrence with the value of
its own placeholder while the rest of the payload stays, and in whatever order they are filled the text
is the same. Placeholders that are not available may be left out in any case. -/
theorem substitute_at_once (payload : String) (d : Dict String String) (request : Request.Create)
    (record : Record) :
    (∀ d' : Dict String String, (∀ p filler, d'.find? p = some filler ↔
        d.find? p = some filler ∧ ∃ v, Fills request record filler v) →
      substitute payload d' request record = substitute payload d request record) ∧
    (Separable payload d request record →
      (∃ pieces, Splits (Available d request record) payload pieces ∧
        substitute payload d request record = String.ofList (pieces.flatMap Piece.target)) ∧
      ∀ order : List (String × String), order.Perm d.entries →
        String.ofList (order.foldl (fill request record) payload.toList) =
          substitute payload d request record) := by
  refine ⟨fun d' => substitute_eq_of_available, fun h => ?_⟩
  obtain ⟨pieces, hsource, hmarked⟩ := Text.exists_marked h.clean h.apart
  have hfilled : ∀ order : List (String × String), order.Perm d.entries →
      order.foldl (fill request record) payload.toList = pieces.flatMap Piece.target := by
    intro order horder
    rw [foldl_fill, ← hsource]
    exact Text.replaceEach_marked h.clean hmarked (horder.filterMap _)
  have hall : substitute payload d request record = String.ofList (pieces.flatMap Piece.target) :=
    congrArg String.ofList (hfilled d.entries (List.Perm.refl _))
  refine ⟨⟨pieces, ⟨hsource, fun p v hmem => ?_, fun p v n hp hn => ?_⟩, hall⟩,
    fun order horder => hall ▸ congrArg String.ofList (hfilled order horder)⟩
  · obtain ⟨q, w, hq, heq⟩ := mem_tableOf_iff.mp (hmarked.mem_table hmem)
    cases heq
    rwa [String.ofList_toList, String.ofList_toList]
  · rw [← hsource] at hn
    exact hmarked.exists_slot h.clean hp.mem_tableOf hn

/-- A payload with two placeholders that are available, one of them twice, and one that is not. -/
def grantTemplate : String := "S3BUCKET of ACCOUNT_ID, S3BUCKET MYSTERY"

def grantFillers : Dict String String :=
  Dict.ofList [("S3BUCKET", "s3"), ("ACCOUNT_ID", "get_account"), ("MYSTERY", "make_coffee")]

def grantRequest : Request.Create :=
  { Request.Create.blank with extra := Dict.ofList [("account", "0042")] }

def grantRecord : Record := Record.empty.setOutput "s3" "output" "b-1"

/-- The placeholders of a template are filled in both orders alike, and without the one that is not
available. -/
theorem grantTemplate_filled :
    Separable grantTemplate grantFillers grantRequest grantRecord ∧
      substitute grantTemplate grantFillers grantRequest grantRecord =
        "b-1 of 0042, b-1 MYSTERY" ∧
      String.ofList (grantFillers.entries.reverse.foldl (fill grantRequest grantRecord)
        grantTemplate.toList) = "b-1 of 0042, b-1 MYSTERY" ∧
      substitute grantTemplate (known grantFillers grantRequest grantRecord) grantRequest
        grantRecord = "b-1 of 0042, b-1 MYSTERY" := by
  have hforeign : ((tableOf grantRequest grantRecord grantFillers.entries).all fun e =>
      (tableOf grantRequest grantRecord grantFillers.entries).all fun f =>
        e.2.all fun c => c ∉ f.1) = true := by decide
  simp only [List.all_eq_true, decide_eq_true_eq] at hforeign
  have hclean : Clean (tableOf grantRequest grantRecord grantFillers.entries) :=
    ⟨nodup_tableOf, by decide, by decide, hforeign⟩
  have hapart : Apart (tableOf grantRequest grantRecord grantFillers.entries)
      grantTemplate.toList := Text.apart_of_occurrences hclean (by decide +kernel)
  have hseparable := separable_of_table hclean hapart
  obtain ⟨hknown, hfilled⟩ :=
    substitute_at_once grantTemplate grantFillers grantRequest grantRecord
  have hresult : substitute grantTemplate grantFillers grantRequest grantRecord =
      "b-1 of 0042, b-1 MYSTERY" := by decide +kernel
  refine ⟨hseparable, hresult, ?_, ?_⟩
  · rw [(hfilled hseparable).2 _ (List.reverse_perm _), hresult]
  · rw [hknown _ fun p filler => find?_known_iff, hresult]

end CloudGrant
