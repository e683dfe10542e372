import CloudGrant.Proofs.Json.Record
import CloudGrant.Wire

/-!
# Reading back what was written

Steps, records, requests and cost reports are read back from what is written of them, whatever texts
they hold. Each record type is read from every object that holds its fields, in any order and beside
members of other names, and from the list of its fields (`decode_forms`).

`…slots` lists the fields of a type as they are written: the name on the wire, the form of the value
and the default if there is one. A record that is kept as a value of any shape is read back as that
value (`reads_value_record`). What an inventory tells of a credential is read back as this credential,
and its id where an id is expected (`decode_credential`, `decode_authenticationId`).
-/

namespace CloudGrant.Wire

open Json (Accepts Reads reads_value_text reads_value_object Value Slot RecordForm Lawful ReadBy
  TextForm IntegerForm ListForm DictForm DocumentForm)

/-! ## Fields -/

section Fields

variable {σ α : Type} {name : String} {d : Json.Decoder α} {get : σ → α} {set : σ → α → σ}
  {P : α → List UInt8 → Prop} {depth : Nat} {v : σ} {default : α}

theorem readBy_required (h : ∀ s, P (get v) s → Accepts (d depth) s (get v)) :
    ReadBy depth v (required name d set) (.needed name P get set) :=
  ⟨rfl, fun _ h => h, fun s hs => (h s hs).map _⟩

theorem readBy_defaulted (h : ∀ s, P (get v) s → Accepts (d depth) s (get v)) :
    ReadBy depth v (defaulted name d set) (.optional name P get set default) :=
  ⟨rfl, fun hrequired => (nomatch hrequired), fun s hs => (h s hs).map _⟩

end Fields

def TextsForm : Dict String String → List UInt8 → Prop := DictForm TextForm

theorem accepts_texts {d : Dict String String} {s : List UInt8} (h : TextsForm d s) (depth : Nat) :
    Accepts (texts (depth + 2)) s d :=
  Json.accepts_dict (fun _ _ ht => Json.accepts_text ht _) h

theorem textsForm_render (d : Dict String String) :
    TextsForm d (Json.bytes (textMap d).render) :=
  Json.dictForm_render fun t => Json.textForm_render t

/-! ## Steps -/

/-- The order of a step is an integer of 64 bits. -/
def Step.InRange (s : CloudGrant.Step) : Prop :=
  -0x8000000000000000 ≤ s.order ∧ s.order < 0x8000000000000000

def Step.slots : List (Slot CloudGrant.Step) :=
  [ .optional "step" IntegerForm (fun s => s.order) (fun s v => { s with order := v }) 0
  , .needed "name" TextForm (fun s => s.name) (fun s v => { s with name := v })
  , .optional "payload" TextForm (fun s => s.payload) (fun s v => { s with payload := v }) ""
  , .optional "substitutions" TextsForm (fun s => s.substitutions)
      (fun s v => { s with substitutions := v }) Dict.empty ]

def Step.Form : CloudGrant.Step → List UInt8 → Prop := RecordForm Step.slots

theorem Step.lawful : Lawful Step.slots (.plain 0 "" "") where
  names := by decide
  commute := by simp [Step.slots, Slot.needed, Slot.optional]
  whole _ := by simp [Json.takeAll, Step.slots, Slot.needed, Slot.optional]
  omitted := by simp [Step.slots, Slot.needed, Slot.optional, CloudGrant.Step.plain]

theorem Step.accepts {s : CloudGrant.Step} (hrange : Step.InRange s) {t : List UInt8}
    (h : Step.Form s t) (depth : Nat) : Accepts (step (depth + 3)) t s := by
  refine Json.accepts_record Step.lawful ?_ h
  exact .cons (readBy_defaulted fun _ hv => Json.accepts_int64 hv _ hrange.1 hrange.2) <|
    .cons (readBy_required fun _ hv => Json.accepts_text hv _) <|
    .cons (readBy_defaulted fun _ hv => Json.accepts_text hv _) <|
    .cons (readBy_defaulted fun _ hv => accepts_texts hv _) .nil

theorem Step.form_toJson (s : CloudGrant.Step) : Step.Form s (Json.bytes (Step.toJson s).render) :=
  Json.recordForm_render Step.lawful.names <|
    .cons ⟨rfl, Json.integerForm_render s.order⟩ <|
    .cons ⟨rfl, Json.textForm_render s.name⟩ <|
    .cons ⟨rfl, Json.textForm_render s.payload⟩ <|
    .cons ⟨rfl, textsForm_render s.substitutions⟩ .nil

/-! ## Records -/

def Record.Form (r : CloudGrant.Record) : List UInt8 → Prop := DictForm TextsForm r.steps

theorem Record.accepts {r : CloudGrant.Record} {t : List UInt8} (h : Record.Form r t)
    (depth : Nat) : Accepts (record (depth + 3)) t r :=
  (Json.accepts_dict (fun _ _ ht => accepts_texts ht depth) h).map Record.mk

theorem Record.form_toJson (r : CloudGrant.Record) :
    Record.Form r (Json.bytes (Record.toJson r).render) :=
  Json.dictForm_render fun outputs => textsForm_render outputs

/-! ## Requests -/

def Create.slots : List (Slot Request.Create) :=
  [ .optional "identity_header" TextForm (fun r => r.identity)
      (fun r v => { r with identity := v }) ""
  , .optional "org_id_header" TextForm (fun r => r.orgId) (fun r v => { r with orgId := v }) ""
  , .needed "tenant_id" TextForm (fun r => r.tenant) (fun r v => { r with tenant := v })
  , .optional "source_id" TextForm (fun r => r.sourceId) (fun r v => { r with sourceId := v }) ""
  , .optional "application_id" TextForm (fun r => r.applicationId)
      (fun r v => { r with applicationId := v }) ""
  , .optional "application_type" TextForm (fun r => r.applicationType)
      (fun r v => { r with applicationType := v }) ""
  , .optional "super_key" TextForm (fun r => r.superKey) (fun r v => { r with superKey := v }) ""
  , .needed "provider" TextForm (fun r => r.provider) (fun r v => { r with provider := v })
  , .optional "extra" TextsForm (fun r => r.extra) (fun r v => { r with extra := v }) Dict.empty
  , .optional "superkey_steps" (ListForm Step.Form) (fun r => r.steps)
      (fun r v => { r with steps := v }) [] ]

def Create.Form : Request.Create → List UInt8 → Prop := RecordForm Create.slots

theorem Create.lawful : Lawful Create.slots Request.Create.blank where
  names := by decide
  commute := by simp [Create.slots, Slot.needed, Slot.optional]
  whole _ := by simp [Json.takeAll, Create.slots, Slot.needed, Slot.optional]
  omitted := by simp [Create.slots, Slot.needed, Slot.optional, Request.Create.blank]

theorem Create.accepts {r : Request.Create} (hrange : ∀ s ∈ r.steps, Step.InRange s)
    {t : List UInt8} (h : Create.Form r t) (depth : Nat) :
    Accepts (create (depth + 5)) t r := by
  refine Json.accepts_record Create.lawful ?_ h
  exact .cons (readBy_defaulted fun _ hv => Json.accepts_text hv _) <|
    .cons (readBy_defaulted fun _ hv => Json.accepts_text hv _) <|
    .cons (readBy_required fun _ hv => Json.accepts_text hv _) <|
    .cons (readBy_defaulted fun _ hv => Json.accepts_text hv _) <|
    .cons (readBy_defaulted fun _ hv => Json.accepts_text hv _) <|
    .cons (readBy_defaulted fun _ hv => Json.accepts_text hv _) <|
    .cons (readBy_defaulted fun _ hv => Json.accepts_text hv _) <|
    .cons (readBy_required fun _ hv => Json.accepts_text hv _) <|
    .cons (readBy_defaulted fun _ hv => accepts_texts hv _) <|
    .cons (readBy_defaulted fun _ hv =>
      Json.accepts_list (fun s hs _ ht => Step.accepts (hrange s hs) ht _) hv) .nil

theorem Create.form_toJson (r : Request.Create) :
    Create.Form r (Json.bytes (Create.toJson r).render) :=
  Json.recordForm_render Create.lawful.names <|
    .cons ⟨rfl, Json.textForm_render r.identity⟩ <|
    .cons ⟨rfl, Json.textForm_render r.orgId⟩ <|
    .cons ⟨rfl, Json.textForm_render r.tenant⟩ <|
    .cons ⟨rfl, Json.textForm_render r.sourceId⟩ <|
    .cons ⟨rfl, Json.textForm_render r.applicationId⟩ <|
    .cons ⟨rfl, Json.textForm_render r.applicationType⟩ <|
    .cons ⟨rfl, Json.textForm_render r.superKey⟩ <|
    .cons ⟨rfl, Json.textForm_render r.provider⟩ <|
    .cons ⟨rfl, textsForm_render r.extra⟩ <|
    .cons ⟨rfl, Json.listForm_render fun s _ => Step.form_toJson s⟩ .nil

def Destroy.slots : List (Slot Request.Destroy) :=
  [ .optional "identity_header" TextForm (fun r => r.identity)
      (fun r v => { r with identity := v }) ""
  , .optional "org_id_header" TextForm (fun r => r.orgId) (fun r v => { r with orgId := v }) ""
  , .needed "tenant_id" TextForm (fun r => r.tenant) (fun r v => { r with tenant := v })
  , .optional "super_key" TextForm (fun r => r.superKey) (fun r v => { r with superKey := v }) ""
  , .needed "guid" TextForm (fun r => r.guid) (fun r v => { r with guid := v })
  , .needed "provider" TextForm (fun r => r.provider) (fun r v => { r with provider := v })
  , .optional "steps_completed" Record.Form (fun r => r.record)
      (fun r v => { r with record := v }) Record.empty ]

def Destroy.Form : Request.Destroy → List UInt8 → Prop := RecordForm Destroy.slots

theorem Destroy.lawful : Lawful Destroy.slots Request.Destroy.blank where
  names := by decide
  commute := by simp [Destroy.slots, Slot.needed, Slot.optional]
  whole _ := by simp [Json.takeAll, Destroy.slots, Slot.needed, Slot.optional]
  omitted := by simp [Destroy.slots, Slot.needed, Slot.optional, Request.Destroy.blank]

theorem Destroy.accepts {r : Request.Destroy} {t : List UInt8} (h : Destroy.Form r t)
    (depth : Nat) : Accepts (destroy (depth + 4)) t r := by
  refine Json.accepts_record Destroy.lawful ?_ h
  exact .cons (readBy_defaulted fun _ hv => Json.accepts_text hv _) <|
    .cons (readBy_defaulted fun _ hv => Json.accepts_text hv _) <|
    .cons (readBy_required fun _ hv => Json.accepts_text hv _) <|
    .cons (readBy_defaulted fun _ hv => Json.accepts_text hv _) <|
    .cons (readBy_required fun _ hv => Json.accepts_text hv _) <|
    .cons (readBy_required fun _ hv => Json.accepts_text hv _) <|
    .cons (readBy_defaulted fun _ hv => Record.accepts hv _) .nil

theorem Destroy.form_toJson (r : Request.Destroy) :
    Destroy.Form r (Json.bytes (Destroy.toJson r).render) :=
  Json.recordForm_render Destroy.lawful.names <|
    .cons ⟨rfl, Json.textForm_render r.identity⟩ <|
    .cons ⟨rfl, Json.textForm_render r.orgId⟩ <|
    .cons ⟨rfl, Json.textForm_render r.tenant⟩ <|
    .cons ⟨rfl, Json.textForm_render r.superKey⟩ <|
    .cons ⟨rfl, Json.textForm_render r.guid⟩ <|
    .cons ⟨rfl, Json.textForm_render r.provider⟩ <|
    .cons ⟨rfl, Record.form_toJson r.record⟩ .nil

/-- **A destroy request is read back from its text.** -/
theorem decode_destroy (r : Request.Destroy) :
    Json.decode destroy (Destroy.toJson r).toBytes = .ok r :=
  Reads.decode (Destroy.accepts (Destroy.form_toJson r) 124)

/-! ## Cost reports -/

def Report.slots : List (Slot CloudGrant.Report) :=
  [ .needed "ReportName" TextForm (fun r => r.name) (fun r v => { r with name := v })
  , .needed "TimeUnit" TextForm (fun r => r.timeUnit) (fun r v => { r with timeUnit := v })
  , .needed "Format" TextForm (fun r => r.format) (fun r v => { r with format := v })
  , .needed "Compression" TextForm (fun r => r.compression) (fun r v => { r with compression := v })
  , .optional "AdditionalSchemaElements" (ListForm TextForm) (fun r => r.schemaElements)
      (fun r v => { r with schemaElements := v }) []
  , .needed "S3Bucket" TextForm (fun r => r.bucket) (fun r v => { r with bucket := v })
  , .optional "S3Prefix" TextForm (fun r => r.folder) (fun r v => { r with folder := v }) ""
  , .needed "S3Region" TextForm (fun r => r.region) (fun r v => { r with region := v })
  , .optional "AdditionalArtifacts" (ListForm TextForm) (fun r => r.artifacts)
      (fun r v => { r with artifacts := v }) [] ]

def Report.Form : CloudGrant.Report → List UInt8 → Prop := RecordForm Report.slots

theorem Report.lawful : Lawful Report.slots default where
  names := by decide
  commute := by simp [Report.slots, Slot.needed, Slot.optional]
  whole _ := by simp [Json.takeAll, Report.slots, Slot.needed, Slot.optional]
  omitted := by simp [Report.slots, Slot.needed, Slot.optional, default, instInhabitedReport.default]

theorem Report.accepts {r : CloudGrant.Report} {t : List UInt8} (h : Report.Form r t)
    (depth : Nat) : Accepts (report (depth + 3)) t r := by
  have htexts : ∀ {as : List String} {t : List UInt8}, ListForm TextForm as t →
      Accepts (Json.Decoder.list Json.Decoder.text (depth + 2)) t as :=
    fun ht => Json.accepts_list (fun _ _ _ ht => Json.accepts_text ht _) ht
  refine Json.accepts_record Report.lawful ?_ h
  exact .cons (readBy_required fun _ hv => Json.accepts_text hv _) <|
    .cons (readBy_required fun _ hv => Json.accepts_text hv _) <|
    .cons (readBy_required fun _ hv => Json.accepts_text hv _) <|
    .cons (readBy_required fun _ hv => Json.accepts_text hv _) <|
    .cons (readBy_defaulted fun _ hv => htexts hv) <|
    .cons (readBy_required fun _ hv => Json.accepts_text hv _) <|
    .cons (readBy_defaulted fun _ hv => Json.accepts_text hv _) <|
    .cons (readBy_required fun _ hv => Json.accepts_text hv _) <|
    .cons (readBy_defaulted fun _ hv => htexts hv) .nil

theorem textsForm_list (l : List String) :
    ListForm TextForm l (Json.bytes (textList l).render) :=
  Json.listForm_render fun t _ => Json.textForm_render t

theorem Report.form_toJson (r : CloudGrant.Report) :
    Report.Form r (Json.bytes (Report.toJson r).render) :=
  Json.recordForm_render Report.lawful.names <|
    .cons ⟨rfl, Json.textForm_render r.name⟩ <|
    .cons ⟨rfl, Json.textForm_render r.timeUnit⟩ <|
    .cons ⟨rfl, Json.textForm_render r.format⟩ <|
    .cons ⟨rfl, Json.textForm_render r.compression⟩ <|
    .cons ⟨rfl, textsForm_list r.schemaElements⟩ <|
    .cons ⟨rfl, Json.textForm_render r.bucket⟩ <|
    .cons ⟨rfl, Json.textForm_render r.folder⟩ <|
    .cons ⟨rfl, Json.textForm_render r.region⟩ <|
    .cons ⟨rfl, textsForm_list r.artifacts⟩ .nil

/-! ## Credentials -/

/-- How an inventory tells of a stored credential. -/
def Credential.toJson (c : CloudGrant.Credential) : Value :=
  .object
    [ ("id", .text c.id)
    , ("authtype", .text c.kind)
    , ("username", .text c.username)
    , ("password", .text c.secret)
    , ("extra", c.extra) ]

/-- The extra data has any form that is read as the value. -/
def Credential.slots : List (Slot CloudGrant.Credential) :=
  [ .optional "id" TextForm (fun c => c.id) (fun c v => { c with id := v }) ""
  , .optional "authtype" TextForm (fun c => c.kind) (fun c v => { c with kind := v }) ""
  , .optional "username" TextForm (fun c => c.username) (fun c v => { c with username := v }) ""
  , .optional "password" TextForm (fun c => c.secret) (fun c v => { c with secret := v }) ""
  , .optional "extra" (fun v t => Accepts (Json.Decoder.value 127) t v) (fun c => c.extra)
      (fun c v => { c with extra := v }) .null ]

theorem Credential.lawful : Lawful Credential.slots CloudGrant.Credential.blank where
  names := by decide
  commute := by simp [Credential.slots, Slot.optional]
  whole _ := by simp [Json.takeAll, Credential.slots, Slot.optional]
  omitted := by simp [Credential.slots, Slot.optional, CloudGrant.Credential.blank]

/-- **A stored credential is read back**, if its extra data is. -/
theorem decode_credential {c : CloudGrant.Credential}
    (h : Reads Json.Decoder.value 127 c.extra c.extra) :
    Json.decode credential (Credential.toJson c).toBytes = .ok c := by
  have hform : RecordForm Credential.slots c (Json.bytes (Credential.toJson c).render) :=
    Json.recordForm_render Credential.lawful.names <|
      .cons ⟨rfl, Json.textForm_render c.id⟩ <|
      .cons ⟨rfl, Json.textForm_render c.kind⟩ <|
      .cons ⟨rfl, Json.textForm_render c.username⟩ <|
      .cons ⟨rfl, Json.textForm_render c.secret⟩ <|
      .cons ⟨rfl, h⟩ .nil
  refine Reads.decode (Json.accepts_record Credential.lawful ?_ hform)
  exact .cons (readBy_defaulted fun _ hv => Json.accepts_text hv _) <|
    .cons (readBy_defaulted fun _ hv => Json.accepts_text hv _) <|
    .cons (readBy_defaulted fun _ hv => Json.accepts_text hv _) <|
    .cons (readBy_defaulted fun _ hv => Json.accepts_text hv _) <|
    .cons (readBy_defaulted fun _ hv => hv) .nil

/-- The id of a stored credential is what is read where an id is expected. -/
theorem decode_authenticationId {c : CloudGrant.Credential}
    (h : Json.Valid (Json.bytes c.extra.render)) :
    Json.decode authenticationId (Credential.toJson c).toBytes = .ok c.id := by
  have hlawful : Lawful [Slot.needed "id" TextForm id fun _ v => v] "" :=
    ⟨by decide, by simp [Slot.needed], fun _ => rfl, by simp [Slot.needed]⟩
  have hform : RecordForm [Slot.needed "id" TextForm id fun _ v => v] c.id
      (Json.bytes (Credential.toJson c).render) := by
    refine .object ⟨?_, ?_, ?_, ?_⟩ (Json.objectForm_texts _)
    · simpa [Slot.needed] using Json.textForm_render c.id
    · have hvalid := fun t => (Json.textForm_render t).valid
      simpa [Slot.needed] using ⟨hvalid c.kind, hvalid c.username, hvalid c.secret, h⟩
    · simp [Slot.needed]
    · simp [Slot.needed]
  exact Reads.decode (Json.accepts_record hlawful
    (.cons (readBy_required fun _ hv => Json.accepts_text hv _) .nil) hform)

/-! ## Documents -/

/-- Every document that says `P` of a value is decoded as this value, and so is what is written for
it. -/
theorem decode_documents {α : Type} {d : Json.Decoder α} {P : α → List UInt8 → Prop} {a : α}
    {v : Value} (haccepts : ∀ t, P a t → Accepts (d Json.maxDepth) t a)
    (hwritten : P a (Json.bytes v.render)) :
    Json.decode d v.toBytes = .ok a ∧ ∀ t, DocumentForm P a t → Json.decode d t = .ok a := by
  refine ⟨Reads.decode (haccepts _ hwritten), fun t ht => ?_⟩
  obtain ⟨hw, hw', hform⟩ := ht
  exact (haccepts _ hform).decode hw hw'

/-- **Each type is read back from what is written for it, and from all its other forms**: a record from
every object that holds its fields once, in any order, beside members of other names and without
fields that hold their default, and from the list of its fields without such fields at the end. -/
theorem decode_forms (s : CloudGrant.Step) (c : Request.Create) (d : Request.Destroy)
    (r : CloudGrant.Record) (p : CloudGrant.Report) (hs : Step.InRange s)
    (hc : ∀ s ∈ c.steps, Step.InRange s) :
    (Json.decode step (Step.toJson s).toBytes = .ok s ∧
      ∀ t, DocumentForm Step.Form s t → Json.decode step t = .ok s) ∧
    (Json.decode create (Create.toJson c).toBytes = .ok c ∧
      ∀ t, DocumentForm Create.Form c t → Json.decode create t = .ok c) ∧
    (Json.decode destroy (Destroy.toJson d).toBytes = .ok d ∧
      ∀ t, DocumentForm Destroy.Form d t → Json.decode destroy t = .ok d) ∧
    (Json.decode record (Record.toJson r).toBytes = .ok r ∧
      ∀ t, DocumentForm Record.Form r t → Json.decode record t = .ok r) ∧
    (Json.decode report (Report.toJson p).toBytes = .ok p ∧
      ∀ t, DocumentForm Report.Form p t → Json.decode report t = .ok p) :=
  ⟨decode_documents (fun _ ht => Step.accepts hs ht 125) (Step.form_toJson s),
    decode_documents (fun _ ht => Create.accepts hc ht 123) (Create.form_toJson c),
    decode_documents (fun _ ht => Destroy.accepts ht 124) (Destroy.form_toJson d),
    decode_documents (fun _ ht => Record.accepts ht 125) (Record.form_toJson r),
    decode_documents (fun _ ht => Report.accepts ht 125) (Report.form_toJson p)⟩

/-- The members of a step out of order, with one of another name and two fields left out. -/
def shuffledStep : List (String × Value) :=
  [("x", .null), ("name", .text "s3"), ("step", .number (.int (-7)))]

/-- `decode_forms` at a step whose members are shuffled. -/
theorem decode_shuffledStep :
    Step.InRange (.plain (-7) "s3" "") ∧ (∀ s ∈ Request.Create.blank.steps, Step.InRange s) ∧
      Json.decode step (Value.object shuffledStep).toBytes = .ok (.plain (-7) "s3" "") := by
  have hrange : Step.InRange (.plain (-7) "s3" "") := ⟨by decide, by decide⟩
  have hblank : ∀ s ∈ Request.Create.blank.steps, Step.InRange s := fun _ h => nomatch h
  have hholds : Json.Holds Step.slots (.plain (-7) "s3" "")
      (shuffledStep.map fun m => (m.1, Json.bytes m.2.render)) := by
    have hname := Json.textForm_render "s3"
    have horder := Json.integerForm_render (-7)
    have hnull : Json.Valid (Json.bytes Value.null.render) := .null
    constructor
    · simpa [shuffledStep, Step.slots, Slot.needed, Slot.optional] using ⟨hname, horder⟩
    · simpa [shuffledStep, Step.slots, Slot.needed, Slot.optional] using hnull
    · simp [shuffledStep, Step.slots, Slot.needed, Slot.optional]
    · simp [shuffledStep, Step.slots, Slot.needed, Slot.optional, CloudGrant.Step.plain]
  have hform : DocumentForm Step.Form (.plain (-7) "s3" "")
      ([] ++ (Json.bytes (Value.object shuffledStep).render ++ [])) :=
    .intro Json.blanks_nil Json.blanks_nil (.object hholds (Json.objectForm_texts _))
  rw [List.nil_append, List.append_nil, ← Json.toBytes_eq] at hform
  exact ⟨hrange, hblank, (decode_forms _ .blank .blank .empty default hrange hblank).1.2 _ hform⟩

/-! ## As values of any shape -/

theorem reads_value_dict {α : Type} {f : α → Value} {depth : Nat}
    (h : ∀ a, Reads Json.Decoder.value (depth + 1) (f a) (f a)) (d : Dict String α) :
    Reads Json.Decoder.value (depth + 2) (Value.ofDict f d) (Value.ofDict f d) := by
  have hasc : Ascending (d.entries.map fun e => (e.1, f e.2)) := List.pairwise_map.mpr d.ascending
  refine reads_value_object hasc fun m hm => ?_
  obtain ⟨e, -, rfl⟩ := List.mem_map.mp hm
  exact h e.2

theorem reads_value_record (r : CloudGrant.Record) (depth : Nat) :
    Reads Json.Decoder.value (depth + 3) (Record.toJson r) (Record.toJson r) :=
  reads_value_dict (fun outputs => reads_value_dict (fun t => reads_value_text t _) outputs)
    r.steps

end CloudGrant.Wire
