import CloudGrant.Azure.Status
import CloudGrant.Proofs.Text.Cutting
import CloudGrant.Proofs.Wire

/-!
# What the status of a deployment says

A status document is read with its fields in any order and beside members of other names
(`decode_deployment`), so every deployment there can be is told by some document.

The part of a text that is searched for the cause reaches from the first opening brace to the last
closing one (`spans_iff`). An object that stands in a text with no brace opening before it and none
closing behind it is that part, so whatever its own texts hold, it is read as a whole and the cause it
names is found (`Wraps.cites`).
-/

namespace CloudGrant.Azure

open Json (Accepts Value ValueForm ObjectForm ListForm TextForm RecordForm DocumentForm Lawful Slot
  Valid)
open Text (dropWhile_ne dropWhile_ne_eq_nil_iff)
open Text.Utf8 (encode)
open Wire (readBy_defaulted)

/-! ## Status documents -/

/-- A value that may be `null`. -/
inductive OptionForm {α : Type} (P : α → List UInt8 → Prop) : Option α → List UInt8 → Prop where
  | none : OptionForm P none (0x6E :: Json.ull)
  | some {a : α} {s : List UInt8} (h : P a s) : OptionForm P (some a) s

theorem accepts_optional {α : Type} {d : Json.Decoder α} {P : α → List UInt8 → Prop} {depth : Nat}
    {a : Option α} {s : List UInt8} (hs : OptionForm P a s)
    (h : ∀ a t, P a t → Accepts (d depth) t a ∧ t.head? ≠ some 0x6E) :
    Accepts (Json.Decoder.optional d depth) s a := by
  cases hs with
  | none =>
    refine Json.accepts_atByte (by decide) (by decide) fun r _ => ?_
    have hword := Json.word_append Json.ull r
    rw [if_pos rfl]
    split
    · next e he => cases he.symm.trans hword
    · next u hu =>
      cases hu.symm.trans hword
      rfl
  | some hs =>
    obtain ⟨haccepts, hhead⟩ := h _ _ hs
    obtain ⟨b, t, rfl, hb, hclose⟩ := haccepts.starts
    have hne : b ≠ 0x6E := fun hb => hhead (congrArg some hb)
    refine Json.accepts_atByte hb hclose fun r hr => ?_
    rw [if_neg hne, Json.outcome_map]
    have hread := haccepts.reads [] r Json.blanks_nil hr
    rw [List.nil_append, List.cons_append] at hread
    rw [hread]
    rfl

namespace Deployment

def detailSlots : List (Slot String) :=
  [.optional "message" TextForm (fun m => m) (fun _ v => v) ""]

theorem lawful_detail : Lawful detailSlots "" where
  names := by decide
  commute := by simp [detailSlots, Slot.optional]
  whole _ := by simp [Json.takeAll, detailSlots, Slot.optional]
  omitted := by simp [detailSlots, Slot.optional]

theorem accepts_detail {m : String} {s : List UInt8} (h : RecordForm detailSlots m s)
    (depth : Nat) : Accepts (detail (depth + 2)) s m :=
  Json.accepts_record lawful_detail (.cons (readBy_defaulted fun _ hv => Json.accepts_text hv _) .nil) h

def errorSlots : List (Slot DeploymentError) :=
  [ .optional "code" TextForm (fun e => e.code) (fun e v => { e with code := v }) ""
  , .optional "details" (ListForm (RecordForm detailSlots)) (fun e => e.details)
      (fun e v => { e with details := v }) [] ]

theorem lawful_error : Lawful errorSlots ⟨"", []⟩ where
  names := by decide
  commute := by simp [errorSlots, Slot.optional]
  whole _ := by simp [Json.takeAll, errorSlots, Slot.optional]
  omitted := by simp [errorSlots, Slot.optional]

theorem accepts_error {e : DeploymentError} {s : List UInt8} (h : RecordForm errorSlots e s)
    (depth : Nat) : Accepts (error? (depth + 4)) s e := by
  refine Json.accepts_record lawful_error ?_ h
  exact .cons (readBy_defaulted fun _ hv => Json.accepts_text hv _) <|
    .cons (readBy_defaulted fun _ hv =>
      Json.accepts_list (fun _ _ _ ht => accepts_detail ht _) hv) .nil

theorem head_error {e : DeploymentError} {s : List UInt8} (h : RecordForm errorSlots e s) :
    s.head? ≠ some 0x6E := by
  cases h with
  | object _ hs =>
    cases hs
    simp
  | list _ _ _ hs =>
    cases hs
    simp

def propertiesSlots : List (Slot (String × Option DeploymentError)) :=
  [ .optional "provisioningState" TextForm Prod.fst (fun p v => (v, p.2)) ""
  , .optional "error" (OptionForm (RecordForm errorSlots)) Prod.snd (fun p v => (p.1, v)) none ]

theorem lawful_properties : Lawful propertiesSlots ("", none) where
  names := by decide
  commute := by simp [propertiesSlots, Slot.optional]
  whole _ := by simp [Json.takeAll, propertiesSlots, Slot.optional]
  omitted := by simp [propertiesSlots, Slot.optional]

theorem accepts_properties {p : String × Option DeploymentError} {s : List UInt8}
    (h : RecordForm propertiesSlots p s) (depth : Nat) : Accepts (properties (depth + 5)) s p := by
  refine Json.accepts_record lawful_properties ?_ h
  exact .cons (readBy_defaulted fun _ hv => Json.accepts_text hv _) <|
    .cons (readBy_defaulted fun _ hv =>
      accepts_optional hv fun _ _ he => ⟨accepts_error he _, head_error he⟩) .nil

def slots : List (Slot Deployment) :=
  [ .optional "id" TextForm (fun d => d.id) (fun d v => { d with id := v }) ""
  , .optional "properties" (RecordForm propertiesSlots) (fun d => (d.state, d.error))
      (fun d v => { d with state := v.1, error := v.2 }) ("", none) ]

theorem lawful : Lawful slots ⟨"", "", none⟩ where
  names := by decide
  commute := by simp [slots, Slot.optional]
  whole _ := by simp [Json.takeAll, slots, Slot.optional]
  omitted := by simp [slots, Slot.optional]

/-- **A status document is read as the deployment whose fields it holds.** -/
theorem decode_deployment {d : Deployment} {s : List UInt8}
    (h : DocumentForm (RecordForm slots) d s) : Json.decode decoder s = .ok d := by
  obtain ⟨hw, hw', h⟩ := h
  refine Accepts.decode (Json.accepts_record lawful ?_ h) hw hw'
  exact .cons (readBy_defaulted fun _ hv => Json.accepts_text hv _) <|
    .cons (readBy_defaulted fun _ hv => accepts_properties hv 122) .nil

/-- A document that holds nothing else. -/
def document (d : Deployment) : Value :=
  .object
    [ ("id", .text d.id)
    , ("properties", .object
        [ ("provisioningState", .text d.state)
        , ("error", (d.error.map fun e => .object
            [ ("code", .text e.code)
            , ("details", .list (e.details.map fun m => .object [("message", .text m)])) ]).getD
              .null) ]) ]

theorem form_detail (m : String) :
    RecordForm detailSlots m (Json.bytes (Value.object [("message", .text m)]).render) :=
  Json.recordForm_render lawful_detail.names <| .cons ⟨rfl, Json.textForm_render m⟩ .nil

theorem form_document (d : Deployment) : RecordForm slots d (Json.bytes d.document.render) := by
  have herror : OptionForm (RecordForm errorSlots) d.error
      (Json.bytes ((d.error.map fun e => Value.object
        [ ("code", .text e.code)
        , ("details", .list (e.details.map fun m => .object [("message", .text m)])) ]).getD
          .null).render) := by
    cases d.error with
    | none => exact .none
    | some e =>
      refine .some (Json.recordForm_render lawful_error.names ?_)
      exact .cons ⟨rfl, Json.textForm_render e.code⟩ <|
        .cons ⟨rfl, Json.listForm_render fun m _ => form_detail m⟩ .nil
  refine Json.recordForm_render lawful.names ?_
  refine .cons ⟨rfl, Json.textForm_render d.id⟩ (.cons ⟨rfl, ?_⟩ .nil)
  exact Json.recordForm_render lawful_properties.names <|
    .cons ⟨rfl, Json.textForm_render d.state⟩ <| .cons ⟨rfl, herror⟩ .nil

/-- Every deployment is told by some document. -/
theorem decode_document (d : Deployment) : Json.decode decoder d.document.toBytes = .ok d := by
  have hform : DocumentForm (RecordForm slots) d ([] ++ (Json.bytes d.document.render ++ [])) :=
    .intro Json.blanks_nil Json.blanks_nil d.form_document
  rw [List.nil_append, List.append_nil, ← Json.toBytes_eq] at hform
  exact decode_deployment hform

end Deployment

/-! ## The document inside a text -/

/-- `d` is the part of `s` from the first opening brace to the last closing one. -/
inductive Spans : List Char → List Char → Prop where
  | intro {before inside after : List Char} (hopen : '\x7b' ∉ before) (hclose : '\x7d' ∉ after) :
      Spans (before ++ '\x7b' :: (inside ++ '\x7d' :: after)) ('\x7b' :: (inside ++ ['\x7d']))

theorem Spans.embedded {s d : List Char} (h : Spans s d) : embedded s = d := by
  cases h with
  | @intro before inside after hopen hclose =>
    have hreverse : ('\x7b' :: (inside ++ '\x7d' :: after)).reverse =
        after.reverse ++ '\x7d' :: (inside.reverse ++ ['\x7b']) := by simp
    unfold Azure.embedded
    rw [dropWhile_ne hopen, hreverse, dropWhile_ne (by simpa using hclose)]
    simp

/-- **What is searched is the part from the first opening brace to the last closing one**, if there is
such a part. -/
theorem spans_iff {s d : List Char} : Spans s d ↔ embedded s = d ∧ d ≠ [] := by
  constructor
  · intro h
    refine ⟨h.embedded, ?_⟩
    cases h
    exact List.cons_ne_nil _ _
  rintro ⟨rfl, hne⟩
  by_cases hopen : '\x7b' ∈ s
  · obtain ⟨before, rest, rfl, hbefore⟩ := List.eq_append_cons_of_mem hopen
    by_cases hclose : '\x7d' ∈ rest.reverse
    · obtain ⟨after, inside, hrest, hafter⟩ := List.eq_append_cons_of_mem hclose
      have heq : rest = inside.reverse ++ '\x7d' :: after.reverse := by
        rw [← List.reverse_reverse rest, hrest]
        simp
      have hspans : Spans (before ++ '\x7b' :: (inside.reverse ++ '\x7d' :: after.reverse))
          ('\x7b' :: (inside.reverse ++ ['\x7d'])) := .intro hbefore (by simpa using hafter)
      rw [heq, hspans.embedded]
      exact hspans
    · -- no brace closes behind the first that opens
      have hnone : '\x7d' ∉ ('\x7b' :: rest).reverse := by simpa using hclose
      refine absurd ?_ hne
      unfold embedded
      rw [dropWhile_ne hbefore, dropWhile_ne_eq_nil_iff.mpr hnone, List.reverse_nil]
  · refine absurd ?_ hne
    unfold embedded
    rw [dropWhile_ne_eq_nil_iff.mpr hopen]
    rfl

/-- A document reaches from the first opening brace of a text to the last closing one, and names `v`
as the cause. -/
def Cites (message v : String) : Prop :=
  ∃ d document, Spans message.toList d ∧ Value.parse (encode (String.ofList d)) = .ok document ∧
    document.follow causePath = some (.text v) ∧ v ≠ ""

theorem parse_nil : Value.parse [] = .error .endOfValue := rfl

theorem text?_eq_some_iff {v : Value} {t : String} : v.text? = some t ↔ v = .text t := by
  cases v <;> simp [Value.text?]

/-- **The cause that is found is the one a text cites.** -/
theorem embeddedCause?_eq_some_iff {message v : String} :
    embeddedCause? message = some v ↔ Cites message v := by
  unfold embeddedCause? Cites
  constructor
  · intro h
    cases hparse : Value.parse (encode (String.ofList (embedded message.toList))) with
    | error e =>
      rw [hparse] at h
      cases h
    | ok document =>
      rw [hparse] at h
      obtain ⟨hpath, hv⟩ := Option.filter_eq_some_iff.mp h
      obtain ⟨t, hfollow, htext⟩ := Option.bind_eq_some_iff.mp hpath
      refine ⟨_, document, spans_iff.mpr ⟨rfl, ?_⟩, hparse, ?_, of_decide_eq_true hv⟩
      · intro hnil
        rw [hnil] at hparse
        cases hparse.symm.trans parse_nil
      · rw [hfollow, text?_eq_some_iff.mp htext]
  · rintro ⟨d, document, hspans, hparse, hfollow, hv⟩
    rw [hspans.embedded, hparse]
    simp [hfollow, Value.text?, hv]

/-! ## An object inside a text -/

/-- A text with one object in it that names `v` as the cause: no brace opens before the object and
none closes behind it. -/
inductive Wraps : String → String → Prop where
  | intro {before object after v : String} {members : List (String × Value)}
      (hopen : '\x7b' ∉ before.toList) (hclose : '\x7d' ∉ after.toList)
      (hobject : ObjectForm (ValueForm 126) members (encode object))
      (hpath : (Value.ofMembers members).follow causePath = some (.text v)) (hv : v ≠ "") :
      Wraps (before ++ object ++ after) v

/-- An object starts with an opening brace and ends with a closing one. -/
theorem toList_object {P : Value → List UInt8 → Prop} {members : List (String × Value)}
    {object : String} (h : ObjectForm P members (encode object)) :
    ∃ inside, object.toList = '\x7b' :: (inside ++ ['\x7d']) := by
  generalize hs : encode object = s at h
  obtain ⟨h⟩ := h
  obtain ⟨t, rfl⟩ := h.last
  obtain ⟨cs, hfirst⟩ := Text.Utf8.toList_of_first (d := '\x7b') (by decide) hs
  obtain ⟨ds, hlast⟩ := Text.Utf8.toList_of_last (d := '\x7d') (t := 0x7B :: t) (by decide) hs
  cases ds with
  | nil => cases hfirst.symm.trans hlast
  | cons d ds =>
    cases hfirst.symm.trans hlast
    exact ⟨ds, hfirst⟩

/-- **The cause that an object in a text names is cited.** -/
theorem Wraps.cites {message v : String} (h : Wraps message v) : Cites message v := by
  cases h with
  | @intro before object after _ members hopen hclose hobject hpath hv =>
    obtain ⟨inside, hinside⟩ := toList_object hobject
    have hspans : Spans (before ++ object ++ after).toList object.toList := by
      have htext : (before ++ object ++ after).toList =
          before.toList ++ '\x7b' :: (inside ++ '\x7d' :: after.toList) := by
        simp [String.toList_append, hinside]
      rw [htext, hinside]
      exact .intro hopen hclose
    have hform : ValueForm 127 (.ofMembers members) (encode object) := .object hobject
    have hparse : Value.parse (encode object) = .ok (.ofMembers members) := by
      have hdecode := (Json.accepts_value hform).decode Json.blanks_nil Json.blanks_nil
      rwa [List.nil_append, List.append_nil] at hdecode
    refine ⟨object.toList, _, hspans, ?_, hpath, hv⟩
    rw [String.ofList_toList]
    exact hparse

/-! ## What a document says -/

/-- The error of a document, if it has a code. -/
def Coded (d : Deployment) (e : DeploymentError) : Prop := d.error = some e ∧ e.code ≠ ""

/-- `m` is the most specific cause of an error: what its first detail cites, or its code. -/
inductive Explains (e : DeploymentError) : String → Prop where
  | detail {message v : String} {rest : List String} (hdetails : e.details = message :: rest)
      (hcites : Cites message v) : Explains e v
  | code (h : ∀ message ∈ e.details.head?, ∀ v, ¬ Cites message v) : Explains e e.code

theorem explains_iff {e : DeploymentError} {m : String} :
    Explains e m ↔ Status.causeOf e = m := by
  unfold Status.causeOf
  constructor
  · rintro (⟨hdetails, hcites⟩ | h)
    · rw [hdetails, List.head?_cons, Option.bind_some, embeddedCause?_eq_some_iff.mpr hcites,
        Option.getD_some]
    · cases hhead : e.details.head? with
      | none => rfl
      | some message =>
        cases hcause : embeddedCause? message with
        | none => simp [hcause]
        | some v => exact absurd (embeddedCause?_eq_some_iff.mp hcause) (h message hhead v)
  · rintro rfl
    cases hdetails : e.details with
    | nil => exact .code (by simp [hdetails])
    | cons message rest =>
      cases hcause : embeddedCause? message with
      | none =>
        rw [List.head?_cons, Option.bind_some, hcause]
        refine .code fun other hother v hcites => ?_
        rw [hdetails] at hother
        cases hother
        cases hcause.symm.trans (embeddedCause?_eq_some_iff.mpr hcites)
      | some v =>
        rw [List.head?_cons, Option.bind_some, hcause]
        exact .detail hdetails (embeddedCause?_eq_some_iff.mp hcause)

theorem Explains.ne_empty {e : DeploymentError} {m : String} (h : Explains e m)
    (hcode : e.code ≠ "") : m ≠ "" := by
  cases h with
  | detail _ hcites =>
    obtain ⟨_, _, _, _, _, hv⟩ := hcites
    exact hv
  | code => exact hcode

variable {d : Deployment} {e : DeploymentError}

theorem errorOf?_eq_some_iff : Status.errorOf? d = some e ↔ Coded d e := by
  unfold Status.errorOf? Coded
  rw [Option.filter_eq_some_iff, decide_eq_true_iff]

/-- An error with a code means failure, whatever the provisioning state is. -/
theorem ofDeployment_coded (h : Coded d e) :
    Status.ofDeployment d = .ok (.failed (Status.causeOf e)) := by
  unfold Status.ofDeployment
  rw [errorOf?_eq_some_iff.mpr h]

theorem errorOf?_eq_none (h : ¬ ∃ e, Coded d e) : Status.errorOf? d = none := by
  cases herror : Status.errorOf? d with
  | none => rfl
  | some e => exact absurd ⟨e, errorOf?_eq_some_iff.mp herror⟩ h

/-- The subscription in a resource id is not empty. -/
theorem subscriptionId?_ne_empty {id s : String} (h : subscriptionId? id = some s) : s ≠ "" := by
  unfold subscriptionId? at h
  split at h
  · cases h
  · next name hname =>
    cases h
    rintro hempty
    exact hname (String.ofList_eq_empty_iff.mp hempty)

/-- What is said of a document: `r` is a failure exactly if there is an error with a code or the state
is one of failure, the cause is never empty and the most specific there is, and it is found inside the
text of the first detail whatever stands around it there. -/
structure Reported (d : Deployment) (r : Except Cause Status) : Prop where
  failed : (∃ m, r = .ok (.failed m)) ↔
    (∃ e, Coded d e) ∨ d.state = Status.failedState ∨ d.state = Status.canceledState
  named : ∀ m, r = .ok (.failed m) → m ≠ ""
  explained : ∀ e, Coded d e → ∀ m, r = .ok (.failed m) ↔ Explains e m
  wrapped : ∀ e message rest v, Coded d e → e.details = message :: rest → Wraps message v →
    r = .ok (.failed v)
  succeeded : ∀ s, r = .ok (.succeeded s) → s ≠ ""
  running : (∃ state, r = .ok (.running state)) ↔ (¬ ∃ e, Coded d e) ∧
    d.state ∉ [Status.succeededState, Status.failedState, Status.canceledState]

theorem reported_coded (h : Coded d e) : Reported d (Status.ofDeployment d) := by
  rw [ofDeployment_coded h]
  have hexplains : Explains e (Status.causeOf e) := explains_iff.mpr rfl
  have hsame : ∀ e', Coded d e' → e' = e := fun e' h' => Option.some.inj (h'.1.symm.trans h.1)
  have hexplained : ∀ e', Coded d e' → ∀ m,
      (Except.ok (.failed (Status.causeOf e)) : Except Cause Status) = .ok (.failed m) ↔
        Explains e' m := by
    intro e' h' m
    rw [hsame e' h', explains_iff]
    simp
  refine ⟨iff_of_true ⟨_, rfl⟩ (.inl ⟨e, h⟩), ?_, hexplained, ?_, ?_, ?_⟩
  · rintro m hm
    exact ((hexplained e h m).mp hm).ne_empty h.2
  · intro e' message rest v h' hdetails hwraps
    exact (hexplained e' h' v).mpr (.detail hdetails hwraps.cites)
  · intro s hs
    cases hs
  · refine iff_of_false ?_ fun hno => hno.1 ⟨e, h⟩
    rintro ⟨state, hstate⟩
    cases hstate

/-- Without an error that has a code the provisioning state decides. -/
theorem reported_uncoded (h : ¬ ∃ e, Coded d e) : Reported d (Status.ofDeployment d) := by
  have hexplained : ∀ (r : Except Cause Status) (e : DeploymentError), Coded d e →
      ∀ m, r = .ok (.failed m) ↔ Explains e m := fun _ e he => absurd ⟨e, he⟩ h
  have hwrapped : ∀ (r : Except Cause Status) (e : DeploymentError) (message : String)
      (rest : List String) (v : String), Coded d e → e.details = message :: rest →
        Wraps message v → r = .ok (.failed v) := fun _ e _ _ _ he => absurd ⟨e, he⟩ h
  unfold Status.ofDeployment
  rw [errorOf?_eq_none h]
  dsimp only
  by_cases hsucceeded : d.state = Status.succeededState
  · have hother : ¬ (d.state = Status.failedState ∨ d.state = Status.canceledState) := by
      rw [hsucceeded]
      decide
    rw [if_pos hsucceeded]
    cases hid : subscriptionId? d.id with
    | none =>
      exact ⟨by simp [h, hother], by simp, hexplained _, hwrapped _, by simp,
        by simp [hsucceeded]⟩
    | some s =>
      refine ⟨by simp [h, hother], by simp, hexplained _, hwrapped _, ?_, by simp [hsucceeded]⟩
      rintro t ⟨⟩
      exact subscriptionId?_ne_empty hid
  rw [if_neg hsucceeded]
  by_cases hfailed : d.state = Status.failedState ∨ d.state = Status.canceledState
  · rw [if_pos hfailed]
    refine ⟨by simp [hfailed], ?_, hexplained _, hwrapped _, by simp, ?_⟩
    · rintro m ⟨⟩
      rcases hfailed with hstate | hstate <;> rw [hstate] <;> decide
    · rcases hfailed with hstate | hstate <;> simp [hstate]
  · rw [if_neg hfailed]
    refine ⟨by simp [h, hfailed], by simp, hexplained _, hwrapped _, by simp,
      iff_of_true ⟨_, rfl⟩ ⟨h, ?_⟩⟩
    simpa [hsucceeded] using hfailed

theorem ofBytes_of_decode {bytes : List UInt8} (h : Json.decode Deployment.decoder bytes = .ok d) :
    Status.ofBytes bytes = Status.ofDeployment d := by
  unfold Status.ofBytes
  rw [h]

/-- **A failed deployment is reported with its most specific cause**, whatever the document is. -/
theorem reported_of_decode {bytes : List UInt8} (h : Json.decode Deployment.decoder bytes = .ok d) :
    Reported d (Status.ofBytes bytes) := by
  rw [ofBytes_of_decode h]
  by_cases hcoded : ∃ e, Coded d e
  · obtain ⟨e, he⟩ := hcoded
    exact reported_coded he
  · exact reported_uncoded hcoded

/-- A refusal as it is told inside a text. -/
def refusal (cause : String) : Value :=
  .object [("message", .object [("value", .text cause)])]

def hardCause : String := "no \x7d key \"\\\"\nleft"

/-- A refusal for this cause, between other texts. -/
def refusedDetail : String :=
  "Deployment refused:\n" ++
    String.ofList (Value.object [("odata.error", refusal hardCause)]).render ++ "\n(again)"

/-- A deployment that is under way still but has an error. -/
def refused : Deployment := ⟨"", "Running", some ⟨"Denied", [refusedDetail, "more"]⟩⟩

theorem valueForm_refusal (cause : String) :
    ValueForm 126 (refusal cause) (refusal cause).toBytes := by
  rw [Json.toBytes_eq]
  exact Json.valueForm_object (List.pairwise_singleton _ _) <| List.forall_mem_singleton.mpr <|
    Json.valueForm_object (List.pairwise_singleton _ _) <| List.forall_mem_singleton.mpr <|
      Json.valueForm_text cause 124

theorem refusedDetail_wraps : Wraps refusedDetail hardCause := by
  have hvalue := valueForm_refusal hardCause
  rw [Json.toBytes_eq] at hvalue
  have hobject : ObjectForm (ValueForm 126) [("odata.error", refusal hardCause)]
      (Value.object [("odata.error", refusal hardCause)]).toBytes := by
    rw [Json.toBytes_eq]
    exact Json.objectForm_values (List.forall_mem_singleton.mpr hvalue)
  exact .intro (by decide) (by decide) hobject rfl (by decide)

/-- The cause is found behind a line break, whatever braces, quotes and escapes it holds, while the
deployment is under way. -/
theorem reported_refused :
    Json.decode Deployment.decoder refused.document.toBytes = .ok refused ∧
      refused.state = "Running" ∧ Coded refused ⟨"Denied", [refusedDetail, "more"]⟩ ∧
      Wraps refusedDetail hardCause ∧
      Status.ofBytes refused.document.toBytes = .ok (.failed hardCause) := by
  have hcoded : Coded refused ⟨"Denied", [refusedDetail, "more"]⟩ := ⟨rfl, by decide⟩
  exact ⟨refused.decode_document, rfl, hcoded, refusedDetail_wraps,
    (reported_of_decode refused.decode_document).wrapped _ _ _ _ hcoded rfl refusedDetail_wraps⟩

/-! ### A number out of range -/

/-- An object that names a cause, beside a number that binary64 has no room for. -/
def oversized : String :=
  "\x7b\"odata.error\":" ++ String.ofList (refusal "denied").render ++ ",\"n\":1e400\x7d"

/-- A deployment whose error has that object as its first detail. -/
def oversizedRefusal : Deployment := ⟨"", "Running", some ⟨"Denied", [oversized]⟩⟩

theorem valid_oversized_number : Valid (encode "1e400") := by
  have hdigits : Json.Digits (encode "400") := ⟨by decide, by decide +kernel⟩
  have hform : Json.NumeralForm ([0x31] ++ ([] ++ 0x65 :: ([] ++ encode "400"))) :=
    .intro (.digits ⟨by decide, by decide +kernel⟩ (by decide)) .absent
      (.present (.inl rfl) (.inl rfl) hdigits)
  exact .numeral hform

theorem objectForm_oversized :
    ObjectForm (fun v s => Valid s ∧ v = s)
      [("odata.error", (refusal "denied").toBytes), ("n", encode "1e400")] (encode oversized) := by
  have hmember := Json.MemberForm.intro (P := fun v s => Valid s ∧ v = s)
    (Json.keyForm_escape "odata.error") Json.blanks_nil Json.blanks_nil
    ⟨(valueForm_refusal "denied").valid, rfl⟩
  have hnumber := Json.MemberForm.intro (P := fun v s => Valid s ∧ v = s)
    (Json.keyForm_escape "n") Json.blanks_nil Json.blanks_nil ⟨valid_oversized_number, rfl⟩
  have hform := ObjectForm.intro (.first Json.blanks_nil hmember
    (.next Json.blanks_nil Json.blanks_nil hnumber (.close Json.blanks_nil)))
  refine Eq.mp (congrArg (ObjectForm _ _) ?_) hform
  decide +kernel

/-- **Beside a number out of range the cause is lost**: the object in a text names it, but the code of
the error is reported. -/
theorem oversized_number_hides_cause :
    ObjectForm (fun v s => Valid s ∧ v = s)
        [("odata.error", (refusal "denied").toBytes), ("n", encode "1e400")] (encode oversized) ∧
      ValueForm 126 (refusal "denied") (refusal "denied").toBytes ∧
      (refusal "denied").follow ["message", "value"] = some (.text "denied") ∧
      Json.decode Deployment.decoder oversizedRefusal.document.toBytes = .ok oversizedRefusal ∧
      Coded oversizedRefusal ⟨"Denied", [oversized]⟩ ∧
      Status.ofBytes oversizedRefusal.document.toBytes = .ok (.failed "Denied") := by
  have hdecode := oversizedRefusal.decode_document
  have hcoded : Coded oversizedRefusal ⟨"Denied", [oversized]⟩ := ⟨rfl, by decide⟩
  have hnothing : embeddedCause? oversized = none := by decide +kernel
  have hcause : Status.causeOf ⟨"Denied", [oversized]⟩ = "Denied" := by
    unfold Status.causeOf
    rw [List.head?_cons, Option.bind_some, hnothing, Option.getD_none]
  refine ⟨objectForm_oversized, valueForm_refusal "denied", rfl, hdecode, hcoded, ?_⟩
  rw [ofBytes_of_decode hdecode, ofDeployment_coded hcoded, hcause]

end CloudGrant.Azure
