import Mathlib
import CloudGrant.Intake.Dispatcher
import CloudGrant.Proofs.Wire

/-!
# What the intake accepts

The headers of an HTTP request may repeat a name, in any spelling, and hold values that are no text. Of
all values under one name a message keeps the last that can be read (`header_ofHttp`): that is so after
each header (`find?_addHttp`), and so after all of them.

A message stands for an event if its headers name a caller and a kind, and its body is a request of
that kind (`Describes`); otherwise it is refused for the first of these that is missing (`Refused`), and
nothing is asked of the surroundings.
-/

namespace CloudGrant

open Interface

/-! ## Values that can be read -/

/-- A tab, or one of the characters of ASCII from the blank to the tilde. -/
def IsPlain (b : UInt8) : Prop := b = 0x09 ∨ (0x20 ≤ b ∧ b ≤ 0x7E)

instance : DecidablePred IsPlain := fun b => inferInstanceAs (Decidable (b = 0x09 ∨ _))

/-- The text of plain bytes. -/
def plainText? (value : List UInt8) : Option String :=
  if ∀ b ∈ value, IsPlain b then some (String.ofList (value.map fun b => Char.ofNat b.toNat))
  else none

theorem isReadable_iff {b : UInt8} : Message.isReadable b = true ↔ IsPlain b := by
  unfold Message.isReadable IsPlain
  simp only [Bool.or_eq_true, Bool.and_eq_true, decide_eq_true_eq, beq_iff_eq,
    UInt8.le_iff_toNat_le, UInt8.lt_iff_toNat_lt, UInt8.reduceToNat, Nat.lt_succ_iff]
  exact or_comm

theorem IsPlain.lt {b : UInt8} (h : IsPlain b) : b < 0x80 := by
  rcases h with rfl | ⟨-, h⟩
  · decide
  · rw [UInt8.le_iff_toNat_le] at h
    rw [UInt8.lt_iff_toNat_lt]
    exact Nat.lt_of_le_of_lt h (by decide)

theorem readable?_eq (value : List UInt8) : Message.readable? value = plainText? value := by
  have hall : value.all Message.isReadable = true ↔ ∀ b ∈ value, IsPlain b := by
    simp [List.all_eq_true, isReadable_iff]
  unfold Message.readable? plainText?
  by_cases h : ∀ b ∈ value, IsPlain b
  · rw [if_pos (hall.mpr h), if_pos h,
      ← Text.Utf8.encode_of_ascii fun b hb => (h b hb).lt, Text.Utf8.decode?_encode,
      Text.Utf8.encode_of_ascii fun b hb => (h b hb).lt]
  · rw [if_neg (hall.not.mpr h), if_neg h]

/-! ## Headers -/

/-- The values of a header that can be read, in the order in which they came. -/
def readableValues (name : String) (headers : List (String × List UInt8)) : List String :=
  (headers.filter fun h => lowerCase h.1 = lowerCase name).filterMap fun h => plainText? h.2

/-- The last value of a header that can be read, empty if there is none. -/
def lastReadable (headers : List (String × List UInt8)) (name : String) : String :=
  (readableValues name headers).getLast?.getD ""

theorem lowerCase_lowerCase (name : String) : lowerCase (lowerCase name) = lowerCase name := by
  simp [lowerCase, Function.comp_def]

theorem lastReadable_congr {headers : List (String × List UInt8)} {name spelling : String}
    (h : lowerCase spelling = lowerCase name) :
    lastReadable headers spelling = lastReadable headers name := by
  unfold lastReadable readableValues
  rw [h]

theorem readableValues_cons {name : String} {h : String × List UInt8}
    {headers : List (String × List UInt8)} :
    readableValues name (h :: headers) =
      (if lowerCase h.1 = lowerCase name then (plainText? h.2).toList else []) ++
        readableValues name headers := by
  unfold readableValues
  by_cases hn : lowerCase h.1 = lowerCase name
  · rw [if_pos hn, List.filter_cons_of_pos (by simpa using hn)]
    rw [List.filterMap_cons]
    cases plainText? h.2 <;> rfl
  · rw [if_neg hn, List.filter_cons_of_neg (by simpa using hn)]
    rfl

namespace Message

/-- All names in a message are in lower case. -/
def IsLowered (m : Message) : Prop := ∀ e ∈ m.headers.entries, lowerCase e.1 = e.1

theorem isLowered_new (body : List UInt8) : (new body).IsLowered := by
  intro e he
  cases he

theorem IsLowered.withHeader {m : Message} (h : m.IsLowered) (name value : String) :
    (m.withHeader name value).IsLowered := by
  intro e he
  rcases Dict.mem_insertEntry he with rfl | he
  · exact lowerCase_lowerCase name
  · exact h e he

theorem IsLowered.addHttp {m : Message} (h : m.IsLowered) (header : String × List UInt8) :
    (m.addHttp header).IsLowered := by
  unfold Message.addHttp
  split
  · exact h.withHeader _ _
  · exact h

/-- Where all names are in lower case a header is looked up by its name in lower case. -/
theorem IsLowered.header_eq {m : Message} (h : m.IsLowered) (name : String) :
    m.header name = (m.headers.find? (lowerCase name)).getD "" := by
  have hfind : ∀ entries : List (String × String), (∀ e ∈ entries, lowerCase e.1 = e.1) →
      (entries.find? fun e => lowerCase e.1 == lowerCase name).map Prod.snd =
        Dict.findEntry (lowerCase name) entries := by
    intro entries hentries
    induction entries with
    | nil => rfl
    | cons e entries ih =>
      obtain ⟨he, hrest⟩ := List.forall_mem_cons.mp hentries
      rw [Dict.findEntry_cons]
      by_cases hn : lowerCase name = e.1
      · rw [List.find?_cons_of_pos (by simp [he, hn]), if_pos hn]
        rfl
      · rw [List.find?_cons_of_neg (by simp [he, Ne.symm hn]), if_neg hn, ih hrest]
  unfold Message.header Dict.find?
  rw [hfind _ h]

/-- One more header takes the place of what was kept under its name, if its value can be read. -/
theorem find?_addHttp (m : Message) (header : String × List UInt8) (name : String) :
    (m.addHttp header).headers.find? (lowerCase name) =
      (if lowerCase header.1 = lowerCase name then plainText? header.2 else none).or
        (m.headers.find? (lowerCase name)) := by
  unfold Message.addHttp
  rw [readable?_eq]
  cases hv : plainText? header.2 with
  | none => simp
  | some v =>
    show (m.headers.insert (lowerCase header.1) v).find? (lowerCase name) = _
    rw [Dict.find?_insert]
    by_cases hn : lowerCase header.1 = lowerCase name
    · rw [if_pos hn.symm, if_pos hn]
      rfl
    · rw [if_neg (Ne.symm hn), if_neg hn]
      rfl

/-- Of several headers of a name the last that can be read is kept. -/
theorem find?_foldl_addHttp (m : Message) (headers : List (String × List UInt8)) (name : String) :
    (headers.foldl addHttp m).headers.find? (lowerCase name) =
      (readableValues name headers).getLast?.or (m.headers.find? (lowerCase name)) := by
  induction headers generalizing m with
  | nil => rfl
  | cons h headers ih =>
    rw [List.foldl_cons, ih, find?_addHttp, readableValues_cons, List.getLast?_append,
      Option.or_assoc]
    by_cases hn : lowerCase h.1 = lowerCase name
    · rw [if_pos hn, if_pos hn]
      cases plainText? h.2 <;> rfl
    · rw [if_neg hn, if_neg hn]
      rfl

theorem isLowered_ofHttp (headers : List (String × List UInt8)) (body : List UInt8) :
    (ofHttp headers body).IsLowered := by
  have hfold : ∀ m : Message, m.IsLowered → (headers.foldl addHttp m).IsLowered := by
    induction headers with
    | nil => exact fun m hm => hm
    | cons h headers ih => exact fun m hm => ih _ (hm.addHttp h)
  exact hfold _ (isLowered_new body)

/-- **A message answers each header with its last value that could be read.** -/
theorem header_ofHttp (headers : List (String × List UInt8)) (body : List UInt8) :
    (ofHttp headers body).header = lastReadable headers := by
  funext name
  rw [(isLowered_ofHttp headers body).header_eq, ofHttp, find?_foldl_addHttp]
  unfold lastReadable
  cases (readableValues name headers).getLast? <;> rfl

theorem body_ofHttp (headers : List (String × List UInt8)) (body : List UInt8) :
    (ofHttp headers body).body = body := by
  have hfold : ∀ m : Message, (headers.foldl addHttp m).body = m.body := by
    induction headers with
    | nil => exact fun _ => rfl
    | cons h headers ih =>
      intro m
      rw [List.foldl_cons, ih]
      unfold addHttp
      split <;> rfl
  exact hfold (new body)

end Message

/-! ## Events -/

namespace Event

/-- Headers that name a caller. -/
def NamesCaller (header : String → String) : Prop :=
  header "x-rh-identity" ≠ "" ∨ header "x-rh-sources-org-id" ≠ ""

instance (header : String → String) : Decidable (NamesCaller header) :=
  inferInstanceAs (Decidable (_ ∨ _))

/-- The event that headers and a body describe. Its request names the caller of the headers. -/
inductive Describes (header : String → String) (body : List UInt8) : Event → Prop where
  | create {r : Request.Create} (hc : NamesCaller header)
      (hk : header "event_type" = "create_application") (hr : Json.decode Wire.create body = .ok r) :
      Describes header body (.create { r with
        identity := header "x-rh-identity"
        orgId := header "x-rh-sources-org-id" })
  | destroy {r : Request.Destroy} (hc : NamesCaller header)
      (hk : header "event_type" = "destroy_application")
      (hr : Json.decode Wire.destroy body = .ok r) :
      Describes header body (.destroy { r with
        identity := header "x-rh-identity"
        orgId := header "x-rh-sources-org-id" })

/-- The first thing that is wrong with headers and a body. -/
inductive Refused (header : String → String) (body : List UInt8) : Error → Prop where
  | anonymous (hc : ¬ NamesCaller header) :
      Refused header body
        (.invalid "no \"x-rh-identity\" or \"x-rh-sources-org-id\" header found")
  | unknown (hc : NamesCaller header) (hcreate : header "event_type" ≠ "create_application")
      (hdestroy : header "event_type" ≠ "destroy_application") :
      Refused header body (.invalid ("unknown event type \"" ++ header "event_type" ++ "\""))
  | create (hc : NamesCaller header) (hk : header "event_type" = "create_application")
      {e : Json.Error} (he : Json.decode Wire.create body = .error e) :
      Refused header body
        (.invalid ("failed to parse \"create_application\" request: " ++ e.message))
  | destroy (hc : NamesCaller header) (hk : header "event_type" = "destroy_application")
      {e : Json.Error} (he : Json.decode Wire.destroy body = .error e) :
      Refused header body
        (.invalid ("failed to parse \"destroy_application\" request: " ++ e.message))

/-- What headers and a body are taken for. -/
def Outcome (header : String → String) (body : List UInt8) : Except Error Event → Prop
  | .ok event => Describes header body event
  | .error e => Refused header body e

theorem outcome_ofMessage (m : Message) : Outcome m.header m.body (ofMessage m) := by
  unfold ofMessage
  dsimp only
  by_cases hc : NamesCaller m.header
  · have hnamed : ¬ (m.header identityHeader = "" ∧ m.header orgHeader = "") := by
      rw [not_and_or]
      exact hc
    rw [if_neg hnamed]
    by_cases hcreate : m.header kindHeader = createKind
    · rw [if_pos hcreate, body, hcreate]
      cases hr : Json.decode Wire.create m.body with
      | ok r => exact Describes.create hc hcreate hr
      | error e => exact Refused.create hc hcreate hr
    rw [if_neg hcreate]
    by_cases hdestroy : m.header kindHeader = destroyKind
    · rw [if_pos hdestroy, body, hdestroy]
      cases hr : Json.decode Wire.destroy m.body with
      | ok r => exact Describes.destroy hc hdestroy hr
      | error e => exact Refused.destroy hc hdestroy hr
    rw [if_neg hdestroy]
    exact Refused.unknown hc hcreate hdestroy
  · obtain ⟨hidentity, horg⟩ := not_or.mp hc
    have hanonymous : m.header identityHeader = "" ∧ m.header orgHeader = "" :=
      ⟨not_not.mp hidentity, not_not.mp horg⟩
    rw [if_pos hanonymous]
    exact Refused.anonymous hc

variable {header : String → String} {body : List UInt8} {event event' : Event} {e e' : Error}
  {x y : Except Error Event}

theorem Describes.unique (h : Describes header body event) (h' : Describes header body event') :
    event = event' := by
  cases h with
  | create _ hk hr =>
    cases h' with
    | create _ _ hr' => rw [Except.ok.inj (hr.symm.trans hr')]
    | destroy _ hk' _ => exact absurd (hk.symm.trans hk') (by decide)
  | destroy _ hk hr =>
    cases h' with
    | create _ hk' _ => exact absurd (hk'.symm.trans hk) (by decide)
    | destroy _ _ hr' => rw [Except.ok.inj (hr.symm.trans hr')]

theorem Refused.unique (h : Refused header body e) (h' : Refused header body e') : e = e' := by
  cases h <;> cases h' <;> simp_all

theorem Describes.not_refused (h : Describes header body event) : ¬ Refused header body e := by
  intro hr
  cases h <;> cases hr <;> simp_all

/-- Headers and a body are taken for one thing. -/
theorem Outcome.unique (h : Outcome header body x) (h' : Outcome header body y) : x = y := by
  cases x with
  | ok event =>
    cases y with
    | ok event' => exact congrArg Except.ok (Describes.unique h h')
    | error e => exact absurd h' (Describes.not_refused h)
  | error e =>
    cases y with
    | ok event => exact absurd h (Describes.not_refused h')
    | error e' => exact congrArg Except.error (Refused.unique h h')

theorem ofMessage_eq_iff {m : Message} : ofMessage m = x ↔ Outcome m.header m.body x := by
  constructor
  · rintro rfl
    exact outcome_ofMessage m
  · exact (outcome_ofMessage m).unique

end Event

/-! ## Messages over HTTP -/

/-- Of each name the same values are kept in the same order, whatever comes between them. -/
def KeepsOrder (received kept : List (String × List UInt8)) : Prop :=
  ∀ name, (kept.filter fun h => lowerCase h.1 = lowerCase name).map Prod.snd =
    (received.filter fun h => lowerCase h.1 = lowerCase name).map Prod.snd

theorem KeepsOrder.lastReadable_eq {received kept : List (String × List UInt8)}
    (h : KeepsOrder received kept) : lastReadable kept = lastReadable received := by
  have hvalues : ∀ (name : String) (headers : List (String × List UInt8)),
      readableValues name headers =
        ((headers.filter fun h => lowerCase h.1 = lowerCase name).map Prod.snd).filterMap
          plainText? := by
    intro name headers
    rw [List.filterMap_map]
    rfl
  funext name
  unfold lastReadable
  rw [hvalues, hvalues, h name]

/-- **The intake accepts exactly the messages that are well-formed.** Whatever the spelling in which it
is asked for, a header of the message is the last value that was received for it and can be read. The
message stands for the event that these headers and the body describe; if they describe none then it is
refused for the first thing that is wrong with it, and its task is over without having asked its
surroundings for anything. -/
theorem ofMessage_ofHttp_iff {received kept : List (String × List UInt8)}
    (hkept : KeepsOrder received kept) (body : List UInt8) :
    (∀ name spelling, lowerCase spelling = lowerCase name →
      (Message.ofHttp kept body).header spelling = lastReadable received name) ∧
    (∀ event, Event.ofMessage (Message.ofHttp kept body) = .ok event ↔
      Event.Describes (lastReadable received) body event) ∧
    (∀ e, Event.ofMessage (Message.ofHttp kept body) = .error e ↔
      Event.Refused (lastReadable received) body e) ∧
    ∀ e, Event.ofMessage (Message.ofHttp kept body) = .error e → ∀ d : Dispatcher,
      ∃ a, d.handle (Message.ofHttp kept body) = .done a (.error e) := by
  have hheader : (Message.ofHttp kept body).header = lastReadable received := by
    rw [Message.header_ofHttp, hkept.lastReadable_eq]
  have hbody : (Message.ofHttp kept body).body = body := Message.body_ofHttp kept body
  refine ⟨fun name spelling hs => ?_, fun event => ?_, fun e => ?_, fun e he d => ?_⟩
  · rw [hheader, lastReadable_congr hs]
  · rw [Event.ofMessage_eq_iff, hheader, hbody]
    rfl
  · rw [Event.ofMessage_eq_iff, hheader, hbody]
    rfl
  · unfold Dispatcher.handle
    rw [he]
    exact ⟨_, rfl⟩

/-- Headers as they were received: a name in two spellings, and a value that cannot be read. -/
def headersReceived : List (String × List UInt8) :=
  [ ("X-RH-Identity", Text.Utf8.encode "b2xk"), ("Event_Type", Text.Utf8.encode "create_application")
  , ("x-rh-identity", Text.Utf8.encode "aWQ="), ("x-rh-identity", [0xC3, 0xA9])
  , ("event_type", Text.Utf8.encode "destroy_application") ]

/-- The same headers as they were kept. -/
def headersKept : List (String × List UInt8) :=
  [ ("event_type", Text.Utf8.encode "create_application")
  , ("event_type", Text.Utf8.encode "destroy_application")
  , ("x-rh-identity", Text.Utf8.encode "b2xk"), ("x-rh-identity", Text.Utf8.encode "aWQ=")
  , ("x-rh-identity", [0xC3, 0xA9]) ]

theorem keepsOrder_headersKept : KeepsOrder headersReceived headersKept := by
  have hidentity : lowerCase "X-RH-Identity" = "x-rh-identity" := by decide
  have hidentity' : lowerCase "x-rh-identity" = "x-rh-identity" := by decide
  have hkind : lowerCase "Event_Type" = "event_type" := by decide
  have hkind' : lowerCase "event_type" = "event_type" := by decide
  intro name
  unfold headersReceived headersKept
  simp only [List.filter_cons, hidentity, hidentity', hkind, hkind']
  by_cases h : "x-rh-identity" = lowerCase name
  · simp [← h]
  · by_cases h' : "event_type" = lowerCase name
    · simp [← h']
    · simp [h, h']

/-- A request with a caller of its own, which the headers replace. -/
def callerIgnored : Request.Destroy := { Request.Destroy.blank with orgId := "org-2" }

/-- A message is accepted for its last readable headers. -/
theorem accepted_for_last_headers :
    KeepsOrder headersReceived headersKept ∧
      Event.ofMessage (Message.ofHttp headersKept (Wire.Destroy.toJson callerIgnored).toBytes) =
        .ok (.destroy { callerIgnored with identity := "aWQ=", orgId := "" }) := by
  refine ⟨keepsOrder_headersKept, ?_⟩
  refine ((ofMessage_ofHttp_iff keepsOrder_headersKept _).2.1 _).mpr ?_
  have hidentity : lastReadable headersReceived "x-rh-identity" = "aWQ=" := by decide +kernel
  have hkind : lastReadable headersReceived "event_type" = "destroy_application" := by
    decide +kernel
  have horg : lastReadable headersReceived "x-rh-sources-org-id" = "" := by decide
  have hnamed : Event.NamesCaller (lastReadable headersReceived) :=
    .inl (by rw [hidentity]; decide)
  have hdescribes := Event.Describes.destroy hnamed hkind (Wire.decode_destroy callerIgnored)
  rwa [hidentity, horg] at hdescribes

end CloudGrant
