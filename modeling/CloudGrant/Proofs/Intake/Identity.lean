import CloudGrant.Proofs.Gateway
import CloudGrant.Proofs.Inventory.Identity
import CloudGrant.Proofs.Service.Caller
import CloudGrant.Proofs.Wire
import CloudGrant.Intake.Dispatcher
import CloudGrant.Simulation.Script

/-!
# The caller of a message

The headers of a message say on whose behalf the inventory is asked while the message is carried out,
and its body does not. `Dispatcher.handle_isFor` follows the caller from the headers through the task
of the message, `names_handler` from there to what is sent over the network, and `NamedBy` is what a
request then says about the caller. Bodies that differ only in whom they name lead to the same task
(`Message.SameButCaller.ofMessage_eq`).
-/

namespace CloudGrant

open Inventory

namespace Gateway

/-- All requests that are sent over the network have a property. -/
def Demand.Sends (P : Http.Request → Prop) : Demand → Prop
  | network e => e.Sends P
  | _ => True

/-- The network is used for calls to the inventory alone. -/
theorem names_handler (g : Gateway) {caller : Caller} (q : Question) (h : q.IsFor caller) :
    (g.handler q).Throughout (Demand.Sends (g.inventory.Names caller)) fun _ => True := by
  cases q with
  | amazon c =>
    refine Program.throughout_get_bind fun links _ => ?_
    exact (Program.asks_through fun _ => trivial).throughout
  | azure c => exact (asks_azureCall fun _ => trivial).throughout
  | inventory c call =>
    cases h
    refine Program.throughout_through (Program.Throughout.mono (names_carryOut _ _ _) fun e he => ?_)
    exact he
  | build cloud c =>
    cases cloud with
    | amazon => exact Program.throughout_modify fun _ _ => trivial
    | azure => exact Program.throughout_pure _
  | wait ms => exact Program.throughout_ask trivial
  | guid => exact Program.throughout_ask trivial

end Gateway

namespace Event

/-- The account in the request of an event. To destroy something takes none. -/
def account : Event → String
  | create r => (r.extra.find? "account").getD ""
  | destroy _ => ""

/-- On whose behalf the inventory is asked for a message. -/
def callerOf (m : Message) (event : Event) : Caller :=
  ⟨m.header identityHeader, m.header orgHeader, event.account⟩

/-- The request of an event names the caller of the headers. -/
theorem names_of_ofMessage {m : Message} {event : Event} (h : ofMessage m = .ok event) :
    match event with
    | create r => r.caller = callerOf m event
    | destroy r => r.identity = m.header identityHeader ∧ r.orgId = m.header orgHeader := by
  unfold ofMessage at h
  simp only at h
  split at h
  · cases h
  split at h
  · cases hb : body Wire.create (m.header kindHeader) m with
    | error e =>
      rw [hb] at h
      cases h
    | ok r =>
      rw [hb] at h
      cases h
      rfl
  split at h
  · cases hb : body Wire.destroy (m.header kindHeader) m with
    | error e =>
      rw [hb] at h
      cases h
    | ok r =>
      rw [hb] at h
      cases h
      exact ⟨rfl, rfl⟩
  · cases h

end Event

/-! ## Tasks -/

theorem Dispatcher.handle_isFor (d : Dispatcher) {m : Message} {event : Event}
    (h : Event.ofMessage m = .ok event) :
    (d.handle m).Throughout (Run.Timeless (Question.IsFor (Event.callerOf m event)))
      fun _ => True := by
  have hnames := Event.names_of_ofMessage h
  unfold Dispatcher.handle
  rw [h]
  cases event with
  | create r =>
    simp only [Dispatcher.carryOut]
    split
    · exact .done _ trivial
    · rw [← hnames]
      exact (Service.createRun_isFor _ r).mono (fun _ h => h) fun _ _ => trivial
  | destroy r =>
    simp only [Dispatcher.carryOut]
    split
    · exact .done _ trivial
    · have hcaller : Event.callerOf m (.destroy r) = ⟨r.identity, r.orgId, ""⟩ := by
        rw [hnames.1, hnames.2]
        rfl
      rw [hcaller]
      exact (Service.destroyRun_isFor _ r).mono (fun _ h => h) fun _ _ => trivial

/-- Two messages have the same headers, and bodies that are requests of the kind of the headers which
differ in nothing but the caller that they name. -/
inductive Message.SameButCaller (m m' : Message) : Prop where
  | create (h : m.headers = m'.headers) (hk : m.header Event.kindHeader = Event.createKind)
      {r : Request.Create} {identity orgId : String} (hr : Json.decode Wire.create m.body = .ok r)
      (hr' : Json.decode Wire.create m'.body =
        .ok { r with identity := identity, orgId := orgId })
  | destroy (h : m.headers = m'.headers) (hk : m.header Event.kindHeader = Event.destroyKind)
      {r : Request.Destroy} {identity orgId : String}
      (hr : Json.decode Wire.destroy m.body = .ok r)
      (hr' : Json.decode Wire.destroy m'.body =
        .ok { r with identity := identity, orgId := orgId })

theorem Message.header_congr {m m' : Message} (h : m.headers = m'.headers) :
    m.header = m'.header := by
  funext name
  unfold Message.header
  rw [h]

/-- Whom the body names as the caller does not matter. -/
theorem Message.SameButCaller.ofMessage_eq {m m' : Message} (h : m.SameButCaller m') :
    Event.ofMessage m = Event.ofMessage m' := by
  cases h with
  | create h hk hr hr' =>
    unfold Event.ofMessage Event.body
    rw [← Message.header_congr h, hk, hr, hr']
    rfl
  | destroy h hk hr hr' =>
    have hne : Event.destroyKind ≠ Event.createKind := by decide
    unfold Event.ofMessage Event.body
    simp only [← Message.header_congr h, hk, hr, hr', if_neg hne]
    rfl

/-! ## The headers of requests -/

/-- The headers of a request name a caller: with a shared key by the organisation and the account,
without one by an identity. -/
structure NamedBy (key : Option String) (caller : Caller) (headers : List (String × String)) :
    Prop where
  /-- An empty key is none. -/
  keyed : ∀ k, key = some k → k ≠ "" →
    valuesOf sharedKeyHeader headers = [k] ∧
      valuesOf orgHeader headers = (if caller.orgId = "" then [] else [caller.orgId]) ∧
      valuesOf accountHeader headers = (if caller.account = "" then [] else [caller.account]) ∧
      valuesOf identityHeader headers = []
  unkeyed : key = none ∨ key = some "" →
    valuesOf sharedKeyHeader headers = [] ∧ valuesOf orgHeader headers = [] ∧
      valuesOf accountHeader headers = [] ∧
      valuesOf identityHeader headers =
        [if caller.identity = "" then synthesizedIdentity caller.account caller.orgId
          else caller.identity]

/-- The settings with a key name every caller so. -/
theorem namedBy_of_names {s : Inventory.Settings} {key : Option String} {caller : Caller}
    {r : Http.Request} (h : (s.withSharedKey key).Names caller r) :
    NamedBy key caller r.headers where
  keyed k hk hne := by
    have hkey : (s.withSharedKey key).sharedKey = some k := by simp [Settings.withSharedKey, hk, hne]
    rw [h.values _ (by decide) (by decide), h.values _ (by decide) (by decide),
      h.values _ (by decide) (by decide), h.values _ (by decide) (by decide)]
    exact valuesOf_headers_keyed hkey
  unkeyed hk := by
    have hkey : (s.withSharedKey key).sharedKey = none := by
      rcases hk with rfl | rfl <;> simp [Settings.withSharedKey]
    rw [h.values _ (by decide) (by decide), h.values _ (by decide) (by decide),
      h.values _ (by decide) (by decide), h.values _ (by decide) (by decide)]
    exact valuesOf_headers_unkeyed hkey

theorem mem_names_of_mem_headers {s : Inventory.Settings} {caller : Caller} {h : String × String}
    (hh : h ∈ s.headers caller) :
    h.1 ∈ [sharedKeyHeader, orgHeader, accountHeader, identityHeader] := by
  have hoptional : ∀ {name value}, h ∈ optionalHeader name value → h.1 = name := by
    intro name value hmem
    unfold optionalHeader at hmem
    split at hmem
    · cases hmem
    · rw [List.mem_singleton.mp hmem]
  unfold Settings.headers at hh
  split at hh
  · rcases List.mem_append.mp hh with hh | hh
    · rcases List.mem_cons.mp hh with rfl | hh
      · simp
      · simp [hoptional hh]
    · simp [hoptional hh]
  · split at hh <;> simp [List.mem_singleton.mp hh]

/-- **The caller comes from the headers of a message and reaches the inventory unchanged.** Whenever a
request is sent while a message is carried out, its headers name the caller of the message's own
headers, with the account of its request, and they name nobody else. What else the body says about the
caller does not matter: with another caller in the body everything that is done is the same. -/
theorem caller_of_headers (g : Gateway) (s : Inventory.Settings) (key : Option String)
    (hg : g.inventory = s.withSharedKey key) (d : Dispatcher) {m : Message} {event : Event}
    (hm : Event.ofMessage m = .ok event) :
    (∀ l t q r limit, (g.carryOut (d.handle m)).Stops l t (.question q) →
      Interface.subject? q = some (Gateway.Demand.network (.send r limit)) →
        NamedBy key ⟨m.header Event.identityHeader, m.header Event.orgHeader, event.account⟩
          r.headers ∧
        ∀ h ∈ r.headers,
          h.1 ∈ [sharedKeyHeader, orgHeader, accountHeader, identityHeader, "content-type"] ∨
            ∃ (c : Inventory.Call) (u : Http.Url),
              Http.Url.parse? (s.url c) = some u ∧ h ∈ Http.loginHeaders u) ∧
    ∀ m', m.SameButCaller m' → g.carryOut (d.handle m') = g.carryOut (d.handle m) := by
  refine ⟨fun l t q r limit hs hq => ?_, fun m' h => ?_⟩
  · have htask := (d.handle_isFor hm).handledBy (Program.throughout_timed g.names_handler)
    have hnames := Run.Throughout.question (htask _ trivial) hs _ hq
    have hnames : g.inventory.Names (Event.callerOf m event) r := hnames
    refine ⟨namedBy_of_names (hg ▸ hnames), fun h hh => ?_⟩
    rcases hnames.others h hh with hmem | hname | hlogin
    · exact .inl (List.mem_append_left ["content-type"] (mem_names_of_mem_headers hmem))
    · exact .inl (by simp [hname])
    · rw [hg] at hlogin
      exact .inr hlogin
  · unfold Dispatcher.handle
    rw [h.ofMessage_eq]

/-- A gateway to an inventory with a shared key. -/
def keyedGateway : Gateway where
  inventory := (Inventory.Settings.ofUrl "http://sources").withSharedKey (some "key")
  azure := Azure.Settings.standard
  region := "us-east-1"

/-- A dispatcher over a service that does not wait. -/
def keyedDispatcher : Dispatcher where
  service := ⟨Catalog.standard, none, 0, 1⟩
  createDisabled := false
  destroyDisabled := false

/-- The headers of a message of the organisation `org-1`. -/
def headersOfOrg : Dict String String :=
  Dict.ofList [(Event.kindHeader, Event.destroyKind), (Event.orgHeader, "org-1")]

/-- A message of that organisation. -/
def messageOfOrg (body : Request.Destroy) : Message :=
  ⟨headersOfOrg, (Wire.Destroy.toJson body).toBytes⟩

theorem header_messageOfOrg (body : Request.Destroy) :
    (messageOfOrg body).header = (⟨headersOfOrg, []⟩ : Message).header := Message.header_congr rfl

theorem decode_messageOfOrg (body : Request.Destroy) :
    Json.decode Wire.destroy (messageOfOrg body).body = .ok body := by
  unfold messageOfOrg
  rw [Wire.decode_destroy]

theorem event_of_messageOfOrg (body : Request.Destroy) :
    Event.ofMessage (messageOfOrg body) =
      .ok (.destroy { body with identity := "", orgId := "org-1" }) := by
  have hkind : (⟨headersOfOrg, []⟩ : Message).header Event.kindHeader = Event.destroyKind := by
    decide
  have horg : (⟨headersOfOrg, []⟩ : Message).header Event.orgHeader = "org-1" := by decide
  have hidentity : (⟨headersOfOrg, []⟩ : Message).header Event.identityHeader = "" := by decide
  have hbody : Event.body Wire.destroy Event.destroyKind (messageOfOrg body) = .ok body := by
    unfold Event.body
    rw [decode_messageOfOrg]
    rfl
  have hsome : ¬ (True ∧ "org-1" = "") := by decide
  have hne : Event.destroyKind ≠ Event.createKind := by decide
  unfold Event.ofMessage
  simp only [header_messageOfOrg, hkind, horg, hidentity, hbody, if_neg hsome, if_neg hne, if_true,
    Except.map]

/-- A body that names an organisation. -/
def bodyOf (orgId : String) : Request.Destroy := ⟨"", orgId, "", "30", "", "amazon", Record.empty⟩

/-- The run of a message whose body names another organisation than its headers. -/
def runOfOther : Run Gateway.outside.timed Gateway.Links (Except Error Unit × Application) :=
  keyedGateway.carryOut (keyedDispatcher.handle (messageOfOrg (bodyOf "org-2")))

/-- A world outside in which nothing answers. -/
def silent : Simulation.Outside where
  address := ""
  inventory := ⟨false, [], []⟩
  services := ⟨false, [], []⟩
  tool := .new false []
  guid := ""

/-- The request that is sent by a question, if one is. -/
def sent? (q : Gateway.outside.timed.Request) : Option Http.Request :=
  match Interface.subject? q with
  | some (.network (.send r _)) => some r
  | _ => none

theorem exists_of_sent? {q : Gateway.outside.timed.Request} {r : Http.Request}
    (h : sent? q = some r) :
    ∃ limit, Interface.subject? q = some (Gateway.Demand.network (.send r limit)) := by
  unfold sent? at h
  split at h
  · next r' limit hq =>
    cases h
    exact ⟨limit, hq⟩
  · cases h

/-- A request is sent, and it is sent for the organisation of the headers. What the body says of another
one does not matter. -/
theorem org_in_body_ignored :
    (∃ l t q r, runOfOther.Stops l t (.question q) ∧ sent? q = some r ∧
      valuesOf sharedKeyHeader r.headers = ["key"] ∧ valuesOf orgHeader r.headers = ["org-1"]) ∧
    runOfOther = keyedGateway.carryOut (keyedDispatcher.handle (messageOfOrg (bodyOf ""))) := by
  have hkind : (messageOfOrg (bodyOf "")).header Event.kindHeader = Event.destroyKind := by
    rw [header_messageOfOrg]
    decide
  have horg : (messageOfOrg (bodyOf "org-2")).header Event.orgHeader = "org-1" := by
    rw [header_messageOfOrg]
    decide
  have hsame : (messageOfOrg (bodyOf "")).SameButCaller (messageOfOrg (bodyOf "org-2")) :=
    .destroy rfl hkind (decode_messageOfOrg (bodyOf "")) (decode_messageOfOrg (bodyOf "org-2"))
  refine ⟨?_, (caller_of_headers keyedGateway _ _ rfl keyedDispatcher
    (event_of_messageOfOrg _)).2 _ hsame⟩
  have hsends : (runOfOther.history Simulation.Outside.answer silent).any
      (fun e => (sent? e.1).isSome) = true := by decide +kernel
  obtain ⟨e, he, hsome⟩ := List.any_eq_true.mp hsends
  obtain ⟨r, hr⟩ := Option.isSome_iff_exists.mp hsome
  obtain ⟨l₁, l₂, hl⟩ := List.append_of_mem he
  have hexec := Run.stops_exec Simulation.Outside.answer silent runOfOther
  rw [hl] at hexec
  obtain ⟨t, hstops⟩ := hexec.question
  obtain ⟨limit, hq⟩ := exists_of_sent? hr
  obtain ⟨hnamed, -⟩ := (caller_of_headers keyedGateway _ _ rfl keyedDispatcher
    (event_of_messageOfOrg (bodyOf "org-2"))).1 _ _ _ _ _ hstops hq
  obtain ⟨hkey, hvalues, -⟩ := hnamed.keyed "key" rfl (by decide)
  rw [horg] at hvalues
  exact ⟨l₁, t, e.1, r, hstops, hr, hkey, hvalues⟩

end CloudGrant
