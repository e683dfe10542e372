import CloudGrant.Proofs.Azure.Course
import CloudGrant.Service

/-!
# The course of a request

How the runs of the service are put together. `Attaching` lists all ways in which setting up a
client can stop, `Marking` how an application is marked, and `CreateEnds` and `stops_cleanUp` what a
create request comes to: its work was done, or it failed, or it was cut short at a question; after a
failure what is recorded was taken down and the application marked.

Proofs about the service take these apart and do not look at its programs again.
-/

namespace CloudGrant

open Interface

namespace Service

variable {service : Service} {a t u : Application} {l : List surroundings.Event}

/-! ## Setting up a client -/

/-- The question for the login that an application is made with. -/
def fetching (a : Application) : Question :=
  .inventory a.request.caller (.credential a.request.superKey)

/-- Where setting up a client for an application can stop. -/
inductive Attaching (service : Service) (a : Application) :
    List surroundings.Event → Application → Stop surroundings (Except Error Provider) → Prop where
  | unsupported {e : Error} (h : service.catalog.cloud a.request.provider = .error e) :
      Attaching service a [] a (.value (.error e))
  | fetching {cloud : Cloud} (h : service.catalog.cloud a.request.provider = .ok cloud) :
      Attaching service a [] a (.question (fetching a))
  | unfetched {cloud : Cloud} (h : service.catalog.cloud a.request.provider = .ok cloud)
      (e : InventoryError) :
      Attaching service a [⟨Service.fetching a, .error e⟩] a (.value (.error (.inventory e)))
  | incomplete {cloud : Cloud} (h : service.catalog.cloud a.request.provider = .ok cloud)
      {c : Credential} (hc : c.isComplete = false) :
      Attaching service a [⟨Service.fetching a, .ok c⟩] a
        (.value (.error (.missingCredential c.id a.request.superKey)))
  | building {cloud : Cloud} (h : service.catalog.cloud a.request.provider = .ok cloud)
      {c : Credential} (hc : c.isComplete = true) :
      Attaching service a [⟨Service.fetching a, .ok c⟩] a (.question (.build cloud c))
  | unbound {cloud : Cloud} (h : service.catalog.cloud a.request.provider = .ok cloud)
      {c : Credential} (hc : c.isComplete = true) {e : Error}
      (hp : Provider.ofCredential cloud service.template c = .error e) :
      Attaching service a [⟨Service.fetching a, .ok c⟩, ⟨.build cloud c, ()⟩] a (.value (.error e))
  | attached {cloud : Cloud} (h : service.catalog.cloud a.request.provider = .ok cloud)
      {c : Credential} (hc : c.isComplete = true) {p : Provider}
      (hp : Provider.ofCredential cloud service.template c = .ok p) :
      Attaching service a [⟨Service.fetching a, .ok c⟩, ⟨.build cloud c, ()⟩]
        { a with provider := some p } (.value (.ok p))

/-- **Setting up a client can stop in no other way.** -/
theorem attaching_of_stops {x : Stop surroundings (Except Error Provider)}
    (h : (service.attach a).Stops l t x) : Attaching service a l t x := by
  unfold attach at h
  rw [Program.stops_get_bind_iff] at h
  unfold provider at h
  -- the name is looked up before anything is asked
  cases hcloud : service.catalog.cloud a.request.provider with
  | error e =>
    simp only [hcloud] at h
    obtain ⟨rfl, rfl, rfl⟩ := Run.stops_done_iff.mp h
    exact .unsupported hcloud
  | ok cloud =>
    simp only [hcloud] at h
    rcases Run.stops_ask_iff.mp h with ⟨rfl, rfl, rfl⟩ | ⟨reply, l₁, rfl, h₁⟩
    · exact .fetching hcloud
    cases reply with
    | error e =>
      obtain ⟨rfl, rfl, rfl⟩ := Run.stops_done_iff.mp h₁
      exact .unfetched hcloud e
    | ok c =>
      cases hc : c.isComplete with
      | false =>
        simp only [Run.bind, hc, Bool.false_eq_true, if_false] at h₁
        obtain ⟨rfl, rfl, rfl⟩ := Run.stops_done_iff.mp h₁
        exact .incomplete hcloud hc
      | true =>
        simp only [Run.bind, hc, if_true] at h₁
        rcases Run.stops_ask_iff.mp h₁ with ⟨rfl, rfl, rfl⟩ | ⟨_, l₂, rfl, h₂⟩
        · exact .building hcloud hc
        cases hp : Provider.ofCredential cloud service.template c with
        | error e =>
          simp only [Run.bind, hp] at h₂
          obtain ⟨rfl, rfl, rfl⟩ := Run.stops_done_iff.mp h₂
          exact .unbound hcloud hc hp
        | ok p =>
          simp only [Run.bind, hp] at h₂
          obtain ⟨rfl, rfl, rfl⟩ := Run.stops_done_iff.mp h₂
          exact .attached hcloud hc hp

/-- A question that goes to no cloud, and marks nothing. -/
def IsQuiet (q : Question) : Prop := Question.isCloud q = false ∧ Question.marks q = false

theorem Attaching.quiet {x : Stop surroundings (Except Error Provider)}
    (h : Attaching service a l t x) :
    (∀ e ∈ l, IsQuiet e.1) ∧ ∀ q, x = .question q → IsQuiet q := by
  have hf : IsQuiet (Service.fetching a) := ⟨rfl, rfl⟩
  have hb : ∀ cloud c, IsQuiet (.build cloud c) := fun _ _ => ⟨rfl, rfl⟩
  cases h with
  | fetching _ => exact ⟨by simp, fun q hq => by cases hq; exact hf⟩
  | building _ _ => exact ⟨by simpa using hf, fun q hq => by cases hq; exact hb _ _⟩
  | unsupported _ => exact ⟨by simp, by simp⟩
  | unfetched _ _ => exact ⟨by simpa using hf, by simp⟩
  | incomplete _ _ => exact ⟨by simpa using hf, by simp⟩
  | unbound _ _ _ => exact ⟨by simpa using ⟨hf, hb _ _⟩, by simp⟩
  | attached _ _ _ => exact ⟨by simpa using ⟨hf, hb _ _⟩, by simp⟩

/-- No guid is drawn while a client is set up. -/
theorem Attaching.drawsNothing {x : Stop surroundings (Except Error Provider)}
    (h : Attaching service a l t x) : ∀ e ∈ l, e.1 ≠ .guid := by
  have hf : Service.fetching a ≠ .guid := nofun
  have hb : ∀ cloud c, Question.build cloud c ≠ .guid := nofun
  cases h with
  | unsupported _ | fetching _ => simp
  | unfetched _ _ | incomplete _ _ | building _ _ => exact List.forall_mem_singleton.mpr hf
  | unbound _ _ _ | attached _ _ _ =>
    exact List.forall_mem_cons.mpr ⟨hf, List.forall_mem_singleton.mpr (hb _ _)⟩

/-- Without a client nothing of the application has changed. -/
theorem Attaching.eq_of_not_ok {x : Stop surroundings (Except Error Provider)}
    (h : Attaching service a l t x) (hx : ∀ p, x ≠ .value (.ok p)) : t = a := by
  cases h with
  | attached _ _ _ => exact absurd rfl (hx _)
  | _ => rfl

/-! ## Making resources -/

/-- A provider draws a guid, and makes the resources under it. -/
theorem stops_provider_provision {p : Provider} {x : Stop surroundings (Except Error Unit)}
    (h : (p.provision a).Stops l t x) :
    (l = [] ∧ t = a ∧ x = .question .guid) ∨
      ∃ guid l', l = ⟨.guid, guid⟩ :: l' ∧
        ((match p with
          | .amazon .. => Amazon.provision
          | .azure login template => Azure.provision login template)
            { a with guid := guid }).Stops l' t x := by
  rcases Run.stops_ask_iff.mp h with ⟨rfl, rfl, rfl⟩ | ⟨guid, l', rfl, h'⟩
  · exact .inl ⟨rfl, rfl, rfl⟩
  · exact .inr ⟨guid, l', rfl, h'⟩

/-- The pause in which resources settle. -/
def settling (service : Service) : List surroundings.Event :=
  if service.settle ≠ 0 then [⟨.wait service.settle, ()⟩] else []

/-- The questions that announce a product, with the answers of an inventory that accepts all. -/
def announcing (request : Request.Create) (product : Product) (id : String) :
    List surroundings.Event :=
  [ ⟨.inventory request.caller
      (.patchApplication request.applicationId ⟨none, none, some product.extra⟩), .ok ()⟩
  , ⟨.inventory request.caller
      (.createAuthentication ⟨product.access, Inventory.authenticationExtra request⟩), .ok id⟩
  , ⟨.inventory request.caller (.linkAuthentication request.applicationId id), .ok ()⟩
  , ⟨.inventory request.caller (.checkAvailability product.sourceId), .ok ()⟩ ]

/-- A pause, and the announcement after it. -/
def settleAndAnnounce (service : Service) : Work (Except Error Unit) := do
  if service.settle ≠ 0 then asking (.wait service.settle) else pure ()
  let announced ← Inventory.announce
  pure (announced.mapError Error.inventory)

theorem provisionAndAnnounce_eq :
    service.provisionAndAnnounce =
      Program.andThen service.provision fun _ => service.settleAndAnnounce := rfl

/-- The pause alone. -/
def pause (service : Service) : Work Unit :=
  if service.settle ≠ 0 then asking (.wait service.settle) else pure ()

/-- The announcement alone. -/
def announcement : Work (Except Error Unit) := do
  let announced ← Inventory.announce
  pure (announced.mapError Error.inventory)

theorem settleAndAnnounce_eq :
    service.settleAndAnnounce = service.pause >>= fun _ => announcement := by
  unfold settleAndAnnounce pause
  by_cases hs : service.settle ≠ 0
  · rw [if_pos hs, if_pos hs]
    rfl
  · rw [if_neg hs, if_neg hs]
    rfl

/-- Nothing but the pause is asked for before the announcement. -/
theorem stops_pause {x : Stop surroundings Unit} (h : (service.pause a).Stops l t x) :
    t = a ∧ ((l = [] ∧ x = .question (.wait service.settle)) ∨
      (l = service.settling ∧ x = .value ())) := by
  unfold pause at h
  unfold settling
  by_cases hs : service.settle ≠ 0
  · rw [if_pos hs] at h ⊢
    obtain ⟨rfl, ⟨rfl, rfl⟩ | ⟨_, rfl, rfl⟩⟩ := Program.stops_ask_iff.mp h
    · exact ⟨rfl, .inl ⟨rfl, rfl⟩⟩
    · exact ⟨rfl, .inr ⟨rfl, rfl⟩⟩
  · rw [if_neg hs] at h ⊢
    obtain ⟨rfl, rfl, rfl⟩ := Program.stops_pure_iff.mp h
    exact ⟨rfl, .inr ⟨rfl, rfl⟩⟩

/-- After the pause comes the announcement. -/
theorem stops_settleAndAnnounce_value {r : Except Error Unit}
    (h : (service.settleAndAnnounce a).Stops l t (.value r)) :
    ∃ l' announced, l = service.settling ++ l' ∧
      (Inventory.announce a).Stops l' t (.value announced) ∧
        r = announced.mapError Error.inventory := by
  rw [settleAndAnnounce_eq] at h
  obtain ⟨l₁, l₂, u, _, rfl, h₁, h₂⟩ := Program.stops_bind_value_iff.mp h
  obtain ⟨rfl, ⟨_, hx⟩ | ⟨rfl, -⟩⟩ := stops_pause h₁
  · cases hx
  obtain ⟨l₃, l₄, v, announced, rfl, h₃, h₄⟩ := Program.stops_bind_value_iff.mp h₂
  obtain ⟨rfl, rfl, rfl⟩ := Program.stops_pure_value_iff.mp h₄
  rw [List.append_nil]
  exact ⟨l₃, announced, rfl, h₃, rfl⟩

theorem stops_call {caller : Caller} {c : Inventory.Call} {r : Except InventoryError c.Result}
    (h : (Inventory.call caller c a).Stops l t (.value r)) :
    t = a ∧ l = [⟨.inventory caller c, r⟩] := Program.stops_ask_value_iff.mp h

/-- A product is announced in four calls. -/
theorem stops_announceProduct_ok {request : Request.Create} {product : Product}
    (h : (Inventory.announceProduct request product a).Stops l t (.value (.ok ()))) :
    t = a ∧ ∃ id, l = announcing request product id := by
  obtain ⟨l₁, m₁, _, _, rfl, h₁, k₁⟩ := Program.stops_andThen_ok_iff.mp h
  obtain ⟨rfl, rfl⟩ := stops_call h₁
  obtain ⟨l₂, m₂, _, id, rfl, h₂, k₂⟩ := Program.stops_andThen_ok_iff.mp k₁
  obtain ⟨rfl, rfl⟩ := stops_call h₂
  obtain ⟨l₃, l₄, _, _, rfl, h₃, h₄⟩ := Program.stops_andThen_ok_iff.mp k₂
  obtain ⟨rfl, rfl⟩ := stops_call h₃
  obtain ⟨rfl, rfl⟩ := stops_call h₄
  exact ⟨rfl, id, rfl⟩

/-- **An application is announced after a pause, in four calls.** -/
theorem stops_settleAndAnnounce_ok
    (h : (service.settleAndAnnounce a).Stops l t (.value (.ok ()))) :
    t = a ∧ ∃ product id, a.product = some product ∧
      l = service.settling ++ announcing a.request product id := by
  obtain ⟨l', announced, rfl, hannounce, hr⟩ := stops_settleAndAnnounce_value h
  cases announced with
  | error e => cases hr
  | ok _ =>
    unfold Inventory.announce at hannounce
    rw [Program.stops_get_bind_iff] at hannounce
    cases hp : a.product with
    | none =>
      simp only [hp] at hannounce
      obtain ⟨_, _, hx⟩ := Program.stops_pure_value_iff.mp hannounce
      cases hx
    | some product =>
      simp only [hp] at hannounce
      obtain ⟨rfl, id, rfl⟩ := stops_announceProduct_ok hannounce
      exact ⟨rfl, product, id, rfl, rfl⟩

theorem asks_call {P : Question → Prop} {caller : Caller} {c : Inventory.Call}
    (h : P (.inventory caller c)) : (Inventory.call caller c).Asks P := Program.asks_ask h

theorem keeps_call {caller : Caller} {c : Inventory.Call} :
    (Inventory.call caller c).Keeps id := Program.keeps_ask _

/-- A question by which an application is announced, or the pause before it. -/
inductive IsAnnouncing : Question → Prop where
  | wait {milliseconds : Nat} : IsAnnouncing (.wait milliseconds)
  | product {caller : Caller} {id : String} {extra : Option Json.Value} :
      IsAnnouncing (.inventory caller (.patchApplication id ⟨none, none, extra⟩))
  | authentication {caller : Caller} {authentication : Inventory.Authentication} :
      IsAnnouncing (.inventory caller (.createAuthentication authentication))
  | link {caller : Caller} {application authentication : String} :
      IsAnnouncing (.inventory caller (.linkAuthentication application authentication))
  | check {caller : Caller} {source : String} :
      IsAnnouncing (.inventory caller (.checkAvailability source))

theorem IsAnnouncing.isQuiet {q : Question} (h : IsAnnouncing q) : IsQuiet q := by
  cases h <;> exact ⟨rfl, rfl⟩

theorem asks_announce : Inventory.announce.Asks IsAnnouncing := by
  refine Program.asks_bind Program.asks_get fun a => ?_
  cases a.product with
  | none => exact Program.asks_pure _
  | some product =>
    refine Program.asks_andThen (asks_call .product) fun _ => ?_
    refine Program.asks_andThen (asks_call .authentication) fun _ => ?_
    exact Program.asks_andThen (asks_call .link) fun _ => asks_call .check

theorem keeps_announce : Inventory.announce.Keeps id := by
  refine Program.keeps_bind Program.keeps_get fun a => ?_
  cases a.product with
  | none => exact Program.keeps_pure _
  | some product =>
    refine Program.keeps_andThen keeps_call fun _ => ?_
    refine Program.keeps_andThen keeps_call fun _ => ?_
    exact Program.keeps_andThen keeps_call fun _ => keeps_call

/-- Nothing is asked but what announces the application. -/
theorem asks_announcing : service.settleAndAnnounce.Asks IsAnnouncing := by
  rw [settleAndAnnounce_eq]
  have hpause : service.pause.Asks IsAnnouncing := by
    unfold pause
    split
    · exact Program.asks_ask .wait
    · exact Program.asks_pure _
  refine Program.asks_bind hpause fun _ => ?_
  exact Program.asks_bind asks_announce fun _ => Program.asks_pure _

/-- The announcement goes to no cloud. -/
theorem asks_settleAndAnnounce : service.settleAndAnnounce.Asks IsQuiet :=
  asks_announcing.mono fun _ => IsAnnouncing.isQuiet

/-- The announcement leaves the application alone. -/
theorem keeps_settleAndAnnounce : service.settleAndAnnounce.Keeps id := by
  rw [settleAndAnnounce_eq]
  have hpause : service.pause.Keeps id := fun s l t x h => (stops_pause h).1
  exact Program.keeps_bind hpause fun _ => Program.keeps_bind keeps_announce fun _ =>
    Program.keeps_pure _

/-! ## The work of a create request -/

/-- The application of a request with a client. -/
def attached (request : Request.Create) (p : Provider) : Application :=
  { Application.new request "" with provider := some p }

/-- What is answered while a client is set up. -/
def attachment (request : Request.Create) (cloud : Cloud) (c : Credential) :
    List surroundings.Event :=
  [⟨fetching (Application.new request ""), .ok c⟩, ⟨.build cloud c, ()⟩]

theorem quiet_attachment {request : Request.Create} {cloud : Cloud} {c : Credential} :
    ∀ e ∈ attachment request cloud c, IsQuiet e.1 :=
  List.forall_mem_cons.mpr ⟨⟨rfl, rfl⟩, List.forall_mem_singleton.mpr ⟨rfl, rfl⟩⟩

/-- Where the work of a create request can stop: without a client, with resources that are not all
made, or after that. -/
inductive Working (service : Service) (request : Request.Create) :
    List surroundings.Event → Application → Stop surroundings (Except Error Unit) → Prop where
  | fetching {l : List surroundings.Event} {t : Application} {q : Question}
      (h : Attaching service (Application.new request "") l t (.question q)) :
      Working service request l t (.question q)
  | unattached {l : List surroundings.Event} {t : Application} {e : Error}
      (h : Attaching service (Application.new request "") l t (.value (.error e))) :
      Working service request l t (.value (.error e))
  | provisioning {cloud : Cloud} {c : Credential} {p : Provider} {l : List surroundings.Event}
      {t : Application} {x : Stop surroundings (Except Error Unit)}
      (hcloud : service.catalog.cloud request.provider = .ok cloud)
      (hp : Provider.ofCredential cloud service.template c = .ok p)
      (h : (p.provision (attached request p)).Stops l t x) (hx : x ≠ .value (.ok ())) :
      Working service request (attachment request cloud c ++ l) t x
  | announcing {cloud : Cloud} {c : Credential} {p : Provider} {l l' : List surroundings.Event}
      {u t : Application} {x : Stop surroundings (Except Error Unit)}
      (hcloud : service.catalog.cloud request.provider = .ok cloud)
      (hp : Provider.ofCredential cloud service.template c = .ok p)
      (h : (p.provision (attached request p)).Stops l u (.value (.ok ())))
      (ha : (service.settleAndAnnounce u).Stops l' t x) :
      Working service request (attachment request cloud c ++ l ++ l') t x

/-- **The work of a create request can stop in no other way.** -/
theorem working_of_stops {request : Request.Create} {x : Stop surroundings (Except Error Unit)}
    (h : (service.provisionAndAnnounce (Application.new request "")).Stops l t x) :
    Working service request l t x := by
  have hprovision : ∀ {l t y}, (service.provision (Application.new request "")).Stops l t y →
      y ≠ .value (.ok ()) → Working service request l t y := by
    intro l t y hy hne
    rcases Program.stops_andThen_iff.mp hy with
      ⟨q, rfl, hq⟩ | ⟨e, rfl, he⟩ | ⟨l₁, l₂, u, p, rfl, h₁, h₂⟩
    · exact .fetching (attaching_of_stops hq)
    · exact .unattached (attaching_of_stops he)
    · cases attaching_of_stops h₁ with
      | attached hcloud hc hp => exact .provisioning hcloud hp h₂ hne
  rw [provisionAndAnnounce_eq] at h
  rcases Program.stops_andThen_iff.mp h with
    ⟨q, rfl, hq⟩ | ⟨e, rfl, he⟩ | ⟨l₁, l₂, u, _, rfl, h₁, h₂⟩
  · exact hprovision hq (by simp)
  · exact hprovision he (by simp)
  · obtain ⟨k₁, k₂, v, p, rfl, h₃, h₄⟩ := Program.stops_andThen_ok_iff.mp h₁
    cases attaching_of_stops h₃ with
    | attached hcloud hc hp => exact .announcing hcloud hp h₄ h₂

/-! ## Cleaning up -/

/-- The patch by which an application is marked. -/
def marking (request : Request.Create) (failure : Error) (extra : Json.Value) :
    Inventory.ApplicationPatch :=
  ⟨some Inventory.unavailable,
    some (Inventory.unavailableReason request.provider failure.message), some extra⟩

/-- How an application is marked as unavailable: its source follows if the patch was accepted. -/
inductive Marking (request : Request.Create) (failure : Error) (extra : Json.Value) :
    List surroundings.Event → Prop where
  | rejected (e : InventoryError) :
      Marking request failure extra
        [⟨.inventory request.caller
          (.patchApplication request.applicationId (marking request failure extra)), .error e⟩]
  | accepted (r : Except InventoryError Unit) :
      Marking request failure extra
        [ ⟨.inventory request.caller
            (.patchApplication request.applicationId (marking request failure extra)), .ok ()⟩
        , ⟨.inventory request.caller (.patchSource request.sourceId Inventory.unavailable), r⟩ ]

theorem Marking.not_isCloud {request : Request.Create} {failure : Error} {extra : Json.Value}
    (h : Marking request failure extra l) :
    ∀ e ∈ l.map Event.entry, Question.isCloud e.1 = false := by
  intro e he
  cases h <;> simp [Event.entry] at he
  · rw [he]
    rfl
  · rcases he with rfl | rfl <;> rfl

theorem marking_of_stops {request : Request.Create} {failure : Error}
    {progress : Option Application} {r : Except InventoryError Unit}
    (h : (Inventory.markUnavailable request failure.message progress a).Stops l t (.value r)) :
    t = a ∧ Marking request failure
      ((progress.map Application.extraPayload).getD (.object [])) l := by
  rcases Program.stops_andThen_iff.mp h with ⟨_, hx, -⟩ | ⟨e, hx, h₁⟩ | ⟨l₁, l₂, u, _, rfl, h₁, h₂⟩
  · cases hx
  · cases hx
    obtain ⟨rfl, rfl⟩ := stops_call h₁
    exact ⟨rfl, .rejected e⟩
  · obtain ⟨rfl, rfl⟩ := stops_call h₁
    obtain ⟨rfl, rfl⟩ := stops_call h₂
    exact ⟨rfl, .accepted r⟩

/-- What an application with a client holds is taken down by that client. -/
theorem stops_takeDown_of_provider {p : Provider} {x : Stop surroundings (List Error)}
    (hp : a.provider = some p) (h : (service.takeDown a).Stops l t x) :
    (p.takeDown a).Stops l t x := by
  unfold takeDown at h
  rw [Program.stops_get_bind_iff] at h
  simp only [hp] at h
  exact h

/-- **After a failure what is recorded is taken down, and then the application is marked.** -/
theorem stops_cleanUp {request : Request.Create} {failure : Error}
    (h : (service.cleanUp request failure a).Stops l t (.value ())) :
    (a.record.isEmpty = true ∧ t = a ∧ Marking request failure (.object []) l) ∨
      ∃ errors l₁ l₂, a.record.isEmpty = false ∧ l = l₁ ++ l₂ ∧
        (service.takeDown a).Stops l₁ t (.value errors) ∧
        Marking request failure t.extraPayload l₂ := by
  unfold cleanUp at h
  rw [Program.stops_get_bind_iff] at h
  cases he : a.record.isEmpty with
  | true =>
    simp only [he, if_true] at h
    obtain ⟨l₁, l₂, u, r, rfl, h₁, h₂⟩ := Program.stops_bind_value_iff.mp h
    obtain ⟨rfl, hm⟩ := marking_of_stops h₁
    obtain ⟨rfl, rfl, -⟩ := Program.stops_pure_iff.mp h₂
    rw [List.append_nil]
    exact .inl ⟨rfl, rfl, hm⟩
  | false =>
    simp only [he, Bool.false_eq_true, if_false] at h
    obtain ⟨l₁, l', u, errors, rfl, h₁, h'⟩ := Program.stops_bind_value_iff.mp h
    rw [Program.stops_get_bind_iff] at h'
    obtain ⟨l₂, l₃, v, r, rfl, h₂, h₃⟩ := Program.stops_bind_value_iff.mp h'
    obtain ⟨rfl, hm⟩ := marking_of_stops h₂
    obtain ⟨rfl, rfl, -⟩ := Program.stops_pure_iff.mp h₃
    rw [List.append_nil]
    exact .inr ⟨errors, l₁, l₂, rfl, rfl, h₁, hm⟩

/-! ## Whole requests -/

/-- Where some work under the deadline stands in the end: its log, its result, and the state. -/
inductive Ended {α : Type} (service : Service) (work : Work α) (a : Application) :
    List surroundings.Entry → Application → Except Error α → Prop where
  | done {l : List surroundings.Event} {t : Application} {r : α}
      (h : (work a).Stops l t (.value r)) :
      Ended service work a (l.map Event.entry) t (.ok r)
  | cut {l₁ l₂ : List surroundings.Event} {u t : Application} {q : Question}
      (h : (work a).Stops l₁ u (.question q)) (hr : (Azure.release u).Stops l₂ t (.value ())) :
      Ended service work a (l₁.map Event.entry ++ ⟨q, none⟩ :: l₂.map Event.entry) t
        (.error (.deadline (Duration.ofMilliseconds service.deadline)))

theorem ended_of_stops {α : Type} {work : Work α} {l : List surroundings.timed.Event}
    {r : Except Error α} (h : (service.withinDeadline work a).Stops l t (.value r)) :
    Ended service work a (entries l) t r := by
  obtain ⟨l₁, l₂, u, r', rfl, h₁, h₂⟩ := Program.stops_bind_value_iff.mp h
  rcases Program.stops_within h₁ with ⟨b, l', rfl, hl, hb⟩ | ⟨q, v, k₁, k₂, rfl, hl, hq, hr⟩
  · obtain ⟨rfl, rfl, rfl⟩ := Program.stops_pure_value_iff.mp h₂
    rw [List.append_nil, hl]
    exact .done hb
  · obtain ⟨rfl, rfl, rfl⟩ := Program.stops_pure_value_iff.mp h₂
    rw [List.append_nil, hl]
    exact .cut hq hr

/-- What a create request comes to: its work, and the clean-up if the work failed. -/
inductive CreateEnds (service : Service) (request : Request.Create) :
    List surroundings.Entry → Application → Except Error Unit → Prop where
  | done {log : List surroundings.Entry} {t : Application}
      (h : Ended service service.provisionAndAnnounce (Application.new request "") log t
        (.ok (.ok ()))) :
      CreateEnds service request log t (.ok ())
  | failed {work : List surroundings.Entry} {l : List surroundings.Event} {u t : Application}
      {r : Except Error (Except Error Unit)} {failure : Error}
      (h : Ended service service.provisionAndAnnounce (Application.new request "") work u r)
      (hr : r.bind id = .error failure)
      (hc : (service.cleanUp request failure u).Stops l t (.value ())) :
      CreateEnds service request (work ++ l.map Event.entry) t (.error failure)

/-- A create request that is over has come to one of these ends. -/
theorem createEnds_of_stops {request : Request.Create} {l : List surroundings.timed.Event}
    {r : Except Error Unit} (h : (service.createRun request).Stops l t (.value r)) :
    CreateEnds service request (entries l) t r := by
  obtain ⟨l₁, l₂, u, outcome, rfl, h₁, h₂⟩ := Program.stops_bind_value_iff.mp h
  have hwork := ended_of_stops h₁
  -- whether anything follows depends on the result of the work alone
  rw [entries_append]
  cases ho : outcome.bind id with
  | ok _ =>
    simp only [ho] at h₂
    obtain ⟨rfl, rfl, rfl⟩ := Program.stops_pure_value_iff.mp h₂
    rw [entries_nil, List.append_nil]
    cases outcome with
    | error e => cases ho
    | ok r =>
      have hr : r = .ok () := ho
      subst hr
      exact .done hwork
  | error failure =>
    simp only [ho] at h₂
    obtain ⟨l₃, l₄, v, _, rfl, h₃, h₄⟩ := Program.stops_bind_value_iff.mp h₂
    obtain ⟨rfl, rfl, rfl⟩ := Program.stops_pure_value_iff.mp h₄
    obtain ⟨l', rfl, hclean⟩ := Run.stops_untimed h₃
    rw [List.append_nil, entries_untimed]
    exact .failed hwork ho hclean

variable {ω : Type}

/-- **Every run of a create request comes to one of these ends.** -/
theorem createRun_ends
    (answer : ω → (q : surroundings.timed.Request) → surroundings.timed.Reply q × ω) (w : ω)
    (request : Request.Create) :
    CreateEnds service request ((service.createRun request).log answer w)
      ((service.createRun request).exec answer w).1.1
      ((service.createRun request).exec answer w).1.2 :=
  createEnds_of_stops (Run.stops_exec answer w (service.createRun request))

/-- The result of a destroy request whose teardown ended with some failures. -/
def destroyed : Except Error (List Error) → Except Error Unit
  | .error failure => .error failure
  | .ok failures =>
    match Error.ofFailures? failures with
    | none => .ok ()
    | some failure => .error failure

/-- A destroy request that is over has come to the end of its teardown. -/
theorem destroyEnds_of_stops {request : Request.Destroy} {l : List surroundings.timed.Event}
    {r : Except Error Unit} (h : (service.destroyRun request).Stops l t (.value r)) :
    ∃ outcome, Ended service service.takeDown (Application.ofDestroy request) (entries l) t outcome ∧
      r = destroyed outcome := by
  obtain ⟨l₁, l₂, u, outcome, rfl, h₁, h₂⟩ := Program.stops_bind_value_iff.mp h
  have hwork := ended_of_stops h₁
  have hend : l₂ = [] ∧ t = u ∧ r = destroyed outcome := by
    cases outcome with
    | error failure =>
      obtain ⟨rfl, rfl, rfl⟩ := Program.stops_pure_value_iff.mp h₂
      exact ⟨rfl, rfl, rfl⟩
    | ok failures =>
      unfold destroyed
      cases hf : Error.ofFailures? failures with
      | none =>
        simp only [hf] at h₂ ⊢
        obtain ⟨rfl, rfl, rfl⟩ := Program.stops_pure_value_iff.mp h₂
        exact ⟨rfl, rfl, rfl⟩
      | some failure =>
        simp only [hf] at h₂ ⊢
        obtain ⟨rfl, rfl, rfl⟩ := Program.stops_pure_value_iff.mp h₂
        exact ⟨rfl, rfl, rfl⟩
  obtain ⟨rfl, rfl, rfl⟩ := hend
  rw [List.append_nil]
  exact ⟨outcome, hwork, rfl⟩

/-- **Every run of a destroy request comes to the end of its teardown.** -/
theorem destroyRun_ends
    (answer : ω → (q : surroundings.timed.Request) → surroundings.timed.Reply q × ω) (w : ω)
    (request : Request.Destroy) :
    ∃ r, Ended service service.takeDown (Application.ofDestroy request)
        ((service.destroyRun request).log answer w)
        ((service.destroyRun request).exec answer w).1.1 r ∧
      ((service.destroyRun request).exec answer w).1.2 = destroyed r :=
  destroyEnds_of_stops (Run.stops_exec answer w (service.destroyRun request))

end Service

end CloudGrant
