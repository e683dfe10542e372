import CloudGrant.Proofs.Gateway
import CloudGrant.Proofs.Service.Outcome

/-!
# Access to a tenant's cloud

A tenant's cloud is reached with the tenant's own login and with no other (`admits_requests`), by
create requests with their clean-up, by destroy requests, and when an application is prepared. The
login is fetched once at most, and only for a name in the catalog; a client is set up once at most,
and only for a complete login that was fetched; every call to a cloud comes after that and is the
client's. The requests that reach the services of an Amazon account carry the client's login.

Every run enters through `Service.attach` (`Entrance`). What comes after it is work of the client
that was set up (`Provider.Runs`), if there is one: without a client nothing is recorded, so that
there is nothing to take down, also when the work was cut short (`Entered`).
-/

namespace CloudGrant

open Interface

/-! ## The calls of a client -/

/-- A call that a client makes to its cloud: an Azure client logs in with its own login and deploys
its own template. -/
inductive Provider.Makes : Provider → Question → Prop where
  | amazon {keyId secret : String} (c : Amazon.Call) : Makes (.amazon keyId secret) (.amazon c)
  | openSession {login : Azure.Login} {template : Option String} :
      Makes (.azure login template) (.azure .openSession)
  | login {login : Azure.Login} {template : Option String} :
      Makes (.azure login template) (.azure (.login login))
  | deploy {login : Azure.Login} {template : String} (name : String) :
      Makes (.azure login (some template)) (.azure (.deploy name template))
  | delete {login : Azure.Login} {template : Option String} (name : String) :
      Makes (.azure login template) (.azure (.delete name))
  | logout {login : Azure.Login} {template : Option String} :
      Makes (.azure login template) (.azure .logout)
  | closeSession {login : Azure.Login} {template : Option String} :
      Makes (.azure login template) (.azure .closeSession)

/-- A client is one of the cloud that it was set up for. -/
theorem Provider.cloud_of_ofCredential {cloud : Cloud} {template : Option String} {c : Credential}
    {p : Provider} (h : Provider.ofCredential cloud template c = .ok p) : p.cloud = cloud := by
  cases cloud with
  | amazon =>
    cases h
    rfl
  | azure =>
    unfold Provider.ofCredential at h
    cases ht : c.azureTenant? with
    | none => simp [ht] at h
    | some tenant =>
      simp only [ht] at h
      cases h
      rfl

/-- A question that leads to no client, and goes to no cloud but that of the client at hand. -/
structure Question.Within (p? : Option Provider) (q : Question) : Prop where
  fetches : q.fetches = false
  builds : q.builds = false
  calls : q.isCloud = true → ∃ p, p? = some p ∧ p.Makes q

theorem Question.Within.of_makes {p : Provider} {q : Question} (h : p.Makes q) :
    Question.Within (some p) q := by
  cases h <;> exact ⟨rfl, rfl, fun _ => ⟨_, rfl, by constructor⟩⟩

/-- What leads to no client and goes to no cloud may always be asked. -/
theorem Question.Within.of_not_isCloud {p? : Option Provider} {q : Question}
    (hf : q.fetches = false) (hb : q.builds = false) (hc : q.isCloud = false) :
    Question.Within p? q where
  fetches := hf
  builds := hb
  calls h := by
    rw [hc] at h
    cases h

theorem Question.Within.of_isAnnouncing {p? : Option Provider} {q : Question}
    (h : Service.IsAnnouncing q) : Question.Within p? q := by
  cases h <;> exact .of_not_isCloud rfl rfl rfl

namespace Provider

variable {p : Provider}

/-- Work that a client does: it asks what a client may ask, and keeps the client. Only an Azure
client opens a session. -/
structure Runs {α : Type} (p : Provider) (work : Work α) : Prop where
  asks : work.Asks (Question.Within (some p))
  provider : work.Keeps Application.provider
  session : p.cloud = .amazon → work.Keeps Application.inSession

theorem Runs.andThen {ε α β : Type} {f : Work (Except ε α)} {g : α → Work (Except ε β)}
    (hf : p.Runs f) (hg : ∀ a, p.Runs (g a)) : p.Runs (f.andThen g) where
  asks := Program.asks_andThen hf.asks fun a => (hg a).asks
  provider := Program.keeps_andThen hf.provider fun a => (hg a).provider
  session hp := Program.keeps_andThen (hf.session hp) fun a => (hg a).session hp

theorem asks_makes_provision : p.provision.Asks (Question.Within (some p)) := by
  refine Program.asks_bind (Program.asks_ask (.of_not_isCloud rfl rfl rfl)) fun guid => ?_
  refine Program.asks_bind (Program.asks_modify _) fun _ => ?_
  cases p with
  | amazon keyId secret =>
    refine Amazon.asks_provision.mono fun q hq => ?_
    obtain ⟨c, rfl, -⟩ := hq
    exact .of_makes (.amazon c)
  | azure login template =>
    refine Azure.asks_provision_of (.of_makes .openSession) (.of_makes .closeSession)
      (.of_makes .login) (.of_makes .logout) fun name t ht => ?_
    rw [ht]
    exact .of_makes (.deploy name)

theorem runs_provision : p.Runs p.provision where
  asks := asks_makes_provision
  provider := by
    refine Program.keeps_bind (Program.keeps_ask _) fun guid => ?_
    refine Program.keeps_bind (Program.keeps_modify fun _ => rfl) fun _ => ?_
    cases p with
    | amazon keyId secret =>
      intro s l t x h
      rw [Amazon.frame_provision h]
    | azure login template =>
      intro s l t x h
      exact congrArg (·.2.2) (Azure.keeps_provision h)
  session hp := by
    refine Program.keeps_bind (Program.keeps_ask _) fun guid => ?_
    refine Program.keeps_bind (Program.keeps_modify fun _ => rfl) fun _ => ?_
    cases p with
    | amazon keyId secret =>
      intro s l t x h
      rw [Amazon.frame_provision h]
    | azure login template => cases hp

theorem runs_takeDown : p.Runs p.takeDown where
  asks := by
    cases p with
    | amazon keyId secret =>
      exact Program.asks_bind Program.asks_get fun _ =>
        Amazon.asks_undoAll fun _ _ u _ => .of_makes (.amazon u.call)
    | azure login template =>
      exact Azure.asks_takeDown_of (.of_makes .openSession) (.of_makes .closeSession)
        (.of_makes .login) (.of_makes .logout) fun name => .of_makes (.delete name)
  provider := by
    intro s l t x h
    cases p with
    | amazon keyId secret => exact congrArg Application.provider (Amazon.keeps_takeDown h)
    | azure login template =>
      have hapart : Azure.apart t = Azure.apart s := Azure.keeps_takeDown h
      exact (congrArg Application.provider hapart :)
  session hp := by
    intro s l t x h
    cases p with
    | amazon keyId secret => exact congrArg Application.inSession (Amazon.keeps_takeDown h)
    | azure login template => cases hp

end Provider

namespace Service

variable {service : Service} {a t u : Application} {l : List surroundings.Event}
  {log : List surroundings.Entry} {p : Provider} {p? : Option Provider}

theorem runs_settleAndAnnounce : p.Runs service.settleAndAnnounce where
  asks := asks_announcing.mono fun _ => Question.Within.of_isAnnouncing
  provider _ _ _ _ h := congrArg Application.provider (keeps_settleAndAnnounce h)
  session _ _ _ _ _ h := congrArg Application.inSession (keeps_settleAndAnnounce h)

/-! ## The way in -/

/-- What a run logs until it has a client, or will have none. -/
inductive Entrance (service : Service) (a : Application) :
    List surroundings.Entry → Option Provider → Prop where
  | unsupported : Entrance service a [] none
  | fetching {cloud : Cloud} (h : service.catalog.find? a.request.provider = some cloud)
      (r : Option (Except InventoryError Credential)) :
      Entrance service a [⟨Service.fetching a, r⟩] none
  | building {cloud : Cloud} (h : service.catalog.find? a.request.provider = some cloud)
      {c : Credential} (hc : c.isComplete = true) (r : Option Unit) :
      Entrance service a [⟨Service.fetching a, some (.ok c)⟩, ⟨.build cloud c, r⟩] none
  | bound {cloud : Cloud} (h : service.catalog.find? a.request.provider = some cloud)
      {c : Credential} (hc : c.isComplete = true) {p : Provider}
      (hp : Provider.ofCredential cloud service.template c = .ok p) :
      Entrance service a [⟨Service.fetching a, some (.ok c)⟩, ⟨.build cloud c, some ()⟩] (some p)

theorem cloud_eq_ok_iff {catalog : Catalog} {name : String} {cloud : Cloud} :
    catalog.cloud name = .ok cloud ↔ catalog.find? name = some cloud := by
  unfold Catalog.cloud
  cases catalog.find? name <;> simp

theorem Attaching.entrance {x : Stop surroundings (Except Error Provider)}
    (h : Attaching service a l t x) (hx : ∀ p, x ≠ .value (.ok p)) :
    Entrance service a (l.map Event.entry ++ x.pending) none := by
  cases h with
  | unsupported _ => exact .unsupported
  | fetching h => exact .fetching (cloud_eq_ok_iff.mp h) none
  | unfetched h e => exact .fetching (cloud_eq_ok_iff.mp h) (some (.error e))
  | @incomplete _ h c hc => exact .fetching (cloud_eq_ok_iff.mp h) (some (.ok c))
  | building h hc => exact .building (cloud_eq_ok_iff.mp h) hc none
  | unbound h hc hp => exact .building (cloud_eq_ok_iff.mp h) hc (some ())
  | attached _ _ _ => exact absurd rfl (hx _)

theorem Attaching.bound (h : Attaching service a l t (.value (.ok p))) :
    Entrance service a (l.map Event.entry) (some p) ∧ t = { a with provider := some p } := by
  cases h with
  | attached h hc hp => exact ⟨.bound (cloud_eq_ok_iff.mp h) hc hp, rfl⟩

/-- A run that has come in: what it logs from then on is its client's, if it has one. -/
structure Entered (service : Service) (a : Application) (p? : Option Provider)
    (log : List surroundings.Entry) (t : Application) : Prop where
  parts : ∃ l₁ l₂, log = l₁ ++ l₂ ∧ Entrance service a l₁ p? ∧ ∀ e ∈ l₂, Question.Within p? e.1
  unbound : p? = none → t = a
  bound : ∀ p, p? = some p → t.provider = some p
  session : t.inSession = true → ∃ p, p? = some p ∧ p.cloud = .azure

theorem Entered.append (h : Entered service a p? log t) {rest : List surroundings.Entry}
    (hrest : ∀ e ∈ rest, Question.Within p? e.1) : Entered service a p? (log ++ rest) t := by
  obtain ⟨l₁, l₂, rfl, hin, hwithin⟩ := h.parts
  refine ⟨⟨l₁, l₂ ++ rest, List.append_assoc .., hin, ?_⟩, h.unbound, h.bound, h.session⟩
  exact List.forall_mem_append.mpr ⟨hwithin, hrest⟩

/-- The client goes on with more of its work. -/
theorem Entered.runs {α : Type} {work : Work α} {x : Stop surroundings α}
    (h : Entered service a (some p) log u) (hw : p.Runs work) (hs : (work u).Stops l t x) :
    Entered service a (some p) (log ++ (l.map Event.entry ++ x.pending)) t := by
  obtain ⟨hparts, -, -, -⟩ := h.append (hw.asks.logged hs)
  refine ⟨hparts, nofun, fun p' hp' => (hw.provider hs).trans (h.bound p' hp'), fun ht => ?_⟩
  cases hc : p.cloud with
  | azure => exact ⟨p, rfl, hc⟩
  | amazon => exact h.session ((hw.session hc hs).symm.trans ht)

/-- Work on a client that is set up first. -/
def onClient {α : Type} (service : Service) (failed : Error → α) (work : Provider → Work α) :
    Work α := do
  match ← service.attach with
  | .error e => pure (failed e)
  | .ok p => work p

/-- **Work on a client comes in by setting up the client**, wherever it stops. -/
theorem entered_of_stops {α : Type} {failed : Error → α} {work : Provider → Work α}
    {x : Stop surroundings α} (hw : ∀ p : Provider, p.Runs (work p)) (ha : a.inSession = false)
    (h : (service.onClient failed work a).Stops l t x) :
    ∃ p?, Entered service a p? (l.map Event.entry ++ x.pending) t := by
  have houtside : ∀ {l' : List surroundings.Event} {y : Stop surroundings (Except Error Provider)},
      Attaching service a l' t y → (∀ p, y ≠ .value (.ok p)) →
      Entered service a none (l'.map Event.entry ++ y.pending) t := by
    intro l' y hy hne
    have ht := hy.eq_of_not_ok hne
    refine ⟨⟨_, [], (List.append_nil _).symm, hy.entrance hne, by simp⟩, fun _ => ht, nofun, ?_⟩
    intro hs
    rw [ht, ha] at hs
    cases hs
  rcases Program.stops_bind_iff.mp h with ⟨q, rfl, hq⟩ | ⟨l₁, l₂, v, r, rfl, h₁, h₂⟩
  · exact ⟨none, houtside (attaching_of_stops hq) (by simp)⟩
  cases r with
  | error e =>
    obtain ⟨rfl, rfl, rfl⟩ := Program.stops_pure_iff.mp h₂
    rw [List.append_nil]
    exact ⟨none, houtside (attaching_of_stops h₁) (by simp)⟩
  | ok p =>
    obtain ⟨hin, rfl⟩ := (attaching_of_stops h₁).bound
    have hbound : Entered service a (some p) (l₁.map Event.entry) { a with provider := some p } :=
      ⟨⟨_, [], (List.append_nil _).symm, hin, by simp⟩, nofun, fun _ hp => hp,
        fun hs => by cases ha.symm.trans hs⟩
    rw [List.map_append, List.append_assoc]
    exact ⟨some p, hbound.runs (hw p) h₂⟩

/-- Letting go of a session is the client's work too. -/
theorem Entered.released (h : Entered service a p? log u) (ha : a.inSession = false)
    (hr : (Azure.release u).Stops l t (.value ())) :
    Entered service a p? (log ++ l.map Event.entry) t := by
  obtain ⟨hl, -, ht⟩ := Azure.stops_release hr
  have hwithin : ∀ e ∈ l.map Event.entry, Question.Within p? e.1 := by
    intro e he
    obtain ⟨e', he', rfl⟩ := List.mem_map.mp he
    cases hs : u.inSession with
    | false =>
      rw [Azure.stops_release_of_closed hs hr] at he'
      cases he'
    | true =>
      obtain ⟨p, rfl, hp⟩ := h.session hs
      refine .of_makes ?_
      rw [show (Event.entry e').1 = e'.1 from rfl, hl e' he']
      cases p with
      | amazon keyId secret => cases hp
      | azure login template => exact .closeSession
  obtain ⟨hparts, hunbound, hbound, -⟩ := h.append hwithin
  refine ⟨hparts, fun hn => ?_, fun p hp => ?_, fun hs => ?_⟩
  · rw [ht () rfl, hunbound hn]
    cases a
    cases ha
    rfl
  · rw [ht () rfl]
    exact hbound p hp
  · rw [ht () rfl] at hs
    cases hs

/-- **Under the deadline nothing else is added**: what is cut short lets go of its session. -/
theorem entered_of_ended {α : Type} {failed : Error → α} {client : Provider → Work α} {work : Work α}
    {r : Except Error α} (hw : ∀ p : Provider, p.Runs (client p)) (ha : a.inSession = false)
    (hwork : work a = service.onClient failed client a) (h : Ended service work a log t r) :
    ∃ p?, Entered service a p? log t := by
  cases h with
  | @done l _ _ h =>
    rw [hwork] at h
    obtain ⟨p?, hin⟩ := entered_of_stops hw ha h
    exact ⟨p?, by rwa [Stop.pending, List.append_nil] at hin⟩
  | @cut l₁ l₂ u _ q h hr =>
    rw [hwork] at h
    obtain ⟨p?, hin⟩ := entered_of_stops hw ha h
    have hreleased := hin.released ha hr
    rw [List.append_assoc] at hreleased
    exact ⟨p?, hreleased⟩

/-! ## Requests -/

theorem onClient_eq {work : Provider → Work (Except Error Unit)} :
    service.onClient .error work = Program.andThen service.attach work := by
  refine congrArg (service.attach >>= ·) (funext fun r => ?_)
  cases r <;> rfl

theorem provision_eq_onClient :
    service.provision = service.onClient .error Provider.provision := onClient_eq.symm

theorem provisionAndAnnounce_eq_onClient :
    service.provisionAndAnnounce = service.onClient .error fun p =>
      Program.andThen p.provision fun _ => service.settleAndAnnounce := by
  rw [provisionAndAnnounce_eq, onClient_eq]
  exact Program.andThen_assoc _ _ _

theorem takeDown_eq_onClient (ha : a.provider = none) :
    service.takeDown a = service.onClient (fun e => [e]) Provider.takeDown a := by
  obtain ⟨guid, request, record, provider, product, inSession⟩ := a
  cases ha
  show (service.attach _).bind _ = (service.attach _).bind _
  refine congrArg (Run.bind _) (funext fun r => ?_)
  cases r <;> rfl

/-- A create request comes in once; its clean-up is the client's work. -/
theorem entered_of_createEnds {request : Request.Create} {r : Except Error Unit}
    (h : CreateEnds service request log t r) :
    ∃ p? t, Entered service (Application.new request "") p? log t := by
  have hwork : ∀ {log u r}, Ended service service.provisionAndAnnounce (Application.new request "")
      log u r → ∃ p?, Entered service (Application.new request "") p? log u := by
    intro log u r h
    exact entered_of_ended
      (fun p : Provider => p.runs_provision.andThen fun _ => runs_settleAndAnnounce) rfl
      (congrFun provisionAndAnnounce_eq_onClient _) h
  have hmarking : ∀ {p? : Option Provider} {failure extra l}, Marking request failure extra l →
      ∀ e ∈ l.map Event.entry, Question.Within p? e.1 := by
    intro p? failure extra l hm e he
    cases hm <;> simp [Event.entry] at he
    · rw [he]
      exact .of_not_isCloud rfl rfl rfl
    · rcases he with rfl | rfl <;> exact .of_not_isCloud rfl rfl rfl
  cases h with
  | done h =>
    obtain ⟨p?, hin⟩ := hwork h
    exact ⟨p?, t, hin⟩
  | @failed work l u _ _ _ h _ hc =>
    obtain ⟨p?, hin⟩ := hwork h
    rcases stops_cleanUp hc with ⟨-, rfl, hm⟩ | ⟨errors, l₁, l₂, he, rfl, hdown, hm⟩
    · exact ⟨p?, _, hin.append (hmarking hm)⟩
    -- something is recorded, so that there is a client
    cases p? with
    | none =>
      rw [hin.unbound rfl] at he
      cases he
    | some p =>
      have hown := stops_takeDown_of_provider (hin.bound p rfl) hdown
      have htaken := hin.runs p.runs_takeDown hown
      rw [Stop.pending, List.append_nil] at htaken
      rw [List.map_append, ← List.append_assoc]
      exact ⟨some p, t, htaken.append (hmarking hm)⟩

/-- A destroy request comes in once. -/
theorem entered_of_destroyRun {request : Request.Destroy} {l : List surroundings.timed.Event}
    {r : Except Error Unit} (h : (service.destroyRun request).Stops l t (.value r)) :
    ∃ p? t, Entered service (Application.ofDestroy request) p? (entries l) t := by
  obtain ⟨outcome, hend, -⟩ := destroyEnds_of_stops h
  obtain ⟨p?, hin⟩ :=
    entered_of_ended (fun p => p.runs_takeDown) rfl (takeDown_eq_onClient rfl) hend
  exact ⟨p?, t, hin⟩

/-- To prepare an application is to come in once. -/
theorem entered_of_prepareRun {request : Request.Create} {l : List surroundings.timed.Event}
    {r : Except Shortfall Application} (h : (service.prepareRun request).Stops l t (.value r)) :
    ∃ p? t, Entered service (Application.new request "") p? (entries l) t := by
  obtain ⟨l', rfl, hprepare⟩ := Run.stops_untimed h
  obtain ⟨l₁, l₂, u, result, rfl, h₁, h₂⟩ := Program.stops_bind_value_iff.mp hprepare
  have hrest : l₂ = [] := by
    rw [Program.stops_get_bind_iff] at h₂
    cases result <;> exact (Program.stops_pure_value_iff.mp h₂).1
  rw [provision_eq_onClient] at h₁
  obtain ⟨p?, hin⟩ := entered_of_stops (fun p : Provider => p.runs_provision) rfl h₁
  refine ⟨p?, u, ?_⟩
  rwa [hrest, List.append_nil, entries_untimed, ← List.append_nil (List.map _ _)]

/-! ## What is admitted -/

/-- A log in which a cloud is reached with the login that was fetched for a name, and with no
other. -/
structure Admitted (service : Service) (name superKey : String) (caller : Caller)
    (log : List surroundings.Entry) : Prop where
  /-- A login is fetched for a name in the catalog: the one asked for, and once at most. -/
  fetch : ∀ before e after, log = before ++ e :: after → Question.fetches e.1 = true →
    (∃ cloud, service.catalog.find? name = some cloud) ∧
      e.1 = .inventory caller (.credential superKey) ∧
      ∀ e' ∈ before ++ after, Question.fetches e'.1 = false
  /-- A client is set up for the complete login that was fetched before, and once at most. -/
  build : ∀ before e after, log = before ++ e :: after → Question.builds e.1 = true →
    ∃ cloud c, e.1 = .build cloud c ∧ service.catalog.find? name = some cloud ∧
      c.username ≠ "" ∧ c.secret ≠ "" ∧
      ⟨.inventory caller (.credential superKey), some (.ok c)⟩ ∈ before ∧
      ∀ e' ∈ before ++ after, Question.builds e'.1 = false
  /-- A call to a cloud is that of the client that was set up before. -/
  call : ∀ before e after, log = before ++ e :: after → Question.isCloud e.1 = true →
    ∃ cloud c p, ⟨.build cloud c, some ()⟩ ∈ before ∧
      Provider.ofCredential cloud service.template c = .ok p ∧ p.Makes e.1

/-- Where an entry stands on the way in: with it the login is fetched, or a client is set up for the
login that was fetched just before. -/
inductive Entering (service : Service) (a : Application) :
    List surroundings.Entry → surroundings.Entry → List surroundings.Entry → Prop where
  | fetching {cloud : Cloud} (h : service.catalog.find? a.request.provider = some cloud)
      (r : Option (Except InventoryError Credential)) {rest : List surroundings.Entry}
      (hrest : ∀ e ∈ rest, Question.fetches e.1 = false) :
      Entering service a [] ⟨Service.fetching a, r⟩ rest
  | building {cloud : Cloud} (h : service.catalog.find? a.request.provider = some cloud)
      {c : Credential} (hc : c.isComplete = true) (r : Option Unit) :
      Entering service a [⟨Service.fetching a, some (.ok c)⟩] ⟨.build cloud c, r⟩ []

/-- What a run logs on its way in is a fetched login, and a client that is set up for it. -/
theorem Entrance.split (h : Entrance service a log p?) {before rest : List surroundings.Entry}
    {e : surroundings.Entry} (hlog : log = before ++ e :: rest) :
    Entering service a before e rest := by
  have hpair : ∀ {cloud c} {r : Option Unit}, service.catalog.find? a.request.provider = some cloud →
      c.isComplete = true →
      [(⟨Service.fetching a, some (.ok c)⟩ : surroundings.Entry), ⟨.build cloud c, r⟩] =
        before ++ e :: rest → Entering service a before e rest := by
    intro cloud c r hcloud hc hl
    rcases before with _ | ⟨_, _ | ⟨_, before⟩⟩
    · cases hl
      exact .fetching hcloud _ (by simp [Question.fetches])
    · cases hl
      exact .building hcloud hc _
    · cases before <;> cases hl
  cases h with
  | unsupported => cases before <;> cases hlog
  | @fetching cloud hcloud r =>
    rcases before with _ | ⟨_, before⟩
    · cases hlog
      exact .fetching hcloud _ (by simp)
    · cases before <;> cases hlog
  | building hcloud hc r => exact hpair hcloud hc hlog
  | bound hcloud hc hp => exact hpair hcloud hc hlog

/-- **A run that has come in is admitted.** -/
theorem Entered.admitted (h : Entered service a p? log t) :
    Admitted service a.request.provider a.request.superKey a.request.caller log := by
  obtain ⟨l₁, l₂, rfl, hin, hwithin⟩ := h.parts
  -- an entry is logged on the way in, or is the client's
  have hsplit : ∀ {before e after}, l₁ ++ l₂ = before ++ e :: after →
      (∃ rest, l₁ = before ++ e :: rest ∧ after = rest ++ l₂) ∨
        (∃ rest, before = l₁ ++ rest) ∧ Question.Within p? e.1 := by
    intro before e after hl
    rcases List.append_eq_append_iff.mp hl with ⟨rest, rfl, hrest⟩ | ⟨rest, rfl, hrest⟩
    · exact .inr ⟨⟨rest, rfl⟩, hwithin e (hrest ▸ by simp)⟩
    · cases rest with
      | nil => exact .inr ⟨⟨[], by simp⟩, hwithin e (by rw [← List.nil_append l₂, ← hrest]; simp)⟩
      | cons e' rest =>
        obtain ⟨rfl, rfl⟩ := List.cons.inj hrest
        exact .inl ⟨rest, rfl, rfl⟩
  refine ⟨fun before e after hl he => ?_, fun before e after hl he => ?_,
    fun before e after hl he => ?_⟩
  · rcases hsplit hl with ⟨rest, hl₁, rfl⟩ | ⟨-, hw⟩
    · cases hin.split hl₁ with
      | fetching hcloud r hrest =>
        refine ⟨⟨_, hcloud⟩, rfl, List.forall_mem_append.mpr ⟨by simp, ?_⟩⟩
        exact List.forall_mem_append.mpr ⟨hrest, fun e' he' => (hwithin e' he').fetches⟩
      | building hcloud hc r => cases he
    · rw [hw.fetches] at he
      cases he
  · rcases hsplit hl with ⟨rest, hl₁, rfl⟩ | ⟨-, hw⟩
    · cases hin.split hl₁ with
      | fetching hcloud r hrest => cases he
      | building hcloud hc r =>
        simp only [Credential.isComplete, Bool.and_eq_true, decide_eq_true_eq] at hc
        refine ⟨_, _, rfl, hcloud, hc.1, hc.2, List.mem_singleton.mpr rfl, ?_⟩
        refine List.forall_mem_append.mpr ⟨?_, fun e' he' => (hwithin e' he').builds⟩
        simp [Service.fetching, Question.builds]
    · rw [hw.builds] at he
      cases he
  · rcases hsplit hl with ⟨rest, hl₁, rfl⟩ | ⟨⟨rest, rfl⟩, hw⟩
    · cases hin.split hl₁ <;> cases he
    · obtain ⟨p, rfl, hmakes⟩ := hw.calls he
      cases hin with
      | @bound cloud _ c _ _ hp => exact ⟨cloud, c, p, by simp, hp, hmakes⟩

section Consequences

variable {name superKey : String} {caller : Caller}

/-- Without a client there is no call. -/
theorem Admitted.no_calls (h : Admitted service name superKey caller log)
    (hb : ∀ e ∈ log, Question.builds e.1 = false) : ∀ e ∈ log, Question.isCloud e.1 = false := by
  intro e he
  refine Bool.eq_false_iff.mpr fun hcloud => ?_
  obtain ⟨before, after, rfl⟩ := List.append_of_mem he
  obtain ⟨cloud, c, -, hbuild, -⟩ := h.call _ _ _ rfl hcloud
  cases hb _ (List.mem_append_left _ hbuild)

/-- For a name that is not in the catalog nothing is done. -/
theorem Admitted.unregistered (h : Admitted service name superKey caller log)
    (hn : service.catalog.find? name = none) : ∀ e ∈ log,
      Question.fetches e.1 = false ∧ Question.builds e.1 = false ∧ Question.isCloud e.1 = false := by
  have hbuilds : ∀ e ∈ log, Question.builds e.1 = false := by
    intro e he
    refine Bool.eq_false_iff.mpr fun hb => ?_
    obtain ⟨before, after, rfl⟩ := List.append_of_mem he
    obtain ⟨cloud, c, -, hcloud, -⟩ := h.build _ _ _ rfl hb
    cases hn.symm.trans hcloud
  refine fun e he => ⟨Bool.eq_false_iff.mpr fun hf => ?_, hbuilds e he, h.no_calls hbuilds e he⟩
  obtain ⟨before, after, rfl⟩ := List.append_of_mem he
  obtain ⟨⟨cloud, hcloud⟩, -⟩ := h.fetch _ _ _ rfl hf
  cases hn.symm.trans hcloud

/-- Without a complete login nothing reaches a cloud. -/
theorem Admitted.incomplete (h : Admitted service name superKey caller log)
    (hc : ∀ c, ⟨.inventory caller (.credential superKey), some (.ok c)⟩ ∈ log →
      c.username = "" ∨ c.secret = "") : ∀ e ∈ log,
      Question.builds e.1 = false ∧ Question.isCloud e.1 = false := by
  have hbuilds : ∀ e ∈ log, Question.builds e.1 = false := by
    intro e he
    refine Bool.eq_false_iff.mpr fun hb => ?_
    obtain ⟨before, after, rfl⟩ := List.append_of_mem he
    obtain ⟨cloud, c, -, -, huser, hsecret, hfetched, -⟩ := h.build _ _ _ rfl hb
    exact (hc c (List.mem_append_left _ hfetched)).elim huser hsecret
  exact fun e he => ⟨hbuilds e he, h.no_calls hbuilds e he⟩

/-- A call to an Amazon account is made with the login for which the client was set up. -/
theorem Admitted.login {call : Amazon.Call} {r : Option (Except Cause call.Result)}
    {before after : List surroundings.Entry}
    (h : Admitted service name superKey caller (before ++ ⟨.amazon call, r⟩ :: after))
    (login : String × String) : ∃ c, ⟨.build .amazon c, some ()⟩ ∈ before ∧
      Gateway.loginOf login before = (c.username, c.secret) := by
  obtain ⟨cloud, c, p, hbuild, hp, hmakes⟩ := h.call _ _ _ rfl rfl
  have hcloud : cloud = .amazon := by
    rw [← Provider.cloud_of_ofCredential hp]
    cases hmakes
    rfl
  subst hcloud
  refine ⟨c, hbuild, ?_⟩
  obtain ⟨b₁, b₂, rfl⟩ := List.append_of_mem hbuild
  obtain ⟨_, _, -, -, -, -, -, honly⟩ := h.build b₁ _ _ (List.append_assoc ..) rfl
  exact Gateway.loginOf_build fun e he => honly e (by simp [he])

end Consequences

/-- A task that is admitted, however it is answered up to its end. -/
structure Admits {α : Type} (service : Service) (gateway : Gateway) (name superKey : String)
    (caller : Caller) (task : Run surroundings.timed Application α) : Prop where
  admitted : ∀ l t r, task.Stops l t (.value r) →
    Admitted service name superKey caller (entries l)
  /-- For a name that is not in the catalog no login is fetched, no client set up and no cloud
  called. -/
  unregistered : service.catalog.find? name = none → ∀ l t r, task.Stops l t (.value r) →
    ∀ e ∈ entries l,
      Question.fetches e.1 = false ∧ Question.builds e.1 = false ∧ Question.isCloud e.1 = false
  /-- Without a complete login no client is set up and no cloud called. -/
  incomplete : ∀ l t r, task.Stops l t (.value r) →
    (∀ c, ⟨.inventory caller (.credential superKey), some (.ok c)⟩ ∈ entries l →
      c.username = "" ∨ c.secret = "") →
    ∀ e ∈ entries l, Question.builds e.1 = false ∧ Question.isCloud e.1 = false
  /-- What a gateway asks of an Amazon account for the task, it asks with the login for which the
  client was set up. -/
  login : ∀ k u r, (gateway.carryOut task).Stops k u (.value r) →
    ∃ l, task.Stops l r.2 (.value r.1) ∧ ∀ e ∈ entries k, ∀ keyId secret region op,
      e.1 = .service keyId secret region op →
        ∃ c, ⟨.build .amazon c, some ()⟩ ∈ entries l ∧ keyId = c.username ∧ secret = c.secret

theorem admits_of_entered {α : Type} {gateway : Gateway} {task : Run surroundings.timed Application α}
    (h : ∀ l t r, task.Stops l t (.value r) → ∃ p? u, Entered service a p? (entries l) u) :
    Admits service gateway a.request.provider a.request.superKey a.request.caller task := by
  have hadmitted : ∀ l t r, task.Stops l t (.value r) →
      Admitted service a.request.provider a.request.superKey a.request.caller (entries l) := by
    intro l t r hs
    obtain ⟨p?, u, hin⟩ := h l t r hs
    exact hin.admitted
  refine ⟨hadmitted, fun hn l t r hs => (hadmitted l t r hs).unregistered hn,
    fun l t r hs hc => (hadmitted l t r hs).incomplete hc, fun k u r hs => ?_⟩
  obtain ⟨l, hl, hcarried⟩ := Run.carried_of_stops hs
  refine ⟨l, hl, fun e he keyId secret region op hd => ?_⟩
  obtain ⟨before, call, reply, after, hsplit, hlogin⟩ := Gateway.login_of_mem hcarried he hd
  have hin := hadmitted l _ _ hl
  rw [hsplit] at hin ⊢
  obtain ⟨c, hc, heq⟩ := hin.login Gateway.Links.none.login
  obtain ⟨rfl, rfl⟩ := Prod.mk.inj (hlogin.trans heq)
  exact ⟨c, List.mem_append_left _ hc, rfl, rfl⟩

/-- **No cloud is called without the tenant's own complete login**: not by a create request with its
clean-up, not by a destroy request, and not when an application is prepared. -/
theorem admits_requests (service : Service) (gateway : Gateway) :
    (∀ request : Request.Create, Admits service gateway request.provider request.superKey
        request.caller (service.createRun request)) ∧
      (∀ request : Request.Destroy, Admits service gateway request.provider request.superKey
        ⟨request.identity, request.orgId, ""⟩ (service.destroyRun request)) ∧
      ∀ request : Request.Create, Admits service gateway request.provider request.superKey
        request.caller (service.prepareRun request) := by
  refine ⟨fun request => ?_, fun request => ?_, fun request => ?_⟩
  · exact admits_of_entered (a := Application.new request "") fun l t r h =>
      entered_of_createEnds (createEnds_of_stops h)
  · exact admits_of_entered (a := Application.ofDestroy request) fun l t r h =>
      entered_of_destroyRun h
  · exact admits_of_entered (a := Application.new request "") fun l t r h =>
      entered_of_prepareRun h

end Service

end CloudGrant
