import Mathlib.Logic.Basic
import CloudGrant.Proofs.Amazon.Ledger
import CloudGrant.Proofs.Kept
import CloudGrant.Proofs.Service.Unwinding

/-!
# What a create request comes to

A create request is either delivered or abandoned (`createRun_outcome`), for every provider, every
deadline and everything that it can be answered.

* `Delivered`: all its questions succeeded, and they are the ones by which an application is made
  and announced, in their order; nothing was taken away.
* `Abandoned`: the failure that is returned is the first one of the work, or its deadline. What was
  recorded by then was taken down to the end, and only then the application was reported as
  unavailable, with that same failure at the end of the reason. What went wrong with the clean-up is
  not returned.

What the inventory is handed in either case is said by `Describes`: the guid that was drawn, the
provider, and what is recorded of the steps.
-/

namespace CloudGrant

open Interface Simulation

/-! ## Both providers -/

namespace Provider

variable {p : Provider} {a t : Application} {l : List surroundings.Event}

/-- What a provider has recorded can be found again by it. -/
def Finds : Provider → Record → Prop
  | .amazon .., record => Amazon.Sound record
  | .azure .., record => ∃ name, record.output? Azure.stepName "name" = some name

/-- Why a provider refuses to make resources. -/
inductive Refuses (p : Provider) (request : Request.Create) : Error → Prop where
  | step {step : Step} {a : Application} {e : Error} (hs : step ∈ request.steps)
      (ha : a.request = request) (h : Amazon.Refuses step a e) : Refuses p request e
  | template {login : Azure.Login} (hp : p = .azure login none) :
      Refuses p request (.configuration
        "Azure deployment template is not prepared, resource creation impossible")

/-- Under a guid that was drawn, resources are made and none is taken away. -/
theorem forges_of_stops {x : Stop surroundings (Except Error Unit)}
    (h : (p.provision a).Stops l t x) :
    (l = [] ∧ x = .question .guid) ∨
      ∃ guid l', l = ⟨.guid, guid⟩ :: l' ∧ (∀ e ∈ l', Question.IsForging e.1) ∧
        ∀ q, x = .question q → Question.IsForging q := by
  rcases Service.stops_provider_provision h with ⟨rfl, -, rfl⟩ | ⟨guid, l', rfl, h'⟩
  · exact .inl ⟨rfl, rfl⟩
  refine .inr ⟨guid, l', rfl, ?_⟩
  cases p with
  | amazon keyId secret =>
    have hforge := Amazon.asks_provision.mono fun q hq => hq.isForging
    exact hforge h'
  | azure login template => exact Azure.asks_provision h'

/-- What was recorded before the run stopped can be found again. -/
theorem finds_of_stops {x : Stop surroundings (Except Error Unit)}
    (h : (p.provision a).Stops l t x) (ha : a.record = Record.empty) :
    t.request = a.request ∧ t.provider = a.provider ∧
      (t.record.isEmpty = true ∨ p.Finds t.record) := by
  rcases Service.stops_provider_provision h with ⟨-, rfl, -⟩ | ⟨guid, l', rfl, h'⟩
  · exact ⟨rfl, rfl, .inl (ha ▸ rfl)⟩
  cases p with
  | amazon keyId secret =>
    have hframe := Amazon.frame_provision h'
    have hsound : Amazon.Sound t.record :=
      Amazon.sound_provision h' (show Amazon.Sound a.record from ha ▸ Amazon.sound_empty)
    refine ⟨?_, ?_, .inr hsound⟩
    · rw [hframe]
    · rw [hframe]
  | azure login template =>
    have hkeep := Azure.keeps_provision h'
    refine ⟨congrArg (·.2.1) hkeep, congrArg (·.2.2) hkeep, ?_⟩
    rcases Azure.noted_of_stops h' with rfl | hnoted
    · exact .inl (ha ▸ rfl)
    · exact .inr hnoted

theorem accounts_provision {r : Except Error Unit} (h : (p.provision a).Stops l t (.value r)) :
    Accounts id (p.Refuses a.request) (l.map Event.entry) r := by
  rcases Service.stops_provider_provision h with ⟨-, -, hx⟩ | ⟨guid, l', rfl, h'⟩
  · cases hx
  have hguid : Clean [⟨.guid, some guid⟩] := clean_singleton rfl
  refine Accounts.append_left hguid ?_
  cases p with
  | amazon keyId secret =>
    refine (Amazon.accounts_provision h').mono ?_
    rintro e ⟨step, hs, b, hb, hr⟩
    exact .step hs hb hr
  | azure login template =>
    refine (Azure.accountable_provision h').mono ?_
    rintro e ⟨rfl, rfl⟩
    exact .template rfl

/-- The guid that is drawn is the one that the resources are made under. -/
theorem guid_of_stops {x : Stop surroundings (Except Error Unit)}
    (h : (p.provision a).Stops l t x) {guid : String} (hg : ⟨.guid, guid⟩ ∈ l) : t.guid = guid := by
  rcases Service.stops_provider_provision h with ⟨rfl, -, -⟩ | ⟨drawn, l', rfl, h'⟩
  · cases hg
  have hforging : ∀ e ∈ l', Question.IsForging e.1 := by
    rcases forges_of_stops h with ⟨hnil, -⟩ | ⟨_, _, hl, hforging, -⟩
    · cases hnil
    · cases hl
      exact hforging
  have hdrawn : guid = drawn := by
    rcases List.mem_cons.mp hg with hhead | hmem
    · cases hhead
      rfl
    · cases (hforging _ hmem).1
  rw [hdrawn]
  cases p with
  | amazon keyId secret => rw [Amazon.frame_provision h']
  | azure login template => exact congrArg (·.1) (Azure.keeps_provision h')

/-- Resources that were all made finish the product. -/
theorem finished_of_ok (h : (p.provision a).Stops l t (.value (.ok ()))) :
    ∃ username, t.product = some (t.productFor username) := by
  rcases Service.stops_provider_provision h with ⟨-, -, hx⟩ | ⟨guid, l', rfl, h'⟩
  · cases hx
  cases p with
  | amazon keyId secret => exact Amazon.finished_of_ok h'
  | azure login template => exact Azure.finished_of_ok h'

theorem asks_takeDown : p.takeDown.Asks fun q => Question.isCloud q = true := by
  cases p with
  | amazon keyId secret => exact Amazon.asks_takeDown
  | azure login template => exact Azure.asks_takeDown

/-- Taking down touches nothing of the application but its session. -/
theorem apart_of_takeDown {errors : List Error} (h : (p.takeDown a).Stops l t (.value errors)) :
    Azure.apart t = Azure.apart a := by
  cases p with
  | amazon keyId secret => rw [(Amazon.undone_of_takeDown h).1]
  | azure login template => exact Azure.keeps_takeDown h

/-- What was recorded is asked for when it is taken down. -/
theorem takeDown_ne_nil {errors : List Error} (hf : p.Finds a.record)
    (he : a.record.isEmpty = false) (h : (p.takeDown a).Stops l t (.value errors)) : l ≠ [] := by
  cases p with
  | amazon keyId secret => exact Amazon.takeDown_ne_nil hf he h
  | azure login template =>
    obtain ⟨name, hn⟩ := hf
    exact Azure.takeDown_ne_nil hn h

end Provider

namespace Service

variable {service : Service} {request : Request.Create} {a t u : Application}
  {l : List surroundings.Event}

/-! ## The work of a create request -/

/-- Why a create request fails although no question of it did. -/
inductive Refusal (service : Service) (request : Request.Create) : Error → Prop where
  | unsupported {e : Error} (h : service.catalog.cloud request.provider = .error e) :
      Refusal service request e
  | incomplete {c : Credential} (h : c.isComplete = false) :
      Refusal service request (.missingCredential c.id request.superKey)
  | unbound {cloud : Cloud} {c : Credential} {e : Error}
      (h : service.catalog.cloud request.provider = .ok cloud)
      (hc : Provider.ofCredential cloud service.template c = .error e) : Refusal service request e
  | refused {cloud : Cloud} {c : Credential} {p : Provider} {e : Error}
      (h : service.catalog.cloud request.provider = .ok cloud)
      (hc : Provider.ofCredential cloud service.template c = .ok p) (hp : p.Refuses request e) :
      Refusal service request e

theorem Attaching.accounts {r : Except Error Provider} (h : Attaching service a l t (.value r)) :
    Accounts id (Refusal service a.request) (l.map Event.entry) r := by
  have hok : ∀ c, Clean [Event.entry ⟨Service.fetching a, .ok c⟩] := fun c => clean_singleton rfl
  have hbuilt : ∀ cloud c, Clean [Event.entry ⟨.build cloud c, ()⟩] :=
    fun cloud c => clean_singleton rfl
  cases h with
  | unsupported h => exact .refused clean_nil (.unsupported h)
  | unfetched h e => exact .failed clean_nil (.inventory _ _ e)
  | incomplete h hc => exact .refused (hok _) (.incomplete hc)
  | unbound h hc hp => exact .refused (clean_append.mpr ⟨hok _, hbuilt _ _⟩) (.unbound h hp)
  | attached h hc hp => exact clean_append.mpr ⟨hok _, hbuilt _ _⟩

theorem accountable_announceProduct {product : Product} :
    Accountable Error.inventory (fun _ => False) (Inventory.announceProduct request product) := by
  refine accountable_andThen (accountable_inventory _ _) fun _ => ?_
  refine accountable_andThen (accountable_inventory _ _) fun _ => ?_
  exact accountable_andThen (accountable_inventory _ _) fun _ => accountable_inventory _ _

/-- An announcement returns the first failure of its calls. -/
theorem accounts_settleAndAnnounce {product : Product} (hp : a.product = some product)
    {r : Except Error Unit} (h : (service.settleAndAnnounce a).Stops l t (.value r)) :
    Accounts id (Refusal service request) (l.map Event.entry) r := by
  obtain ⟨l', announced, rfl, hannounce, rfl⟩ := stops_settleAndAnnounce_value h
  have hsettling : Clean (service.settling.map Event.entry) := by
    unfold settling
    split
    · exact clean_singleton rfl
    · exact clean_nil
  rw [List.map_append]
  refine Accounts.append_left hsettling ?_
  unfold Inventory.announce at hannounce
  rw [Program.stops_get_bind_iff] at hannounce
  simp only [hp] at hannounce
  have hproduct := accountable_announceProduct hannounce
  cases announced with
  | error e => exact hproduct.mono fun _ h => h.elim
  | ok _ => exact hproduct

theorem clean_attachment {cloud : Cloud} {c : Credential} :
    Clean ((attachment request cloud c).map Event.entry) := by
  have hfetched : Clean [Event.entry ⟨fetching (Application.new request ""), .ok c⟩] :=
    clean_singleton rfl
  have hbuilt : Clean [Event.entry ⟨.build cloud c, ()⟩] := clean_singleton rfl
  exact clean_append.mpr ⟨hfetched, hbuilt⟩

/-- The work of a request returns the first failure, or a refusal. -/
theorem Working.accounts {r : Except Error Unit} (h : Working service request l t (.value r)) :
    Accounts id (Refusal service request) (l.map Event.entry) r := by
  cases h with
  | unattached h => exact h.accounts
  | provisioning hcloud hp h hx =>
    rw [List.map_append]
    refine Accounts.append_left clean_attachment ((Provider.accounts_provision h).mono ?_)
    exact fun e he => .refused hcloud hp he
  | announcing hcloud hp h ha =>
    obtain ⟨username, hproduct⟩ := Provider.finished_of_ok h
    rw [List.map_append, List.map_append]
    refine Accounts.append_left ?_ (accounts_settleAndAnnounce hproduct ha)
    exact clean_append.mpr ⟨clean_attachment, Provider.accounts_provision h⟩

theorem IsQuiet.isConstructive {q : Question} (h : IsQuiet q) : Question.IsConstructive q := by
  obtain ⟨hcloud, hmarks⟩ := h
  refine ⟨?_, hmarks⟩
  cases q <;> first | rfl | cases hcloud

/-- The work of a request takes nothing away and marks nothing. -/
theorem Working.constructive {x : Stop surroundings (Except Error Unit)}
    (h : Working service request l t x) :
    (∀ e ∈ l, Question.IsConstructive e.1) ∧
      ∀ q, x = .question q → Question.IsConstructive q := by
  have hattach : ∀ cloud c, ∀ e ∈ attachment request cloud c, Question.IsConstructive e.1 :=
    fun cloud c e he => (quiet_attachment e he).isConstructive
  have hmake : ∀ {p : Provider} {l t y}, (p.provision (attached request p)).Stops l t y →
      (∀ e ∈ l, Question.IsConstructive e.1) ∧
        ∀ q, y = .question q → Question.IsConstructive q := by
    intro p l t y h
    rcases Provider.forges_of_stops h with ⟨rfl, rfl⟩ | ⟨guid, l', rfl, hl, hy⟩
    · refine ⟨by simp, fun q hq => ?_⟩
      cases hq
      exact ⟨rfl, rfl⟩
    · refine ⟨?_, fun q hq => (hy q hq).isConstructive⟩
      exact List.forall_mem_cons.mpr ⟨⟨rfl, rfl⟩, fun e he => (hl e he).isConstructive⟩
  cases h with
  | @fetching _ _ q h =>
    refine ⟨fun e he => (h.quiet.1 e he).isConstructive, fun q' hq' => ?_⟩
    cases hq'
    exact (h.quiet.2 q rfl).isConstructive
  | unattached h => exact ⟨fun e he => (h.quiet.1 e he).isConstructive, by simp⟩
  | provisioning hcloud hp h hx =>
    obtain ⟨hl, hy⟩ := hmake h
    exact ⟨List.forall_mem_append.mpr ⟨hattach _ _, hl⟩, hy⟩
  | announcing hcloud hp h ha =>
    obtain ⟨hquiet, hx⟩ := asks_settleAndAnnounce ha
    refine ⟨?_, fun q hq => (hx q hq).isConstructive⟩
    refine List.forall_mem_append.mpr ⟨List.forall_mem_append.mpr ⟨hattach _ _, (hmake h).1⟩, ?_⟩
    exact fun e he => (hquiet e he).isConstructive

/-- What is known of an application that is to be cleaned up: it is one of the request, and what is
recorded of it can be found again. -/
structure Found (request : Request.Create) (a : Application) : Prop where
  request : a.request = request
  finds : a.record.isEmpty = true ∨ ∃ p, a.provider = some p ∧ p.Finds a.record

/-- Wherever the work stops, its provider can find again what was recorded. -/
theorem Working.found {x : Stop surroundings (Except Error Unit)}
    (h : Working service request l t x) : Found request t := by
  have hmake : ∀ {p : Provider} {l t y}, (p.provision (attached request p)).Stops l t y →
      Found request t := by
    intro p l t y h
    obtain ⟨hrequest, hprovider, hfinds⟩ := Provider.finds_of_stops h rfl
    exact ⟨hrequest, hfinds.imp id fun hf => ⟨p, hprovider, hf⟩⟩
  cases h with
  | fetching h | unattached h =>
    rw [h.eq_of_not_ok (by simp)]
    exact ⟨rfl, .inl rfl⟩
  | provisioning hcloud hp h hx => exact hmake h
  | announcing hcloud hp h ha =>
    have ht : t = _ := keeps_settleAndAnnounce ha
    rw [ht]
    exact hmake h

/-- Wherever the work stops, the guid of the application is the one that was drawn. -/
theorem Working.guid {x : Stop surroundings (Except Error Unit)}
    (h : Working service request l t x) {guid : String} (hg : ⟨.guid, guid⟩ ∈ l) :
    t.guid = guid := by
  have hattachment : ∀ cloud c, ⟨.guid, guid⟩ ∉ attachment request cloud c := by
    intro cloud c hg
    rcases List.mem_cons.mp hg with hg | hg
    · cases hg
    · cases List.mem_singleton.mp hg
  cases h with
  | fetching h | unattached h => exact absurd rfl (h.drawsNothing _ hg)
  | provisioning hcloud hp h hx =>
    exact Provider.guid_of_stops h ((List.mem_append.mp hg).resolve_left (hattachment _ _))
  | announcing hcloud hp h ha =>
    have ht : t = _ := keeps_settleAndAnnounce ha
    rw [ht]
    rcases List.mem_append.mp hg with hg | hg
    · exact Provider.guid_of_stops h ((List.mem_append.mp hg).resolve_left (hattachment _ _))
    · cases (asks_announcing ha).1 _ hg

/-! ## Delivered -/

/-- What a create request has asked, and was answered, when it was delivered: a client for the
tenant's credential and a guid, the resources, a pause, and the four calls of the announcement, of
which the first hands over what describes the application. -/
inductive Delivered (service : Service) (request : Request.Create) (a : Application) :
    List surroundings.Entry → Prop where
  | intro {cloud : Cloud} {c : Credential} {forging : List surroundings.Event}
      {product : Product} {id : String}
      (hcloud : service.catalog.cloud request.provider = .ok cloud)
      (hf : ∀ e ∈ forging, Question.IsForging e.1) (hok : Clean (forging.map Event.entry))
      (hp : a.product = some product)
      (hx : Describes product.extra a.guid request.provider a.record) :
      Delivered service request a
        ((attachment request cloud c ++ ⟨.guid, a.guid⟩ :: forging ++
          (service.settling ++ announcing request product id)).map Event.entry)

/-- A product holds the data of its application. -/
theorem Working.extra (h : Working service request l t (.value (.ok ()))) {product : Product}
    (hp : t.product = some product) : product.extra = t.extraPayload := by
  cases h with
  | provisioning hcloud hp h hx => exact absurd rfl hx
  | announcing hcloud hp' h ha =>
    obtain ⟨rfl, -⟩ := stops_settleAndAnnounce_ok ha
    obtain ⟨username, hfinished⟩ := Provider.finished_of_ok h
    cases hp.symm.trans hfinished
    rfl

theorem Working.delivered (h : Working service request l t (.value (.ok ()))) :
    Delivered service request t (l.map Event.entry) := by
  have hextra := @Working.extra _ _ _ _ h
  cases h with
  | provisioning hcloud hp h hx => exact absurd rfl hx
  | announcing hcloud hp h ha =>
    obtain ⟨rfl, product, id, hproduct, rfl⟩ := stops_settleAndAnnounce_ok ha
    obtain ⟨hrequest, -, -⟩ := Provider.finds_of_stops h rfl
    rcases Provider.forges_of_stops h with ⟨-, hx⟩ | ⟨guid, l', rfl, hl, -⟩
    · cases hx
    have hclean : Clean (l'.map Event.entry) := fun e he =>
      (Provider.accounts_provision h : Clean _) e (List.mem_cons_of_mem _ he)
    have hguid : t.guid = guid := Provider.guid_of_stops h List.mem_cons_self
    have hrequest' : t.request = request := hrequest
    have hdescribes := describes_extraPayload t
    rw [← hextra hproduct, hrequest'] at hdescribes
    rw [hrequest', ← hguid]
    exact .intro hcloud hl hclean hproduct hdescribes

/-! ## Abandoned -/

/-- What a create request failed with: the first failure of its work or a refusal, or the deadline
that the work was cut short by. After that at most a session was closed. -/
inductive Blamed (service : Service) (request : Request.Create) :
    List surroundings.Entry → Error → Prop where
  | returned {log : List surroundings.Entry} {failure : Error}
      (h : Blames (Refusal service request) log failure) : Blamed service request log failure
  | late {l l' : List surroundings.Event} {q : Question}
      (hl : ∀ e ∈ l', e.1 = .azure .closeSession) :
      Blamed service request (l.map Event.entry ++ ⟨q, none⟩ :: l'.map Event.entry)
        (.deadline (Duration.ofMilliseconds service.deadline))

/-- How the record of an application was taken down: to the end, with its own client, if and only if
there is something in it. -/
inductive TakenDown (a : Application) : List surroundings.Event → Prop where
  | nothing (h : a.record.isEmpty = true) : TakenDown a []
  | all {p : Provider} {u : Application} {l : List surroundings.Event} {errors : List Error}
      (h : a.record.isEmpty = false) (hp : a.provider = some p)
      (hu : Azure.apart u = Azure.apart a) (hs : (p.takeDown u).Stops l a (.value errors))
      (hl : l ≠ []) (hc : ∀ e ∈ l, Question.isCloud e.1 = true) : TakenDown a l

/-- What is handed over of an application that is abandoned: what describes it, if anything is
recorded of it. -/
inductive Remains (request : Request.Create) (a : Application) : Json.Value → Prop where
  | nothing (h : a.record.isEmpty = true) : Remains request a (.object [])
  | recorded {extra : Json.Value} (h : a.record.isEmpty = false)
      (hx : Describes extra a.guid request.provider a.record) : Remains request a extra

/-- How an application is reported as unavailable: in one patch, whose reason ends with the failure;
its source follows if the patch was accepted. -/
inductive Reported (request : Request.Create) (failure : Error) (a : Application) :
    List surroundings.Event → Prop where
  | rejected {reason : String} {extra : Json.Value}
      (hreason : failure.message.toList <:+ reason.toList) (hextra : Remains request a extra)
      (e : InventoryError) :
      Reported request failure a
        [⟨.inventory request.caller (.patchApplication request.applicationId
          ⟨some "unavailable", some reason, some extra⟩), .error e⟩]
  | accepted {reason : String} {extra : Json.Value}
      (hreason : failure.message.toList <:+ reason.toList) (hextra : Remains request a extra)
      (r : Except InventoryError Unit) :
      Reported request failure a
        [ ⟨.inventory request.caller (.patchApplication request.applicationId
            ⟨some "unavailable", some reason, some extra⟩), .ok ()⟩
        , ⟨.inventory request.caller (.patchSource request.sourceId "unavailable"), r⟩ ]

theorem Marking.reported {failure : Error} {extra : Json.Value}
    (h : Marking request failure extra l) (hextra : Remains request a extra) :
    Reported request failure a l := by
  have hreason : failure.message.toList <:+
      (Inventory.unavailableReason request.provider failure.message).toList := by
    unfold Inventory.unavailableReason
    rw [String.toList_append]
    exact List.suffix_append _ _
  cases h with
  | rejected e => exact .rejected hreason hextra e
  | accepted r => exact .accepted hreason hextra r

/-- How a request cleans up after itself: a complete teardown, and then the report. -/
inductive CleanedUp (request : Request.Create) (failure : Error) (a : Application) :
    List surroundings.Event → Prop where
  | intro {teardown report : List surroundings.Event} (ht : TakenDown a teardown)
      (hr : Reported request failure a report) : CleanedUp request failure a (teardown ++ report)

/-- What a create request has done when it was abandoned: work that takes nothing away and marks
nothing, and then what cleans up after it. -/
inductive Abandoned (service : Service) (request : Request.Create) (a : Application)
    (failure : Error) : List surroundings.Entry → Prop where
  | intro {work : List surroundings.Entry} {l : List surroundings.Event}
      (hw : ∀ e ∈ work, Question.IsConstructive e.1) (hb : Blamed service request work failure)
      (hg : ∀ guid, ⟨.guid, some guid⟩ ∈ work → a.guid = guid)
      (hc : CleanedUp request failure a l) :
      Abandoned service request a failure (work ++ l.map Event.entry)

/-- **Cleaning up takes down all that is recorded and then reports it**, and changes nothing of the
application but its session. -/
theorem Found.cleanedUp {failure : Error} (h : Found request a)
    (hc : (service.cleanUp request failure a).Stops l t (.value ())) :
    Azure.apart t = Azure.apart a ∧ CleanedUp request failure t l := by
  rcases stops_cleanUp hc with ⟨hempty, rfl, hm⟩ | ⟨errors, l₁, l₂, hsome, rfl, hdown, hm⟩
  · exact ⟨rfl, .intro (.nothing hempty) (hm.reported (.nothing hempty))⟩
  · rcases h.finds with hempty | ⟨p, hp, hfinds⟩
    · rw [hsome] at hempty
      cases hempty
    have hdown := stops_takeDown_of_provider hp hdown
    -- the teardown leaves the record and the client as they were
    have hapart := Provider.apart_of_takeDown hdown
    have hrecord : (Azure.apart t).record = (Azure.apart a).record := by rw [hapart]
    have hsame : (Azure.apart t).provider = (Azure.apart a).provider := by rw [hapart]
    have hkept : (Azure.apart t).request = (Azure.apart a).request := by rw [hapart]
    have hprovider : t.provider = some p := hsame.trans hp
    have hrequest : t.request = request := hkept.trans h.request
    have hfull : t.record.isEmpty = false := hrecord ▸ hsome
    have htaken : TakenDown t l₁ :=
      .all hfull hprovider hapart.symm hdown (Provider.takeDown_ne_nil hfinds hsome hdown)
        (Provider.asks_takeDown hdown).1
    have hdescribes := describes_extraPayload t
    rw [hrequest] at hdescribes
    exact ⟨hapart, .intro htaken (hm.reported (.recorded hfull hdescribes))⟩

/-- What is known when the work of a request has failed. -/
structure Failing (service : Service) (request : Request.Create) (work : List surroundings.Entry)
    (u : Application) (failure : Error) : Prop where
  constructive : ∀ e ∈ work, Question.IsConstructive e.1
  blamed : Blamed service request work failure
  guid : ∀ guid, ⟨.guid, some guid⟩ ∈ work → u.guid = guid
  found : Found request u

/-- What was logged of some events tells what was answered. -/
theorem mem_of_entry_mem {q : Question} {r : q.Reply}
    (h : (⟨q, some r⟩ : surroundings.Entry) ∈ l.map Event.entry) : ⟨q, r⟩ ∈ l := by
  obtain ⟨⟨q', r'⟩, hmem, he⟩ := List.mem_map.mp h
  cases he
  exact hmem

theorem failing_of_ended {work : List surroundings.Entry} {r : Except Error (Except Error Unit)}
    {failure : Error}
    (h : Ended service service.provisionAndAnnounce (Application.new request "") work u r)
    (hr : r.bind id = .error failure) : Failing service request work u failure := by
  cases h with
  | @done l _ r h =>
    have hw := working_of_stops h
    have hrf : r = .error failure := hr
    subst hrf
    exact ⟨List.forall_mem_map.mpr hw.constructive.1, .returned hw.accounts,
      fun guid hg => hw.guid (mem_of_entry_mem hg), hw.found⟩
  | @cut l₁ l₂ v _ q h hrel =>
    have hw := working_of_stops h
    obtain ⟨hclose, -, hu⟩ := Azure.stops_release hrel
    cases hr
    have hclosing : ∀ e ∈ l₂.map Event.entry, e.1 = .azure .closeSession :=
      List.forall_mem_map.mpr hclose
    refine ⟨?_, .late hclose, ?_, ?_⟩
    · refine List.forall_mem_append.mpr
        ⟨List.forall_mem_map.mpr hw.constructive.1,
          List.forall_mem_cons.mpr ⟨hw.constructive.2 q rfl, fun e he => ?_⟩⟩
      rw [hclosing e he]
      exact ⟨rfl, rfl⟩
    · intro guid hg
      rw [hu () rfl]
      rcases List.mem_append.mp hg with hg | hg
      · exact hw.guid (mem_of_entry_mem hg)
      · rcases List.mem_cons.mp hg with hg | hg
        · cases hg
        · cases hclosing _ hg
    · rw [hu () rfl]
      exact ⟨hw.found.request, hw.found.finds⟩

theorem Failing.abandoned {work : List surroundings.Entry} {failure : Error}
    (h : Failing service request work u failure)
    (hc : (service.cleanUp request failure u).Stops l t (.value ())) :
    Abandoned service request t failure (work ++ l.map Event.entry) := by
  obtain ⟨hapart, hcleaned⟩ := h.found.cleanedUp hc
  have hguid : (Azure.apart t).guid = (Azure.apart u).guid := by rw [hapart]
  exact .intro h.constructive h.blamed (fun guid hg => hguid.trans (h.guid guid hg)) hcleaned

variable {ω : Type}

/-- **A create request is either delivered or abandoned**, and its result says which. -/
theorem createRun_outcome
    (answer : ω → (q : surroundings.timed.Request) → surroundings.timed.Reply q × ω) (w : ω)
    (service : Service) (request : Request.Create) :
    Xor
      (((service.createRun request).exec answer w).1.2 = .ok () ∧
        Delivered service request ((service.createRun request).exec answer w).1.1
          ((service.createRun request).log answer w))
      (∃ failure, ((service.createRun request).exec answer w).1.2 = .error failure ∧
        Abandoned service request ((service.createRun request).exec answer w).1.1 failure
          ((service.createRun request).log answer w)) := by
  have hend : CreateEnds service request _ _ _ := createRun_ends answer w request
  generalize (service.createRun request).log answer w = log at hend ⊢
  generalize ((service.createRun request).exec answer w).1.1 = t at hend ⊢
  generalize ((service.createRun request).exec answer w).1.2 = r at hend ⊢
  cases hend with
  | done h =>
    refine .inl ⟨⟨rfl, ?_⟩, by simp⟩
    cases h with
    | done h => exact (working_of_stops h).delivered
  | @failed work l u _ r failure h hr hc =>
    exact .inr ⟨⟨failure, rfl, (failing_of_ended h hr).abandoned hc⟩, by simp⟩

/-- The reasons for which applications are reported as unavailable. -/
def reasons (log : List surroundings.Entry) : List String :=
  log.filterMap fun e =>
    match e with
    | ⟨.inventory _ (.patchApplication _ patch), _⟩ => patch.statusError
    | _ => none

/-- A grant is delivered where nothing is refused; where the binding is, it is abandoned with a bucket
in its record, and reported with the refusal. -/
theorem granted_or_refused :
    Delivered trial grant ((trial.createRun grant).exec World.answer (refusing "")).1.1
        ((trial.createRun grant).log World.answer (refusing "")) ∧
    (∃ failure, ((trial.createRun grant).exec World.answer (refusing "attach_role_policy")).1.2 =
        .error failure ∧
      Abandoned trial grant
        ((trial.createRun grant).exec World.answer (refusing "attach_role_policy")).1.1 failure
        ((trial.createRun grant).log World.answer (refusing "attach_role_policy"))) ∧
    ((trial.createRun grant).exec World.answer
      (refusing "attach_role_policy")).1.1.record.output? "s3" "output" =
        some "redhat-billing-bucket-0f1e2d3c" ∧
    reasons ((trial.createRun grant).log World.answer (refusing "attach_role_policy")) =
      ["Resource Creation error: failed to create resources in Amazon. Error: "
        ++ "Superkey step \"bind_role\" failed: failed to bind policy "
        ++ "\"arn:aws:iam::000000000000:policy/redhat-billing-policy-0f1e2d3c\" "
        ++ "to role \"redhat-billing-role-0f1e2d3c\": denied"] := by
  refine ⟨?_, ?_, by decide +kernel, by decide +kernel⟩
  · have hok : ((trial.createRun grant).exec World.answer (refusing "")).1.2.isOk = true := by
      decide +kernel
    obtain ⟨⟨-, hdelivered⟩, -⟩ | ⟨⟨failure, hfailure, -⟩, -⟩ :=
      createRun_outcome World.answer (refusing "") trial grant
    · exact hdelivered
    · rw [hfailure] at hok
      cases hok
  · have hrefused : ((trial.createRun grant).exec World.answer
        (refusing "attach_role_policy")).1.2.isOk = false := by decide +kernel
    obtain ⟨⟨hok, -⟩, -⟩ | ⟨habandoned, -⟩ :=
      createRun_outcome World.answer (refusing "attach_role_policy") trial grant
    · rw [hok] at hrefused
      cases hrefused
    · exact habandoned

end Service

end CloudGrant
