import CloudGrant.Proofs.Azure.Bracket
import CloudGrant.Proofs.Service.Outcome
import CloudGrant.Proofs.Service.Unwinding

/-!
# The deployment of a request

Wherever a create request is cut short, a deployment that it has started is recorded, and the client
that started it is at hand (`Working.started`). So a request that fails after that withdraws its
deployment: what is recorded is taken down, which is one session with the deletion of just that name
(`CreateEnds.withdrawn`). Without a template there is nothing to start, to record or to withdraw
(`CreateEnds.ungranted`).
-/

namespace CloudGrant

open Interface Azure Simulation

variable {name : String}

/-! ## Both providers -/

namespace Provider

variable {p : Provider} {a t : Application} {l : List surroundings.Event}

theorem started_of_stops {x : Stop surroundings (Except Error Unit)} (hp : a.provider = some p)
    (h : (p.provision a).Stops l t x) (hs : Asked (Starts name) l x) :
    ∃ guid, ⟨.guid, guid⟩ ∈ l ∧ Started guid name t := by
  rcases Service.stops_provider_provision h with ⟨rfl, -, rfl⟩ | ⟨guid, l', rfl, h'⟩
  · obtain ⟨q, ⟨template, rfl⟩, hq⟩ := hs.exists (Q := (· = .guid)) nofun (by rintro q ⟨⟩; rfl)
    cases hq
  refine ⟨guid, List.mem_cons_self, ?_⟩
  have hs' : Asked (Starts name) l' x := by
    refine Asked.of_append (l := [⟨.guid, guid⟩]) hs fun e he => ?_
    cases List.mem_singleton.mp he
    exact not_starts_of_not_isCloud rfl
  cases p with
  | amazon keyId secret =>
    obtain ⟨hl, hx⟩ := Amazon.asks_provision h'
    obtain ⟨q, ⟨template, rfl⟩, c, hq, -⟩ := hs'.exists hl hx
    cases hq
  | azure login template =>
    obtain ⟨hname, hnoted⟩ := noted_of_started h' hs'
    have hprovider : t.provider = a.provider := congrArg (·.2.2) (keeps_provision h')
    exact ⟨hname, hnoted, login, template, hprovider.trans hp⟩

/-- To take something down, nothing is deployed. -/
theorem takeDown_not_starts : p.takeDown.Asks fun q => ¬ Starts name q := by
  cases p with
  | amazon keyId secret =>
    refine Program.asks_bind Program.asks_get fun _ => Amazon.asks_undoAll ?_
    rintro kind - u - ⟨template, hq⟩
    cases hq
  | azure login template =>
    refine asks_takeDown_of ?_ ?_ ?_ ?_ fun _ => ?_ <;> rintro ⟨template, hq⟩ <;> cases hq

end Provider

namespace Service

variable {service : Service} {request : Request.Create} {a t u : Application}
  {l : List surroundings.Event} {log : List surroundings.Entry}

/-! ## Where a request can be cut short -/

theorem attachment_not_starts {cloud : Cloud} {c : Credential} :
    ∀ e ∈ attachment request cloud c, ¬ Starts name e.1 :=
  fun e he => not_starts_of_not_isCloud (quiet_attachment e he).1

/-- **A deployment that was started is recorded**, wherever the work of a request stops. -/
theorem Working.started {x : Stop surroundings (Except Error Unit)}
    (h : Working service request l t x) (hs : Asked (Starts name) l x) :
    ∃ guid, ⟨.guid, guid⟩ ∈ l ∧ Started guid name t := by
  have hquiet : ∀ {α : Type} {l : List surroundings.Event} {x : Stop surroundings α},
      (∀ e ∈ l, IsQuiet e.1) → (∀ q, x = .question q → IsQuiet q) → ¬ Asked (Starts name) l x := by
    intro α l x hl hx hs
    obtain ⟨q, hstarts, hq⟩ := hs.exists hl hx
    exact not_starts_of_not_isCloud hq.1 hstarts
  cases h with
  | @fetching _ _ q h =>
    refine absurd hs (hquiet h.quiet.1 ?_)
    rintro _ ⟨⟩
    exact h.quiet.2 q rfl
  | unattached h => exact absurd hs (hquiet h.quiet.1 nofun)
  | provisioning hcloud hp h hx =>
    obtain ⟨guid, hguid, hstarted⟩ :=
      Provider.started_of_stops rfl h (hs.of_append attachment_not_starts)
    exact ⟨guid, List.mem_append_right _ hguid, hstarted⟩
  | @announcing _ _ _ l l' u _ _ hcloud hp h ha =>
    obtain ⟨hl', hx⟩ := asks_settleAndAnnounce ha
    -- the announcement starts nothing, and leaves the record as it is
    have hprovision : Asked (Starts name) l
        (.value (.ok ()) : Stop surroundings (Except Error Unit)) := by
      rw [List.append_assoc] at hs
      rcases hs.of_append attachment_not_starts with ⟨e, he, hstarts⟩ | ⟨q, hq, hstarts⟩
      · rcases List.mem_append.mp he with he | he
        · exact .inl ⟨e, he, hstarts⟩
        · exact absurd hstarts (not_starts_of_not_isCloud (hl' e he).1)
      · exact absurd hstarts (not_starts_of_not_isCloud (hx q hq).1)
    obtain ⟨guid, hguid, hstarted⟩ := Provider.started_of_stops rfl h hprovision
    have ht : t = u := keeps_settleAndAnnounce ha
    rw [ht]
    exact ⟨guid, List.mem_append_left _ (List.mem_append_right _ hguid), hstarted⟩

theorem Ended.started {r : Except Error (Except Error Unit)} {e : surroundings.Entry}
    (h : Ended service service.provisionAndAnnounce (Application.new request "") log u r)
    (he : e ∈ log) (hs : Starts name e.1) :
    ∃ guid, ⟨.guid, some guid⟩ ∈ log ∧ Started guid name u := by
  cases h with
  | done h =>
    obtain ⟨v, hv, rfl⟩ := List.mem_map.mp he
    obtain ⟨guid, hguid, hstarted⟩ := (working_of_stops h).started (.inl ⟨v, hv, hs⟩)
    exact ⟨guid, List.mem_map_of_mem hguid, hstarted⟩
  | @cut l₁ l₂ v _ q h hr =>
    obtain ⟨hclose, -, hu⟩ := stops_release hr
    have hasked : Asked (Starts name) l₁ (.question q : Stop surroundings (Except Error Unit)) := by
      rcases List.mem_append.mp he with he | he
      · obtain ⟨v, hv, rfl⟩ := List.mem_map.mp he
        exact .inl ⟨v, hv, hs⟩
      rcases List.mem_cons.mp he with rfl | he
      · exact .inr ⟨q, rfl, hs⟩
      · obtain ⟨v, hv, rfl⟩ := List.mem_map.mp he
        obtain ⟨template, hdeploy⟩ := hs
        cases (hclose v hv).symm.trans hdeploy
    obtain ⟨guid, hguid, hstarted⟩ := (working_of_stops h).started hasked
    rw [hu () rfl]
    refine ⟨guid, List.mem_append_left _ (List.mem_map_of_mem hguid), ?_⟩
    exact ⟨hstarted.name_eq, hstarted.noted, hstarted.client⟩

/-! ## Withdrawing -/

/-- A log in which a deployment was started and withdrawn: its name is that of the guid that was drawn,
and all that was taken away in the end is the deployment of that name, in a session of its own. -/
inductive Withdrawn (name : String) : List surroundings.Entry → Prop where
  | intro {before : List surroundings.Entry} {login : Login} {b : Bracket (.delete name)}
      {marks : List surroundings.Event} {guid : String}
      (hbefore : ∀ e ∈ before, Question.IsConstructive e.1)
      (hstarted : ∃ e ∈ before, Starts name e.1)
      (hguid : ⟨.guid, some guid⟩ ∈ before) (hname : name = Naming.deployment guid)
      (hmarks : ∀ e ∈ marks, Question.isCloud e.1 = false) :
      Withdrawn name (before ++ ((b.calls login).map Event.entry ++ marks.map Event.entry))

theorem not_isEmpty_of_noted (h : a.record.output? stepName "name" = some name) :
    a.record.isEmpty = false := by
  refine Bool.eq_false_iff.mpr fun hempty => ?_
  have hnone := Amazon.isEmpty_iff_not_has.mp hempty stepName
  rw [Amazon.has_of_output? h] at hnone
  cases hnone

/-- To clean up, nothing is deployed. -/
theorem cleanUp_not_starts {failure : Error}
    (hfinds : u.record.isEmpty = true ∨ ∃ p, u.provider = some p)
    (hc : (service.cleanUp request failure u).Stops l t (.value ())) :
    ∀ e ∈ l, ¬ Starts name e.1 := by
  have hmarking : ∀ {extra : Json.Value} {l : List surroundings.Event},
      Marking request failure extra l → ∀ e ∈ l, ¬ Starts name e.1 :=
    fun hm e he => not_starts_of_not_isCloud (hm.not_isCloud _ (List.mem_map_of_mem he))
  rcases stops_cleanUp hc with ⟨-, -, hm⟩ | ⟨errors, l₁, l₂, hsome, rfl, hdown, hm⟩
  · exact hmarking hm
  rcases hfinds with hempty | ⟨p, hp⟩
  · rw [hsome] at hempty
    cases hempty
  have htaken : ∀ e ∈ l₁, ¬ Starts name e.1 :=
    (Provider.takeDown_not_starts (stops_takeDown_of_provider hp hdown)).1
  exact List.forall_mem_append.mpr ⟨htaken, hmarking hm⟩

/-- **A request that fails withdraws the deployment that it has started.** -/
theorem CreateEnds.withdrawn {failure : Error} {e : surroundings.Entry}
    (h : CreateEnds service request log t (.error failure)) (he : e ∈ log)
    (hs : Starts name e.1) : Withdrawn name log := by
  cases h with
  | @failed work l u _ _ _ h hr hc =>
    have hfailing := failing_of_ended h hr
    have hwork : e ∈ work := by
      rcases List.mem_append.mp he with he | he
      · exact he
      · obtain ⟨v, hv, rfl⟩ := List.mem_map.mp he
        exact absurd hs (cleanUp_not_starts (hfailing.found.finds.imp_right fun ⟨p, hp, _⟩ => ⟨p, hp⟩)
          hc v hv)
    obtain ⟨guid, hguid, hstarted⟩ := h.started hwork hs
    obtain ⟨login, template, hp⟩ := hstarted.client
    rcases stops_cleanUp hc with ⟨hempty, -, -⟩ | ⟨errors, l₁, l₂, -, rfl, hdown, hm⟩
    · rw [not_isEmpty_of_noted hstarted.noted] at hempty
      cases hempty
    obtain ⟨b, -⟩ := deleted_of_stops hstarted.noted (stops_takeDown_of_provider hp hdown)
    rw [List.map_append]
    exact .intro hfailing.constructive ⟨e, hwork, hs⟩ hguid hstarted.name_eq
      fun v hv => hm.not_isCloud _ (List.mem_map_of_mem hv)

/-! ## Without a template -/

/-- Where work can stop that has nothing to deploy: nothing is recorded, and no cloud was asked. -/
structure Unprepared (l : List surroundings.Event) (t : Application)
    (x : Stop surroundings (Except Error Unit)) : Prop where
  empty : t.record.isEmpty = true
  closed : t.inSession = false
  quiet : ∀ e ∈ l, IsQuiet e.1
  asking : ∀ q, x = .question q → IsQuiet q
  failing : x ≠ .value (.ok ())

theorem unprepared_of_stops {login : Login} {x : Stop surroundings (Except Error Unit)}
    (h : ((Provider.azure login none).provision (attached request (.azure login none))).Stops l t x) :
    Unprepared l t x := by
  rcases stops_provider_provision h with ⟨rfl, rfl, rfl⟩ | ⟨guid, l', rfl, h'⟩
  · refine ⟨rfl, rfl, nofun, ?_, nofun⟩
    rintro q ⟨⟩
    exact ⟨rfl, rfl⟩
  · obtain ⟨rfl, rfl, rfl⟩ := Program.stops_pure_iff.mp h'
    refine ⟨rfl, rfl, fun e he => ?_, nofun, nofun⟩
    cases List.mem_singleton.mp he
    exact ⟨rfl, rfl⟩

theorem Working.unprepared {x : Stop surroundings (Except Error Unit)}
    (hcloud : service.catalog.cloud request.provider = .ok .azure) (ht : service.template = none)
    (h : Working service request l t x) : Unprepared l t x := by
  have hclient : ∀ {cloud c p}, service.catalog.cloud request.provider = .ok cloud →
      Provider.ofCredential cloud service.template c = .ok p → ∃ login, p = .azure login none := by
    intro cloud c p hc hp
    cases hc.symm.trans hcloud
    rw [ht] at hp
    unfold Provider.ofCredential at hp
    cases htenant : c.azureTenant? with
    | none => simp [htenant] at hp
    | some tenant =>
      simp only [htenant] at hp
      cases hp
      exact ⟨_, rfl⟩
  cases h with
  | @fetching _ _ q h =>
    rw [h.eq_of_not_ok (by simp)]
    refine ⟨rfl, rfl, h.quiet.1, ?_, nofun⟩
    rintro _ ⟨⟩
    exact h.quiet.2 q rfl
  | unattached h =>
    rw [h.eq_of_not_ok (by simp)]
    exact ⟨rfl, rfl, h.quiet.1, nofun, nofun⟩
  | provisioning hc hp h hx =>
    obtain ⟨login, rfl⟩ := hclient hc hp
    have hstop := unprepared_of_stops h
    refine ⟨hstop.empty, hstop.closed, ?_, hstop.asking, hstop.failing⟩
    exact List.forall_mem_append.mpr ⟨quiet_attachment, hstop.quiet⟩
  | announcing hc hp h _ =>
    obtain ⟨login, rfl⟩ := hclient hc hp
    exact absurd rfl (unprepared_of_stops h).failing

/-- What comes of a request without anything to deploy. -/
structure Ungranted (log : List surroundings.Entry) (t : Application) (r : Except Error Unit) :
    Prop where
  empty : t.record.isEmpty = true
  quiet : ∀ e ∈ log, Question.isCloud e.1 = false
  failed : ∃ failure, r = .error failure

/-- **Without a template nothing is recorded, and no session is opened.** -/
theorem CreateEnds.ungranted {r : Except Error Unit}
    (hcloud : service.catalog.cloud request.provider = .ok .azure) (ht : service.template = none)
    (h : CreateEnds service request log t r) : Ungranted log t r := by
  have hevents : ∀ {l : List surroundings.Event}, (∀ e ∈ l, IsQuiet e.1) →
      ∀ e ∈ l.map Event.entry, Question.isCloud e.1 = false := by
    intro l hl e he
    obtain ⟨v, hv, rfl⟩ := List.mem_map.mp he
    exact (hl v hv).1
  have hended : ∀ {log u} {r : Except Error (Except Error Unit)},
      Ended service service.provisionAndAnnounce (Application.new request "") log u r →
      u.record.isEmpty = true ∧ (∀ e ∈ log, Question.isCloud e.1 = false) ∧ r ≠ .ok (.ok ()) := by
    intro log u r h
    cases h with
    | done h =>
      have hstop := (working_of_stops h).unprepared hcloud ht
      refine ⟨hstop.empty, hevents hstop.quiet, ?_⟩
      rintro ⟨⟩
      exact hstop.failing rfl
    | @cut l₁ l₂ v _ q h hr =>
      have hstop := (working_of_stops h).unprepared hcloud ht
      cases stops_release_of_closed hstop.closed hr
      obtain ⟨-, -, hu⟩ := stops_release hr
      rw [hu () rfl]
      refine ⟨hstop.empty, List.forall_mem_append.mpr ⟨hevents hstop.quiet, fun e he => ?_⟩, nofun⟩
      cases List.mem_singleton.mp he
      exact (hstop.asking q rfl).1
  cases h with
  | done h => exact absurd rfl (hended h).2.2
  | failed h hr hc =>
    obtain ⟨hempty, hquiet, -⟩ := hended h
    rcases stops_cleanUp hc with ⟨-, rfl, hm⟩ | ⟨_, _, _, hsome, -, -, -⟩
    · exact ⟨hempty, List.forall_mem_append.mpr ⟨hquiet, hm.not_isCloud⟩, _, rfl⟩
    · rw [hempty] at hsome
      cases hsome

/-! ## Any world -/

/-- **Sessions are brackets, and deployments are recorded ahead of them.**

* A deployment and a deletion are one session each, which says what they come to.
* At every question of a deployment that was started, its name is in the record.
* A create request that fails after that withdraws the deployment.
* Without a template nothing is recorded, and no session is opened. -/
theorem deployments_bracketed (service : Service) :
    (∀ {ω : Type} (answer : ω → (q : Question) → q.Reply × ω) (w : ω) (login : Login)
        (template : String) (a : Application),
      Deployed login template a ((Azure.provision login (some template) a).history answer w)
        ((Azure.provision login (some template) a).exec answer w).1.1
        ((Azure.provision login (some template) a).exec answer w).1.2) ∧
      (∀ {ω : Type} (answer : ω → (q : Question) → q.Reply × ω) (w : ω) (login : Login)
          (a : Application) (name : String), a.record.output? stepName "name" = some name →
        Deleted login a name ((Azure.takeDown login a).history answer w)
          ((Azure.takeDown login a).exec answer w).1.1
          ((Azure.takeDown login a).exec answer w).1.2) ∧
      (∀ (login : Login) (prepared : Option String) (a t : Application)
          (l : List surroundings.Event) (x : Stop surroundings (Except Error Unit)) (name : String),
        (Azure.provision login prepared a).Stops l t x → Asked (Starts name) l x →
          name = Naming.deployment a.guid ∧ t.record.output? stepName "name" = some name) ∧
      (∀ {ω : Type} (answer : ω → (q : surroundings.timed.Request) → surroundings.timed.Reply q × ω)
          (w : ω) (request : Request.Create) (name : String) (failure : Error),
        ((service.createRun request).exec answer w).1.2 = .error failure →
        (∃ e ∈ (service.createRun request).log answer w, Starts name e.1) →
          Withdrawn name ((service.createRun request).log answer w)) ∧
      (∀ {ω : Type} (answer : ω → (q : Question) → q.Reply × ω) (w : ω) (login : Login)
          (a : Application),
        (Azure.provision login none a).history answer w = [] ∧
          ((Azure.provision login none a).exec answer w).1.1 = a ∧
          ∃ failure, ((Azure.provision login none a).exec answer w).1.2 = .error failure) ∧
      (∀ {ω : Type} (answer : ω → (q : surroundings.timed.Request) → surroundings.timed.Reply q × ω)
          (w : ω) (request : Request.Create),
        service.catalog.cloud request.provider = .ok .azure → service.template = none →
          Ungranted ((service.createRun request).log answer w)
            ((service.createRun request).exec answer w).1.1
            ((service.createRun request).exec answer w).1.2) := by
  refine ⟨?_, ?_, ?_, ?_, ?_, ?_⟩
  · intro ω answer w login template a
    exact deployed_of_stops (Run.stops_exec (I := surroundings) answer w _)
  · intro ω answer w login a name hname
    exact deleted_of_stops hname (Run.stops_exec (I := surroundings) answer w _)
  · intro login prepared a t l x name h hs
    exact noted_of_started h hs
  · rintro ω answer w request name failure hf ⟨e, he, hs⟩
    have hend : CreateEnds service request _ _ _ := createRun_ends answer w request
    rw [hf] at hend
    exact hend.withdrawn he hs
  · intro ω answer w login a
    exact ⟨rfl, rfl, _, rfl⟩
  · intro ω answer w request hcloud ht
    exact (createRun_ends answer w request).ungranted hcloud ht

/-- A service with a template, and a request for it. -/
def deploying : Service := { trial with template := some "lighthouse.json" }

def subscribing : Request.Create := { Request.Create.blank with provider := "azure" }

/-- Surroundings where a deployment is refused. -/
def undeployable : World :=
  { refusing "az_deploy" with
    credential := ⟨"1", "", "user", "secret", .object [("tenant_id", .text "tenant")]⟩ }

/-- An application before its deployment, and one for which it is noted. -/
def undeployed : Application := Application.new subscribing "0f1e2d3c"

def lighthouse : Application :=
  { undeployed with
    record := Record.empty.setOutput stepName "name" "redhat-cloudmeter-0f1e2d3c" }

def principal : Login := ⟨"user", "secret", "tenant"⟩

/-- A refused deployment is withdrawn by its name, and not even started without a template; where it
is cut short its name is noted already. -/
theorem withdrawn_after_refused_deployment :
    Withdrawn "redhat-cloudmeter-0f1e2d3c"
        ((deploying.createRun subscribing).log World.answer undeployable) ∧
      Deleted principal lighthouse "redhat-cloudmeter-0f1e2d3c"
        ((Azure.takeDown principal lighthouse).history
          (fun w q => World.answer w (.untimed q)) undeployable)
        ((Azure.takeDown principal lighthouse).exec
          (fun w q => World.answer w (.untimed q)) undeployable).1.1
        ((Azure.takeDown principal lighthouse).exec
          (fun w q => World.answer w (.untimed q)) undeployable).1.2 ∧
      (∃ t, (Azure.provision principal (some "lighthouse.json") undeployed).Stops
          [⟨.azure .openSession, .ok ()⟩, ⟨.azure (.login principal), .ok ()⟩] t
          (.question (.azure (.deploy "redhat-cloudmeter-0f1e2d3c" "lighthouse.json"))) ∧
        t.record.output? stepName "name" = some "redhat-cloudmeter-0f1e2d3c") ∧
      Ungranted ((trial.createRun subscribing).log World.answer undeployable)
        ((trial.createRun subscribing).exec World.answer undeployable).1.1
        ((trial.createRun subscribing).exec World.answer undeployable).1.2 := by
  have hfails : ((deploying.createRun subscribing).exec World.answer undeployable).1.2.isOk =
      false := by decide +kernel
  have hcut : (Azure.provision principal (some "lighthouse.json") undeployed).Stops
      [⟨.azure .openSession, .ok ()⟩, ⟨.azure (.login principal), .ok ()⟩]
      { noted undeployed with inSession := true }
      (.question (.azure (.deploy "redhat-cloudmeter-0f1e2d3c" "lighthouse.json"))) :=
    .answered _ (.answered _ (.here _ _ _))
  obtain ⟨-, hdeleted, hnoted, hwithdrawn, -, -⟩ := deployments_bracketed deploying
  obtain ⟨-, -, -, -, -, hungranted⟩ := deployments_bracketed trial
  refine ⟨?_, hdeleted _ _ _ _ _ rfl, ⟨_, hcut, ?_⟩, hungranted _ _ _ rfl rfl⟩
  · cases hf : ((deploying.createRun subscribing).exec World.answer undeployable).1.2 with
    | ok _ =>
      rw [hf] at hfails
      cases hfails
    | error failure => exact hwithdrawn _ _ _ _ failure hf (by decide +kernel)
  · exact (hnoted _ _ _ _ _ _ _ hcut (.inr ⟨_, rfl, _, rfl⟩)).2

end Service

end CloudGrant
