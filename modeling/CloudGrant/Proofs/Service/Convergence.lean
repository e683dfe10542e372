import CloudGrant.Proofs.Run.Fleet
import CloudGrant.Proofs.Service.Deadline
import CloudGrant.Proofs.Service.Handover

/-!
# Destroy requests that are delivered again

A destroy request may be delivered any number of times, and its runs may overlap in any way. None of
them makes anything, and each removes only what their record names (`DestroyAsks`), so what is left
in the end is what none of them has removed. A run in which no call fails removes all that the
record names, whatever fails in the others; the end is then the same as after that run alone
(`destroyRuns_converge`).
-/

namespace CloudGrant

open Interface Simulation

/-! ## The logs of several runs -/

namespace Fleet

variable {ι σ α ω : Type} [DecidableEq ι] {contents : ω → Holdings}
  {answer : ι → ω → (q : surroundings.timed.Request) → surroundings.timed.Reply q × ω}
  {f : Fleet surroundings.timed ι σ α ω} {schedule : List ι}

/-- The log of one of the runs in the turns of a schedule. -/
def log (answer : ι → ω → (q : surroundings.timed.Request) → surroundings.timed.Reply q × ω)
    (f : Fleet surroundings.timed ι σ α ω) (schedule : List ι) (i : ι) :
    List surroundings.Entry :=
  entries (own i (f.history answer schedule))

/-- The log of all runs. -/
def jointLog (answer : ι → ω → (q : surroundings.timed.Request) → surroundings.timed.Reply q × ω)
    (f : Fleet surroundings.timed ι σ α ω) (schedule : List ι) : List surroundings.Entry :=
  entries ((f.history answer schedule).map Prod.snd)

theorem mem_jointLog_iff {e : surroundings.Entry} :
    e ∈ f.jointLog answer schedule ↔ ∃ i, e ∈ f.log answer schedule i := by
  unfold jointLog log entries
  simp only [List.mem_filterMap, List.mem_map, mem_own, Prod.exists]
  constructor
  · rintro ⟨_, ⟨i, event, h, rfl⟩, he⟩
    exact ⟨i, event, h, he⟩
  · rintro ⟨i, event, h, he⟩
    exact ⟨event, ⟨i, event, h, rfl⟩, he⟩

/-- If calls are atomic then the log of all runs tells what exists after them. -/
theorem contents_after (h : ∀ i, Atomic contents (answer i)) :
    contents (f.after answer schedule).world =
      (contents f.world).after (f.jointLog answer schedule) :=
  (world_after (fun i w q => h i w q) f schedule).trans Holdings.foldl_after_entries

end Fleet

namespace Service

variable {service : Service} {t : Application} {r : Request.Destroy} {record : Record}
  {log log' : List surroundings.Entry}

/-! ## What a destroy request asks -/

/-- What a destroy request asks after a log: nothing of the clouds, to let go of a session, or, once
a complete credential was fetched, to undo what its record holds. -/
inductive DestroyAsks (record : Record) (log : List surroundings.Entry) : Question → Prop where
  | quiet {q : Question} (h : q.isCloud = false) : DestroyAsks record log q
  | release : DestroyAsks record log (.azure .closeSession)
  | undo {kind : Step.Kind} {u : Amazon.Undoing} {c : Credential}
      (hkind : record.has kind.name = true) (hu : Amazon.undoing record kind = .ok u)
      (hc : c.isComplete = true) (hfetched : c ∈ log.filterMap fetched?) :
      DestroyAsks record log (.amazon u.call)

theorem DestroyAsks.mono {q : Question} (h : DestroyAsks record log q)
    (hl : ∀ e ∈ log, e ∈ log') : DestroyAsks record log' q := by
  cases h with
  | quiet h => exact .quiet h
  | release => exact .release
  | undo hkind hu hc hfetched =>
    obtain ⟨e, he, hf⟩ := List.mem_filterMap.mp hfetched
    exact .undo hkind hu hc (List.mem_filterMap.mpr ⟨e, hl e he, hf⟩)

theorem DestroyAsks.onlyRemoves {q : Question} (h : DestroyAsks record log q) : OnlyRemoves q := by
  cases h with
  | quiet h => exact .inl h
  | release => exact .inr (.inl rfl)
  | undo _ hu _ _ =>
    obtain ⟨x, hx⟩ := Amazon.removed?_undoing hu
    exact .inr (.inr ⟨_, x, rfl, hx⟩)

/-- What is removed is named by the record, and removed with a complete credential. -/
theorem DestroyAsks.of_removes {e : surroundings.Entry} {x : Resource}
    (h : DestroyAsks record log e.1) (hr : Removes x e) :
    Amazon.Names record x ∧ ∃ c ∈ log.filterMap fetched?, c.isComplete = true := by
  obtain ⟨call, reply, rfl, hx⟩ := hr
  cases h with
  | quiet h => cases h
  | undo hkind hu hc hfetched => exact ⟨⟨_, _, hkind, hu, hx⟩, _, hfetched, hc⟩

/-- With a complete credential the kinds that the record holds are undone. -/
theorem asks_undoAll_of_fetched {c : Credential} (hc : c.isComplete = true)
    (hfetched : c ∈ log.filterMap fetched?) :
    (Amazon.undoAll record (Amazon.toUndo record)).Asks (DestroyAsks record log) :=
  Amazon.asks_undoAll fun _ hkind _ hu => .undo (Amazon.mem_toUndo_iff.mp hkind) hu hc hfetched

theorem destroyAsks_of_takeDown {l : List surroundings.Event} {q : Question}
    (h : (service.takeDown (Application.ofDestroy r)).Stops l t (.question q))
    (hcloud : service.catalog.cloud r.provider = .ok .amazon) :
    DestroyAsks r.record (l.map Event.entry) q := by
  unfold takeDown at h
  rw [Program.stops_get_bind_iff] at h
  rcases Program.stops_bind_iff.mp h with ⟨_, hx, h₁⟩ | ⟨l₁, l₂, u, attached, rfl, h₁, h₂⟩
  · cases hx
    exact .quiet ((attaching_of_stops h₁).quiet.2 q rfl).1
  cases attached with
  | error e =>
    obtain ⟨-, -, hx⟩ := Program.stops_pure_iff.mp h₂
    cases hx
  | ok p =>
    cases attaching_of_stops h₁ with
    | @attached _ hamazon c hc _ hp =>
      cases Except.ok.inj (hamazon.symm.trans hcloud)
      cases hp
      have hundo := Program.stops_get_bind_iff.mp h₂
      exact (asks_undoAll_of_fetched hc List.mem_cons_self hundo).2 q rfl

theorem destroyAsks_of_destroyRun {l : List surroundings.timed.Event}
    {p : surroundings.timed.Request} {q : Question}
    (h : (service.destroyRun r).Stops l t (.question p)) (hq : subject? p = some q)
    (hcloud : service.catalog.cloud r.provider = .ok .amazon) :
    DestroyAsks r.record (entries l) q := by
  unfold destroyRun at h
  rw [destroy_eq] at h
  rcases Program.stops_bind_iff.mp h with ⟨_, hx, hwithin⟩ | ⟨_, _, _, _, _, _, hpure⟩
  · cases hx
    rcases Program.stops_within_question hwithin with
      hnone | ⟨q', l', hq', hl, hdown⟩ | ⟨q', u, l', hq', hrelease⟩
    · cases hnone.symm.trans hq
    · cases hq'.symm.trans hq
      rw [hl]
      exact destroyAsks_of_takeDown hdown hcloud
    · cases hq'.symm.trans hq
      exact (Azure.asks_release .release hrelease).2 q rfl
  · obtain ⟨-, -, hx⟩ := Program.stops_pure_iff.mp hpure
    cases hx

/-- **A destroy request asks nothing else**, wherever it stands. -/
theorem destroyAsks_of_stops {l : List surroundings.timed.Event}
    {x : Stop surroundings.timed (Except Error Unit)} (h : (service.destroyRun r).Stops l t x)
    (hcloud : service.catalog.cloud r.provider = .ok .amazon) {e : surroundings.Entry}
    (he : e ∈ entries l) : DestroyAsks r.record (entries l) e.1 := by
  obtain ⟨event, hevent, hentry⟩ := List.mem_filterMap.mp he
  obtain ⟨l₁, l₂, rfl⟩ := List.append_of_mem hevent
  obtain ⟨u, hu⟩ := h.question
  refine (destroyAsks_of_destroyRun hu (subject?_of_entry?_eq hentry) hcloud).mono fun e he => ?_
  rw [entries_append]
  exact List.mem_append_left _ he

/-! ## What it comes to if no call fails -/

/-- Credentials between which a destroy request makes no difference, such as before and after a
secret was replaced. -/
def Interchangeable (c c' : Credential) : Prop := c.id = c'.id ∧ c.isComplete = c'.isComplete

instance (c c' : Credential) : Decidable (Interchangeable c c') :=
  inferInstanceAs (Decidable (c.id = c'.id ∧ c.isComplete = c'.isComplete))

/-- A log of destroy requests for a record that have nothing left to remove: the credentials are
interchangeable, and if they are complete then all that the record names was removed. -/
structure DestroyDone (record : Record) (cred : Credential) (log : List surroundings.Entry) :
    Prop where
  asks : ∀ e ∈ log, DestroyAsks record log e.1
  credential : ∀ c ∈ log.filterMap fetched?, Interchangeable c cred
  removed : cred.isComplete = true → ∀ x, Amazon.Names record x → ∃ e ∈ log, Removes x e

variable {cred : Credential}

/-- What the record names is gone, and nothing else. -/
theorem DestroyDone.has_after_iff (h : DestroyDone record cred log) {now : Holdings}
    {x : Resource} :
    (now.after log).has x = true ↔
      now.has x = true ∧ ¬ (cred.isComplete = true ∧ Amazon.Names record x) := by
  rw [Holdings.has_after_iff fun e he => (h.asks e he).onlyRemoves]
  refine and_congr_right fun _ => ⟨fun hnot hx => ?_, fun hnot e he hr => hnot ?_⟩
  · obtain ⟨e, he, hr⟩ := h.removed hx.1 x hx.2
    exact hnot e he hr
  · obtain ⟨hnames, c, hc, hcomplete⟩ := (h.asks e he).of_removes hr
    exact ⟨(h.credential c hc).2.symm.trans hcomplete, hnames⟩

/-- **Whatever else is in them, such logs leave the same.** -/
theorem DestroyDone.after_eq (h : DestroyDone record cred log) (h' : DestroyDone record cred log')
    (now : Holdings) : now.after log = now.after log' :=
  Holdings.ext_has fun _ => Bool.eq_iff_iff.mpr (h.has_after_iff.trans h'.has_after_iff.symm)

/-- The result of a destroy request in which no call fails, by the credential that was fetched: all
that cannot be undone is reported. -/
def verdict (record : Record) (superKey : String) (c : Credential) : Except Error Unit :=
  destroyed (.ok (if c.isComplete then (Amazon.toUndo record).filterMap (Amazon.impossible? record)
    else [.missingCredential c.id superKey]))

/-- **If no call fails then a destroy request is done, and its result is known.** -/
theorem done_of_stops {l : List surroundings.timed.Event} {result : Except Error Unit}
    (h : (service.destroyRun r).Stops l t (.value result))
    (hcloud : service.catalog.cloud r.provider = .ok .amazon)
    (hs : ∀ e ∈ entries l, Succeeded e)
    (hcred : ∀ c ∈ (entries l).filterMap fetched?, Interchangeable c cred) :
    result = verdict r.record r.superKey cred ∧ DestroyDone r.record cred (entries l) := by
  have hasks : ∀ e ∈ entries l, DestroyAsks r.record (entries l) e.1 :=
    fun e he => destroyAsks_of_stops h hcloud he
  obtain ⟨outcome, hended, rfl⟩ := destroyEnds_of_stops h
  generalize entries l = log at hended hs hcred hasks
  cases hended with
  | @cut l₁ l₂ _ _ q _ _ =>
    -- a question that was not answered in time has not succeeded
    obtain ⟨_, hnone, -⟩ := hs ⟨q, none⟩ (List.mem_append_right _ List.mem_cons_self)
    cases hnone
  | @done l t errors hdown =>
    obtain ⟨l₁, l₂, c, rfl, -, hc, hend⟩ :=
      undone_of_not_failed hdown hcloud fun e he => (hs e he).not_failed
    have hsame : Interchangeable c cred := by
      refine hcred c ?_
      rw [List.map_append, List.filterMap_append, hc]
      exact List.mem_cons_self
    unfold verdict
    rw [← hsame.1, ← hsame.2]
    cases hcomplete : c.isComplete with
    | false =>
      rw [hcomplete] at hend
      obtain ⟨-, rfl⟩ := hend
      refine ⟨rfl, hasks, hcred, fun h => ?_⟩
      cases hcomplete.symm.trans (hsame.2.trans h)
    | true =>
      rw [if_pos hcomplete] at hend
      have hok : ∀ e ∈ l₂.map Event.entry, ¬ Failed e := by
        intro e he
        refine (hs e ?_).not_failed
        rw [List.map_append]
        exact List.mem_append_right _ he
      refine ⟨by rw [hend.errors_eq hok, if_pos rfl], hasks, hcred, fun _ x hx => ?_⟩
      obtain ⟨e, he, hr⟩ := (hend.exists_removes_iff hok).mpr (Amazon.names_iff.mp hx)
      rw [List.map_append]
      exact ⟨e, List.mem_append_right _ he, hr⟩

/-! ## Any number of requests -/

variable {ι ω : Type} [DecidableEq ι] {contents : ω → Holdings}
  {answer : ι → ω → (q : surroundings.timed.Request) → surroundings.timed.Reply q × ω}

/-- Destroy requests at the start of their runs. -/
def destroys (service : Service) (requests : ι → Request.Destroy) (w : ω) :
    Fleet surroundings.timed ι Application (Except Error Unit) ω :=
  ⟨fun i => service.destroyRun (requests i), w⟩

variable {requests : ι → Request.Destroy} {w : ω} {schedule : List ι}

/-- Each of them is a run of its request, as far as it has come. -/
theorem stops_destroys (i : ι) :
    (service.destroyRun (requests i)).Stops
      (Fleet.own i ((service.destroys requests w).history answer schedule))
      (((service.destroys requests w).after answer schedule).runs i).state
      (((service.destroys requests w).after answer schedule).runs i).stop :=
  Fleet.stops_own (service.destroys requests w) schedule i

/-- Each run asks for its own record only. -/
theorem destroyAsks_of_mem_log (hrecord : ∀ i, (requests i).record = record)
    (hcloud : ∀ i, service.catalog.cloud (requests i).provider = .ok .amazon) {i : ι}
    {e : surroundings.Entry} (he : e ∈ (service.destroys requests w).log answer schedule i) :
    DestroyAsks record ((service.destroys requests w).log answer schedule i) e.1 := by
  rw [← hrecord i]
  exact destroyAsks_of_stops (stops_destroys i) (hcloud i) he

/-- And so do all of them together. -/
theorem destroyAsks_of_mem_jointLog (hrecord : ∀ i, (requests i).record = record)
    (hcloud : ∀ i, service.catalog.cloud (requests i).provider = .ok .amazon)
    {e : surroundings.Entry} (he : e ∈ (service.destroys requests w).jointLog answer schedule) :
    DestroyAsks record ((service.destroys requests w).jointLog answer schedule) e.1 := by
  obtain ⟨i, hi⟩ := Fleet.mem_jointLog_iff.mp he
  exact (destroyAsks_of_mem_log hrecord hcloud hi).mono fun e he =>
    Fleet.mem_jointLog_iff.mpr ⟨i, he⟩

/-- What exists in the end is what existed at the start and none of them has removed. -/
theorem has_after_destroys (hatomic : ∀ i, Atomic contents (answer i))
    (hrecord : ∀ i, (requests i).record = record)
    (hcloud : ∀ i, service.catalog.cloud (requests i).provider = .ok .amazon) {x : Resource} :
    (contents ((service.destroys requests w).after answer schedule).world).has x = true ↔
      (contents w).has x = true ∧
        ¬ ∃ i, ∃ e ∈ (service.destroys requests w).log answer schedule i, Removes x e := by
  rw [Fleet.contents_after hatomic, Holdings.has_after_iff fun e he =>
    (destroyAsks_of_mem_jointLog hrecord hcloud he).onlyRemoves]
  refine and_congr_right fun _ => ⟨fun hnot ⟨i, e, he, hr⟩ => ?_, fun hnot e he hr => hnot ?_⟩
  · exact hnot e (Fleet.mem_jointLog_iff.mpr ⟨i, he⟩) hr
  · obtain ⟨i, hi⟩ := Fleet.mem_jointLog_iff.mp he
    exact ⟨i, e, hi, hr⟩

/-- If one of them is over and none of its calls has failed then nothing is left to remove, whatever
has become of the others. -/
theorem done_of_value? {superKey : String} (hrecord : ∀ i, (requests i).record = record)
    (hsuperKey : ∀ i, (requests i).superKey = superKey)
    (hcloud : ∀ i, service.catalog.cloud (requests i).provider = .ok .amazon)
    (hcred : ∀ i, ∀ c ∈ ((service.destroys requests w).log answer schedule i).filterMap fetched?,
      Interchangeable c cred) {i : ι} {result : Except Error Unit}
    (hvalue : (((service.destroys requests w).after answer schedule).runs i).value? = some result)
    (hs : ∀ e ∈ (service.destroys requests w).log answer schedule i, Succeeded e) :
    result = verdict record superKey cred ∧
      DestroyDone record cred ((service.destroys requests w).jointLog answer schedule) := by
  have hstops : (service.destroyRun (requests i)).Stops _ _ (.value result) :=
    Run.stop_of_value? hvalue ▸ stops_destroys i
  obtain ⟨hresult, hdone⟩ := done_of_stops hstops (hcloud i) hs (hcred i)
  rw [hrecord, hsuperKey] at hresult
  rw [hrecord] at hdone
  refine ⟨hresult, fun e he => destroyAsks_of_mem_jointLog hrecord hcloud he, fun c hc => ?_,
    fun hcomplete x hx => ?_⟩
  · obtain ⟨e, he, hf⟩ := List.mem_filterMap.mp hc
    obtain ⟨j, hj⟩ := Fleet.mem_jointLog_iff.mp he
    exact hcred j c (List.mem_filterMap.mpr ⟨e, hj, hf⟩)
  · obtain ⟨e, he, hr⟩ := hdone.removed hcomplete x hx
    exact ⟨e, Fleet.mem_jointLog_iff.mpr ⟨i, he⟩, hr⟩

/-- **Redelivered destroy requests converge**, in whatever order their questions are answered and
whatever fails. The requests are for one record of an Amazon account.

* What exists in the end is what existed at the start and was not removed by a successful call.
* What the record does not name is as it was in the beginning.
* If no call of a run has failed then its result, once it is done, is that of any run alone in which
  no call fails, and what exists is what such a run leaves: what the record names is gone, if the
  credential was complete. This takes that all fetch credentials between which they make no
  difference.
* Taking down is idempotent: after a first time, in which calls may have failed, a second time
  without failures leaves and reports what it would have left and reported alone. -/
theorem destroyRuns_converge (hatomic : ∀ i, Atomic contents (answer i)) (service : Service)
    (requests : ι → Request.Destroy) (record : Record) (superKey : String)
    (hrecord : ∀ i, (requests i).record = record)
    (hsuperKey : ∀ i, (requests i).superKey = superKey)
    (hcloud : ∀ i, service.catalog.cloud (requests i).provider = .ok .amazon) (w : ω)
    (schedule : List ι) :
    let start := service.destroys requests w
    let later := start.after answer schedule
    let log := start.log answer schedule
    (∀ x, (contents later.world).has x = true ↔
      (contents w).has x = true ∧ ¬ ∃ i, ∃ e ∈ log i, Removes x e) ∧
    (∀ x, ¬ Amazon.Names record x → (contents later.world).has x = (contents w).has x) ∧
    (∀ cred, (∀ i, ∀ c ∈ (log i).filterMap fetched?, Interchangeable c cred) →
      ∀ i result, (later.runs i).value? = some result → (∀ e ∈ log i, Succeeded e) →
        result = verdict record superKey cred ∧
        (∀ x, (contents later.world).has x = true ↔
          (contents w).has x = true ∧ ¬ (cred.isComplete = true ∧ Amazon.Names record x)) ∧
        ∀ k unfailing fresh, Atomic contents unfailing → contents fresh = contents w →
          let alone := service.destroyRun (requests k)
          (∀ e ∈ alone.log unfailing fresh, Succeeded e) →
          (∀ c ∈ (alone.log unfailing fresh).filterMap fetched?, Interchangeable c cred) →
            result = (alone.exec unfailing fresh).1.2 ∧
              contents later.world = contents (alone.exec unfailing fresh).2) ∧
    ∀ a t t' t'' first again once errors errors' errors'',
      (Amazon.takeDown a).Stops first t (.value errors) →
      (Amazon.takeDown t).Stops again t' (.value errors') →
      (Amazon.takeDown a).Stops once t'' (.value errors'') →
      (∀ e ∈ again.map Event.entry, ¬ Failed e) → (∀ e ∈ once.map Event.entry, ¬ Failed e) →
        errors' = errors'' ∧ ∀ now : Holdings,
          (now.after (first.map Event.entry)).after (again.map Event.entry) =
            now.after (once.map Event.entry) := by
  intro start later log
  have hcontents : contents later.world = (contents w).after (start.jointLog answer schedule) :=
    Fleet.contents_after hatomic
  refine ⟨fun x => has_after_destroys hatomic hrecord hcloud, fun x hx => ?_,
    fun cred hcred i result hvalue hs => ?_, fun _ _ _ _ _ _ _ _ _ _ h h' h'' hagain honce =>
      Amazon.takeDown_again h h' h'' hagain honce⟩
  · rw [Bool.eq_iff_iff, has_after_destroys hatomic hrecord hcloud]
    refine and_iff_left fun ⟨i, e, he, hr⟩ => hx ?_
    exact ((destroyAsks_of_mem_log hrecord hcloud he).of_removes hr).1
  · obtain ⟨hresult, hdone⟩ := done_of_value? hrecord hsuperKey hcloud hcred hvalue hs
    refine ⟨hresult, fun x => hcontents ▸ hdone.has_after_iff, ?_⟩
    intro k unfailing fresh hunfailing hfresh alone hsalone hcredalone
    obtain ⟨hresult', hdone'⟩ :=
      done_of_stops (Run.stops_exec unfailing fresh alone) (hcloud k) hsalone hcredalone
    rw [hrecord, hsuperKey] at hresult'
    rw [hrecord] at hdone'
    refine ⟨hresult.trans hresult'.symm, ?_⟩
    rw [hcontents, hunfailing.exec, hfresh]
    exact hdone.after_eq hdone' (contents w)

/-! ## A run -/

/-- An account in which a role was left, and where the first call to delete a role is refused. -/
def roleLeft : World :=
  { refusing "" with
    holdings := (refusing "").holdings.add (.role "redhat-billing-role-0f1e2d3c")
    faults := [⟨"delete_role", some 1, 0, some (.cause (Cause.of "denied"))⟩] }

/-- Two deliveries of the request to destroy what is left. -/
def delivered : Fleet surroundings.timed Bool Application (Except Error Unit) World :=
  trial.destroys (fun _ => leftover) roleLeft

/-- They take turns. -/
def deliveryTurns : List Bool := (List.replicate 10 [true, false]).flatten

/-- Both of them in the end. -/
def deliveredTwice : Fleet surroundings.timed Bool Application (Except Error Unit) World :=
  delivered.after (fun _ => World.answer) deliveryTurns

/-- The account without that fault. -/
def roleLeftFaultless : World := { roleLeft with faults := [] }

/-- The role that one of them could not delete is deleted by the other. -/
theorem role_deleted_by_redelivery :
    (∃ failure, (deliveredTwice.runs true).value? = some (.error failure)) ∧
      (deliveredTwice.runs false).value? = some (.ok ()) ∧
      deliveredTwice.world.holdings.has (.role "redhat-billing-role-0f1e2d3c") = false ∧
      deliveredTwice.world.holdings =
        ((trial.destroyRun leftover).exec World.answer roleLeftFaultless).2.holdings := by
  obtain ⟨-, -, hdone, -⟩ := destroyRuns_converge (fun _ : Bool => atomic_world) trial
    (fun _ => leftover) leftover.record leftover.superKey (fun _ => rfl) (fun _ => rfl)
    (fun _ => rfl) roleLeft deliveryTurns
  have hrefused : ∃ failure, (deliveredTwice.runs true).value? = some (.error failure) := by
    have h : (deliveredTwice.runs true).value?.map Except.isOk = some false := by decide +kernel
    obtain ⟨failure | _, hvalue, hfails⟩ := Option.map_eq_some_iff.mp h
    · exact ⟨failure, hvalue⟩
    · cases hfails
  have hdeleted : (deliveredTwice.runs false).value? = some (.ok ()) := by
    have h : (deliveredTwice.runs false).value?.map Except.isOk = some true := by decide +kernel
    obtain ⟨_ | _, hvalue, hsucceeds⟩ := Option.map_eq_some_iff.mp h
    · cases hsucceeds
    · exact hvalue
  have hcred : ∀ i, ∀ c ∈ (delivered.log (fun _ => World.answer) deliveryTurns i).filterMap
      fetched?, Interchangeable c roleLeft.credential := by
    intro i
    cases i <;> decide +kernel
  have hs : ∀ e ∈ delivered.log (fun _ => World.answer) deliveryTurns false, Succeeded e := by
    decide +kernel
  obtain ⟨-, -, halone⟩ := hdone roleLeft.credential hcred false (.ok ()) hdeleted hs
  refine ⟨hrefused, hdeleted, by decide +kernel, ?_⟩
  exact (halone false World.answer roleLeftFaultless atomic_world rfl (by decide +kernel)
    (by decide +kernel)).2

end Service

end CloudGrant
