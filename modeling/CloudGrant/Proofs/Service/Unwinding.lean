import CloudGrant.Proofs.Amazon.Ledger
import CloudGrant.Proofs.Service.Course

/-!
# A create request that failed leaves nothing behind

At every point where the work of a create request can fail or be cut short, the record keeps track
of the account (`Followed`). Taking down consumes that: if no call of it fails then the account is
as it was before (`createRun_error_restores`), whatever failed before and whenever the deadline
passed.
-/

namespace CloudGrant

open Interface Simulation

namespace Service

/-- The application of a request keeps track of the account, and once something is recorded it has
what it needs to be taken down. -/
structure Followed (arnOf : String → String) (before now : Holdings) (request : Request.Create)
    (a : Application) : Prop where
  tracked : Amazon.Tracked arnOf before now a
  request : a.request = request
  armed : (∀ name, a.record.has name = false) ∨
    (∃ keyId secret, a.provider = some (.amazon keyId secret)) ∧ before.Fresh arnOf a.guid

variable {service : Service} {request : Request.Create} {arnOf : String → String}
  {before now : Holdings} {a t u : Application} {l : List surroundings.Event}

theorem Followed.congr {b : Application} (h : Followed arnOf before now request a)
    (hb : ∃ open?, b = { a with inSession := open? }) : Followed arnOf before now request b := by
  obtain ⟨_, rfl⟩ := hb
  exact ⟨h.tracked.congr rfl rfl, h.request, h.armed⟩

/-- What is relied on of a log is relied on of what was answered. -/
theorem namesPolicies_of_reliable {log : List surroundings.Entry}
    (hr : Reliable arnOf before log) (hl : ∀ e ∈ l, Event.entry e ∈ log) :
    Amazon.NamesPolicies arnOf l :=
  fun name document arn hm => hr.arn name document arn (hl _ hm)

theorem after_quiet (hl : ∀ e ∈ l, IsQuiet e.1) : now.after (l.map Event.entry) = now := by
  refine Holdings.after_of_not_isCloud fun e he => ?_
  obtain ⟨v, hv, rfl⟩ := List.mem_map.mp he
  exact (hl v hv).1

/-- A stop at which a run can be cut short without any effect on the clouds. -/
def Idle {α : Type} (x : Stop surroundings α) : Prop :=
  ∀ q, x = .question q → ∀ h : Holdings, h.afterEntry ⟨q, none⟩ = h

theorem idle_value {α : Type} (v : α) : Idle (.value v) := by
  intro q hq
  cases hq

theorem idle_of_quiet {α : Type} {x : Stop surroundings α} (h : ∀ q, x = .question q → IsQuiet q) :
    Idle x := fun q hq _ => Holdings.afterEntry_of_not_isCloud (h q hq).1

theorem idle_of_isMaking {α : Type} {x : Stop surroundings α}
    (h : ∀ q, x = .question q → Amazon.IsMaking q) : Idle x := by
  intro q hq _
  obtain ⟨c, rfl, -⟩ := h q hq
  rfl

/-- Making the resources of a create request is followed, wherever it stops. -/
theorem followed_provision {keyId secret : String} {x : Stop surroundings (Except Error Unit)}
    (h : ((Provider.amazon keyId secret).provision
      (attached request (.amazon keyId secret))).Stops l t x)
    (hd : (request.steps.map Step.name).Nodup) {log : List surroundings.Entry}
    (hr : Reliable arnOf before log) (hl : ∀ e ∈ l, Event.entry e ∈ log) :
    Followed arnOf before (before.after (l.map Event.entry)) request t ∧ Idle x := by
  have hempty : ∀ name, Record.empty.has name = false := fun _ => rfl
  rcases stops_provider_provision h with ⟨rfl, rfl, rfl⟩ | ⟨guid, l', rfl, h'⟩
  · refine ⟨⟨Amazon.tracked_of_not_has hempty, rfl, .inl hempty⟩, idle_of_quiet fun q hq => ?_⟩
    cases hq
    exact ⟨rfl, rfl⟩
  -- from here on the guid is fixed, and the record grows step by step
  have hguid : before.Fresh arnOf guid := hr.fresh guid (hl ⟨.guid, guid⟩ List.mem_cons_self)
  have harn : Amazon.NamesPolicies arnOf l' :=
    namesPolicies_of_reliable hr fun e he => hl e (List.mem_cons_of_mem _ he)
  have htrack : Amazon.Tracked arnOf before (before.after (l'.map Event.entry)) t :=
    Amazon.tracked_provision h' hd (Amazon.tracked_of_not_has hempty) hempty harn
  have hframe := Amazon.frame_provision h'
  refine ⟨⟨htrack, ?_, .inr ⟨⟨keyId, secret, ?_⟩, ?_⟩⟩,
    idle_of_isMaking (Amazon.asks_provision h').2⟩
  · rw [hframe]
    rfl
  · rw [hframe]
    rfl
  · rw [hframe]
    exact hguid

/-- **The work of a create request is followed, wherever it stops.** -/
theorem followed_work {x : Stop surroundings (Except Error Unit)}
    (h : (service.provisionAndAnnounce (Application.new request "")).Stops l t x)
    (hcloud : service.catalog.cloud request.provider = .ok .amazon)
    (hd : (request.steps.map Step.name).Nodup) {log : List surroundings.Entry}
    (hr : Reliable arnOf before log) (hl : ∀ e ∈ l, Event.entry e ∈ log) :
    Followed arnOf before (before.after (l.map Event.entry)) request t ∧ Idle x := by
  have hempty : ∀ name, Record.empty.has name = false := fun _ => rfl
  have hnew : Followed arnOf before before request (Application.new request "") :=
    ⟨Amazon.tracked_of_not_has hempty, rfl, .inl hempty⟩
  cases working_of_stops h with
  | @fetching _ _ q hat =>
    rw [hat.eq_of_not_ok (by simp), after_quiet hat.quiet.1]
    refine ⟨hnew, idle_of_quiet fun q' hq' => ?_⟩
    cases hq'
    exact hat.quiet.2 q rfl
  | unattached hat =>
    rw [hat.eq_of_not_ok (by simp), after_quiet hat.quiet.1]
    exact ⟨hnew, idle_value _⟩
  | @provisioning cloud c p l _ _ hname hp hmake _ =>
    have hamazon : cloud = .amazon := Except.ok.inj (hname.symm.trans hcloud)
    subst hamazon
    cases hp
    rw [List.map_append, Holdings.after_append, after_quiet quiet_attachment]
    exact followed_provision hmake hd hr fun e he => hl e (List.mem_append_right _ he)
  | @announcing cloud c p l l' u _ _ hname hp hmake ha =>
    have hamazon : cloud = .amazon := Except.ok.inj (hname.symm.trans hcloud)
    subst hamazon
    cases hp
    obtain ⟨hu, -⟩ := followed_provision hmake hd hr fun e he =>
      hl e (List.mem_append_left _ (List.mem_append_right _ he))
    obtain ⟨hannounce, hx⟩ := asks_settleAndAnnounce ha
    have ht : t = u := keeps_settleAndAnnounce ha
    rw [ht, List.map_append, List.map_append, Holdings.after_append, Holdings.after_append,
      after_quiet quiet_attachment, after_quiet hannounce]
    exact ⟨hu, idle_of_quiet hx⟩

/-- The work of a create request is followed to its end, also if it is cut short. -/
theorem followed_ended {work log : List surroundings.Entry}
    {r : Except Error (Except Error Unit)}
    (h : Ended service service.provisionAndAnnounce (Application.new request "") work t r)
    (hcloud : service.catalog.cloud request.provider = .ok .amazon)
    (hd : (request.steps.map Step.name).Nodup)
    (hr : Reliable arnOf before log) (hl : ∀ e ∈ work, e ∈ log) :
    Followed arnOf before (before.after work) request t := by
  cases h with
  | done h =>
    exact (followed_work h hcloud hd hr fun e he => hl _ (List.mem_map_of_mem he)).1
  | @cut l₁ l₂ u _ q h hrel =>
    obtain ⟨hu, hidle⟩ := followed_work h hcloud hd hr fun e he =>
      hl _ (List.mem_append_left _ (List.mem_map_of_mem he))
    obtain ⟨hclose, -, ht⟩ := Azure.stops_release hrel
    have hclosed : ∀ now : Holdings, now.after (l₂.map Event.entry) = now := by
      intro now
      refine Holdings.after_eq_self fun e he _ => ?_
      obtain ⟨v, hv, rfl⟩ := List.mem_map.mp he
      obtain ⟨p, reply⟩ := v
      cases hclose _ hv
      cases reply <;> rfl
    rw [Holdings.after_append, Holdings.after_cons, hidle q rfl, hclosed]
    exact hu.congr ⟨false, ht () rfl⟩

/-! ## Taking down -/

/-- What is recorded was not there before. -/
theorem Followed.new (h : Followed arnOf before now request a) :
    ∀ x, Amazon.Names a.record x → before.has x = false := by
  intro x hx
  rcases h.armed with hnone | ⟨-, hfresh⟩
  · obtain ⟨kind, _, hkind, -⟩ := hx
    rw [hnone] at hkind
    cases hkind
  · exact h.tracked.new hfresh hx

/-- What is recorded is taken down with the client that made it. -/
theorem Followed.undone {errors : List Error} (h : Followed arnOf before now request a)
    (he : a.record.isEmpty = false) (hs : (service.takeDown a).Stops l t (.value errors)) :
    t = a ∧ Amazon.Undone a.record (Amazon.toUndo a.record) l errors := by
  rcases h.armed with hnone | ⟨⟨keyId, secret, hp⟩, -⟩
  · rw [Amazon.isEmpty_iff_not_has.mpr hnone] at he
    cases he
  · exact Amazon.undone_of_takeDown (stops_takeDown_of_provider hp hs)

/-- The clean-up after a failure restores what was there before, if nothing that is to be taken away
cannot be. -/
theorem CreateEnds.restored {log : List surroundings.Entry} {failure : Error}
    (h : CreateEnds service request log t (.error failure))
    (hcloud : service.catalog.cloud request.provider = .ok .amazon)
    (hd : (request.steps.map Step.name).Nodup) (hr : Reliable arnOf before log)
    (hc : ∀ e ∈ log, Question.compensates e.1 = true → ¬ Failed e) :
    before.after log = before := by
  cases h with
  | @failed work l u _ r _ hwork _ hclean =>
    -- at the point of failure the record keeps track, whatever the failure was
    have hu : Followed arnOf before (before.after work) request u :=
      followed_ended hwork hcloud hd hr fun e he => List.mem_append_left _ he
    rw [Holdings.after_append]
    rcases stops_cleanUp hclean with ⟨hempty, -, hm⟩ | ⟨errors, l₁, l₂, hsome, rfl, hdown, hm⟩
    · rw [Holdings.after_of_not_isCloud hm.not_isCloud]
      exact hu.tracked.eq_before (Amazon.isEmpty_iff_not_has.mp hempty)
    · obtain ⟨-, hundone⟩ := hu.undone hsome hdown
      have hl₁ : ∀ e ∈ l₁.map Event.entry, ¬ Failed e := by
        intro e he
        obtain ⟨v, hv, rfl⟩ := List.mem_map.mp he
        refine hc _ ?_ (hundone.compensates v hv)
        rw [List.map_append]
        exact List.mem_append_right _ (List.mem_append_left _ he)
      rw [List.map_append, Holdings.after_append, (hu.tracked.restored hu.new hundone hl₁).2]
      exact Holdings.after_of_not_isCloud hm.not_isCloud

variable {ω : Type}

/-- **A create request that failed leaves nothing behind** in an Amazon account, if nothing that was
to be taken away could not be: whatever failed, and whenever the deadline passed. -/
theorem createRun_error_restores
    (answer : ω → (q : surroundings.timed.Request) → surroundings.timed.Reply q × ω) (w : ω)
    (hcloud : service.catalog.cloud request.provider = .ok .amazon)
    (hd : (request.steps.map Step.name).Nodup)
    (hr : Reliable arnOf before ((service.createRun request).log answer w)) {failure : Error}
    (hf : ((service.createRun request).exec answer w).1.2 = .error failure)
    (hc : ∀ e ∈ (service.createRun request).log answer w,
      Question.compensates e.1 = true → ¬ Failed e) :
    before.after ((service.createRun request).log answer w) = before := by
  have hend : CreateEnds service request _ _ _ := createRun_ends answer w request
  rw [hf] at hend
  exact hend.restored hcloud hd hr hc

/-! ## A run -/

/-- Both clouds, a short pause, and a minute for each request. -/
def trial : Service := ⟨Catalog.standard, none, 5, 60000⟩

/-- A bucket, and a role that is bound to a policy. -/
def grant : Request.Create :=
  { Request.Create.blank with
    applicationType := "/apps/billing"
    provider := "amazon"
    steps :=
      [.plain 1 "s3" "", .plain 2 "policy" "", .plain 3 "role" "", .plain 4 "bind_role" ""] }

/-- An account with a bucket in it, where calls of a name are refused. -/
def refusing (call : String) : World where
  clock := 0
  holdings := Holdings.empty.add (.bucket "kept")
  faults := [⟨call, none, 0, some (.cause (Cause.of "denied"))⟩]
  counts := Dict.empty
  guids := ["0f1e2d3c"]
  drawn := 0
  credential := ⟨"1", "", "user", "secret", .null⟩
  subscription := ""
  log := []

theorem fresh_refusing (call : String) :
    (refusing call).holdings.Fresh (arn "policy") "0f1e2d3c" := by
  intro name r hc hn
  have hne : r ≠ .bucket "kept" := by
    rintro rfl
    cases hn
    exact absurd hc (by unfold Carries; decide +kernel)
  rw [refusing, Holdings.has_add, decide_eq_false hne]
  rfl

/-- The binding is refused after the bucket, the policy and the role were made. -/
theorem restored_after_refused_binding :
    ∃ failure, ((trial.createRun grant).exec World.answer (refusing "attach_role_policy")).1.2 =
        .error failure ∧
      (refusing "attach_role_policy").holdings.after
          ((trial.createRun grant).log World.answer (refusing "attach_role_policy")) =
        (refusing "attach_role_policy").holdings := by
  have hguids : ((trial.createRun grant).log World.answer (refusing "attach_role_policy")).filterMap
      drawn? = ["0f1e2d3c"] := by decide +kernel
  have hr : Reliable (arn "policy") (refusing "attach_role_policy").holdings
      ((trial.createRun grant).log World.answer (refusing "attach_role_policy")) := by
    refine reliable_log fun guid hg => ?_
    rw [hguids] at hg
    cases List.mem_singleton.mp hg
    exact fresh_refusing _
  have hfails : ((trial.createRun grant).exec World.answer
      (refusing "attach_role_policy")).1.2.isOk = false := by decide +kernel
  cases hf : ((trial.createRun grant).exec World.answer (refusing "attach_role_policy")).1.2 with
  | ok _ =>
    rw [hf] at hfails
    cases hfails
  | error failure =>
    exact ⟨failure, rfl, createRun_error_restores World.answer _ rfl (by decide) hr hf
      (by decide +kernel)⟩

end Service

end CloudGrant
