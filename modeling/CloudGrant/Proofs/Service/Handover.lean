import CloudGrant.Proofs.Service.Outcome
import CloudGrant.Proofs.Service.Unwinding
import CloudGrant.Proofs.Wire

/-!
# What is handed to the inventory suffices to clean up

The application patch that a create request sends last carries the record of what exists by then:
all of it if the application was announced, and after a failure what the teardown left. From the
text of that data a destroy request can be put together (`destroyBody`), and a run of it that
nothing hinders leaves the account as it was before the create request (`createRun_handover`).

Where it stops, the create request is followed as for a failure (`Followed`). Two things are added
here: which patch is the last, and what an unhindered destroy request comes to.
-/

namespace CloudGrant

open Interface Simulation

/-! ## The last patch -/

/-- The patch of an application in an entry, with its answer. -/
def patch? : surroundings.Entry →
    Option (Inventory.ApplicationPatch × Option (Except InventoryError Unit))
  | ⟨.inventory _ (.patchApplication _ patch), r⟩ => some (patch, r)
  | _ => none

/-- The last patch of an application in a log, with its answer. -/
def lastPatch? (log : List surroundings.Entry) :
    Option (Inventory.ApplicationPatch × Option (Except InventoryError Unit)) :=
  log.reverse.findSome? patch?

theorem lastPatch?_append (log log' : List surroundings.Entry) :
    lastPatch? (log ++ log') = (lastPatch? log').or (lastPatch? log) := by
  unfold lastPatch?
  rw [List.reverse_append, List.findSome?_append]

/-! ## The data that is handed over -/

namespace Application

theorem reads_superKeyData (a : Application) (depth : Nat) :
    Json.Reads Json.Decoder.value (depth + 4) a.superKeyData a.superKeyData := by
  have hkeys : ["guid", "provider", "steps"].Pairwise (· < ·) := by decide
  refine Json.reads_value_object (ascending_iff.mpr hkeys) ?_
  simp only [List.forall_mem_cons]
  exact ⟨Json.reads_value_text _ _, Json.reads_value_text _ _,
    Wire.reads_value_record a.record depth, by simp⟩

/-- The data is read back from its text as it was. -/
theorem parse_extraPayload (a : Application) :
    Json.Value.parse a.extraPayload.toBytes = .ok a.extraPayload := by
  refine Json.Reads.decode ?_
  rcases a.extraPayload_cases with ⟨-, h⟩ | ⟨bucket, -, h⟩
  · rw [h]
    refine Json.reads_value_object (List.pairwise_singleton _ _) ?_
    simp only [List.forall_mem_cons]
    exact ⟨a.reads_superKeyData _, by simp⟩
  · have hkeys : ["_superkey", "bucket"].Pairwise (· < ·) := by decide
    rw [h]
    refine Json.reads_value_object (ascending_iff.mpr hkeys) ?_
    simp only [List.forall_mem_cons]
    exact ⟨a.reads_superKeyData _, Json.reads_value_text _ _, by simp⟩

end Application

/-- The destroy request that is put together from what was kept of a create request. -/
def destroyBody (request : Request.Create) (identity orgId : String) (superKey : Json.Value) :
    Json.Value :=
  .object
    [ ("identity_header", .text identity)
    , ("org_id_header", .text orgId)
    , ("tenant_id", .text request.tenant)
    , ("super_key", .text request.superKey)
    , ("guid", (superKey.member? "guid").getD .null)
    , ("provider", (superKey.member? "provider").getD .null)
    , ("steps_completed", (superKey.member? "steps").getD .null) ]

/-- It is the request to take down what the application holds. -/
theorem decode_destroyBody (request : Request.Create) (identity orgId : String) (a : Application) :
    Json.decode Wire.destroy (destroyBody request identity orgId a.superKeyData).toBytes =
      .ok ⟨identity, orgId, request.tenant, request.superKey, a.guid, a.request.provider,
        a.record⟩ :=
  Wire.decode_destroy
    ⟨identity, orgId, request.tenant, request.superKey, a.guid, a.request.provider, a.record⟩

namespace Service

variable {service : Service} {request : Request.Create} {arnOf : String → String}
  {before now : Holdings} {a t : Application} {l : List surroundings.Event}
  {log : List surroundings.Entry} {ω : Type}

/-! ## What is handed over -/

/-- The announcement patches an application once, with the data of its product. -/
theorem Delivered.lastPatch (h : Delivered service request a log) :
    ∃ product, a.product = some product ∧
      lastPatch? log = some (⟨none, none, some product.extra⟩, some (.ok ())) := by
  obtain ⟨-, -, -, hproduct, -⟩ := h
  refine ⟨_, hproduct, ?_⟩
  rw [List.map_append, List.map_append, List.map_append, lastPatch?_append, lastPatch?_append]
  rfl

theorem Marking.lastPatch {failure : Error} {extra : Json.Value}
    (h : Marking request failure extra l) :
    ∃ r, lastPatch? (l.map Event.entry) = some (marking request failure extra, some r) := by
  cases h with
  | rejected e => exact ⟨.error e, rfl⟩
  | accepted r => exact ⟨.ok (), rfl⟩

/-- **The data of the last patch tells what has become of the account**: nothing, or what the record
in it keeps track of. -/
theorem CreateEnds.handedOver {r : Except Error Unit} (h : CreateEnds service request log t r)
    (hcloud : service.catalog.cloud request.provider = .ok .amazon)
    (hd : (request.steps.map Step.name).Nodup) (hr : Reliable arnOf before log)
    {patch : Inventory.ApplicationPatch} {reply : Option (Except InventoryError Unit)}
    (hp : lastPatch? log = some (patch, reply)) :
    (patch.extra = some (.object []) ∧ before.after log = before) ∨
      ∃ a, patch.extra = some a.extraPayload ∧
        Followed arnOf before (before.after log) request a := by
  cases h with
  | done h =>
    have hfollowed := followed_ended h hcloud hd hr fun e he => he
    cases h with
    | done hstops =>
      obtain ⟨product, hproduct, hlast⟩ := (working_of_stops hstops).delivered.lastPatch
      rw [hlast] at hp
      cases hp
      have hextra := (working_of_stops hstops).extra hproduct
      exact .inr ⟨t, congrArg some hextra, hfollowed⟩
  | @failed work l u _ r failure hwork _ hclean =>
    have hu : Followed arnOf before (before.after work) request u :=
      followed_ended hwork hcloud hd hr fun e he => List.mem_append_left _ he
    rcases stops_cleanUp hclean with ⟨hempty, -, hm⟩ | ⟨errors, l₁, l₂, hsome, rfl, hdown, hm⟩
    · obtain ⟨_, hlast⟩ := hm.lastPatch
      rw [lastPatch?_append, hlast] at hp
      cases hp
      refine .inl ⟨rfl, ?_⟩
      rw [Holdings.after_append, Holdings.after_of_not_isCloud hm.not_isCloud]
      exact hu.tracked.eq_before (Amazon.isEmpty_iff_not_has.mp hempty)
    · obtain ⟨_, hlast⟩ := hm.lastPatch
      rw [List.map_append, lastPatch?_append, lastPatch?_append, hlast] at hp
      cases hp
      -- whatever of the teardown failed, the record still keeps track
      obtain ⟨rfl, hundone⟩ := hu.undone hsome hdown
      refine .inr ⟨t, rfl, ?_, hu.request, hu.armed⟩
      rw [List.map_append, Holdings.after_append, Holdings.after_append,
        Holdings.after_of_not_isCloud hm.not_isCloud]
      exact hu.tracked.undone hu.new hundone fun kind hkind => Amazon.mem_toUndo_iff.mp hkind

/-! ## An unhindered destroy request -/

/-- The credential that was fetched, if one was. -/
def fetched? : surroundings.Entry → Option Credential
  | ⟨.inventory _ (.credential _), some (.ok c)⟩ => some c
  | _ => none

/-- Nothing stood in the way of what a log tells: each question was answered, none with a failure,
and the credential that was fetched is complete. -/
structure Unhindered (log : List surroundings.Entry) : Prop where
  succeeded : ∀ e ∈ log, Succeeded e
  complete : ∀ c ∈ log.filterMap fetched?, c.isComplete = true

/-- A teardown for a destroy request in which no call fails undoes its record with a new client, or
finds no complete credential to make one with. -/
theorem undone_of_not_failed {r : Request.Destroy} {errors : List Error}
    (hs : (service.takeDown (Application.ofDestroy r)).Stops l t (.value errors))
    (hcloud : service.catalog.cloud r.provider = .ok .amazon)
    (hok : ∀ e ∈ l.map Event.entry, ¬ Failed e) :
    ∃ l₁ l₂ c, l = l₁ ++ l₂ ∧ (∀ e ∈ l₁, IsQuiet e.1) ∧
      (l₁.map Event.entry).filterMap fetched? = [c] ∧
      if c.isComplete then Amazon.Undone r.record (Amazon.toUndo r.record) l₂ errors
      else l₂ = [] ∧ errors = [.missingCredential c.id r.superKey] := by
  unfold takeDown at hs
  rw [Program.stops_get_bind_iff] at hs
  obtain ⟨l₁, l₂, u, attached, rfl, h₁, h₂⟩ := Program.stops_bind_value_iff.mp hs
  have hat := attaching_of_stops h₁
  have hquiet := hat.quiet.1
  cases hat with
  | unsupported h => cases h.symm.trans hcloud
  | unfetched _ e => exact absurd ⟨.error e, rfl, rfl⟩ (hok _ List.mem_cons_self)
  | @incomplete _ _ c hc =>
    obtain ⟨rfl, -, rfl⟩ := Program.stops_pure_value_iff.mp h₂
    refine ⟨_, [], c, rfl, hquiet, rfl, ?_⟩
    rw [hc]
    exact ⟨rfl, rfl⟩
  | unbound h _ hp =>
    cases Except.ok.inj (h.symm.trans hcloud)
    cases hp
  | @attached _ h c hc _ hp =>
    cases Except.ok.inj (h.symm.trans hcloud)
    cases hp
    refine ⟨_, l₂, c, rfl, hquiet, rfl, ?_⟩
    rw [hc]
    exact (Amazon.undone_of_takeDown h₂).2

/-- Unhindered, a teardown for a destroy request undoes its record with a new client. -/
theorem undone_of_unhindered {r : Request.Destroy} {errors : List Error}
    (hs : (service.takeDown (Application.ofDestroy r)).Stops l t (.value errors))
    (hcloud : service.catalog.cloud r.provider = .ok .amazon)
    (hu : Unhindered (l.map Event.entry)) :
    ∃ l₁ l₂, l = l₁ ++ l₂ ∧ (∀ e ∈ l₁, IsQuiet e.1) ∧
      Amazon.Undone r.record (Amazon.toUndo r.record) l₂ errors := by
  obtain ⟨l₁, l₂, c, rfl, hquiet, hc, hend⟩ :=
    undone_of_not_failed hs hcloud fun e he => (hu.succeeded e he).not_failed
  have hcomplete : c.isComplete = true := by
    refine hu.complete c ?_
    rw [List.map_append, List.filterMap_append, hc]
    exact List.mem_cons_self
  rw [if_pos hcomplete] at hend
  exact ⟨l₁, l₂, rfl, hquiet, hend⟩

/-- **An unhindered destroy request restores what was there before**, if its record keeps track. -/
theorem destroyRun_restores {r : Request.Destroy}
    (answer : ω → (q : surroundings.timed.Request) → surroundings.timed.Reply q × ω) (w : ω)
    (hcloud : service.catalog.cloud r.provider = .ok .amazon)
    (hu : Unhindered ((service.destroyRun r).log answer w))
    (ha : Followed arnOf before now request a) (hrecord : r.record = a.record) :
    ((service.destroyRun r).exec answer w).1.2 = .ok () ∧
      now.after ((service.destroyRun r).log answer w) = before := by
  obtain ⟨result, hended, hresult⟩ :
      ∃ result, Ended service service.takeDown (Application.ofDestroy r) _ _ result ∧ _ =
        destroyed result := destroyRun_ends answer w r
  rw [hresult]
  generalize (service.destroyRun r).log answer w = log at hended hu ⊢
  cases hended with
  | @cut l₁ l₂ _ _ q _ _ =>
    -- a question that was not answered in time has not succeeded
    obtain ⟨_, hnone, -⟩ := hu.succeeded ⟨q, none⟩ (List.mem_append_right _ List.mem_cons_self)
    cases hnone
  | @done l t errors hstops =>
    obtain ⟨l₁, l₂, rfl, hquiet, hundone⟩ := undone_of_unhindered hstops hcloud hu
    rw [hrecord] at hundone
    have hok : ∀ e ∈ l₂.map Event.entry, ¬ Failed e := by
      intro e he
      refine (hu.succeeded e ?_).not_failed
      rw [List.map_append]
      exact List.mem_append_right _ he
    obtain ⟨rfl, hrestored⟩ := ha.tracked.restored ha.new hundone hok
    rw [List.map_append, Holdings.after_append, after_quiet hquiet]
    exact ⟨rfl, hrestored⟩

/-! ## Both requests together -/

/-- What is kept on an application suffices to get from what exists now to what was there before: no
more is needed if nothing is kept to take it down by, and otherwise every unhindered run of the
destroy request that is put together from it does so. -/
def Suffices (request : Request.Create) (before now : Holdings) (extra : Json.Value) : Prop :=
  match extra.member? "_superkey" with
  | none => now = before
  | some superKey => ∀ identity orgId, ∃ r,
      Json.decode Wire.destroy (destroyBody request identity orgId superKey).toBytes = .ok r ∧
        ∀ (later : Service) (ω : Type)
          (answer : ω → (q : surroundings.timed.Request) → surroundings.timed.Reply q × ω) (w : ω),
          later.catalog.cloud request.provider = .ok .amazon →
            Unhindered ((later.destroyRun r).log answer w) →
              ((later.destroyRun r).exec answer w).1.2 = .ok () ∧
                now.after ((later.destroyRun r).log answer w) = before

/-- **What is handed to the inventory suffices to clean up later**, however a create request has
ended and whatever of its teardown failed. -/
theorem createRun_handover
    (answer : ω → (q : surroundings.timed.Request) → surroundings.timed.Reply q × ω) (w : ω)
    (hcloud : service.catalog.cloud request.provider = .ok .amazon)
    (hd : (request.steps.map Step.name).Nodup)
    (hr : Reliable arnOf before ((service.createRun request).log answer w))
    {patch : Inventory.ApplicationPatch}
    (hp : lastPatch? ((service.createRun request).log answer w) = some (patch, some (.ok ()))) :
    ∃ extra, patch.extra = some extra ∧ Json.Value.parse extra.toBytes = .ok extra ∧
      Suffices request before (before.after ((service.createRun request).log answer w)) extra := by
  have hend : CreateEnds service request _ _ _ := createRun_ends answer w request
  rcases hend.handedOver hcloud hd hr hp with ⟨hextra, hsame⟩ | ⟨a, hextra, ha⟩
  · exact ⟨_, hextra, (Json.reads_value_object List.Pairwise.nil (by simp)).decode, hsame⟩
  -- the destroy request is the one that takes down what `a` holds
  refine ⟨_, hextra, a.parse_extraPayload, ?_⟩
  unfold Suffices
  rw [a.member?_extraPayload]
  intro identity orgId
  refine ⟨_, decode_destroyBody request identity orgId a, fun later _ answer w hlater hu => ?_⟩
  have hprovider : later.catalog.cloud a.request.provider = .ok .amazon := by
    rw [ha.request]
    exact hlater
  exact destroyRun_restores answer w hprovider hu ha rfl

/-- An account where what was made is not found available, and the role cannot be deleted again. -/
def stuck : World :=
  { refusing "trigger_availability_check" with
    faults := (refusing "trigger_availability_check").faults ++ (refusing "delete_role").faults }

/-- The destroy request for what is then left. -/
def leftover : Request.Destroy :=
  { Request.Destroy.blank with
    guid := "0f1e2d3c"
    provider := "amazon"
    record := ⟨Dict.ofList
      [ ("bind_role", Dict.empty)
      , ("policy", Dict.ofList
          [("output", "arn:aws:iam::000000000000:policy/redhat-billing-policy-0f1e2d3c")])
      , ("role", Dict.ofList
          [ ("arn", "arn:aws:iam::000000000000:role/redhat-billing-role-0f1e2d3c")
          , ("output", "redhat-billing-role-0f1e2d3c") ])
      , ("s3", Dict.ofList [("output", "redhat-billing-bucket-0f1e2d3c")]) ]⟩ }

/-- The role that was left is deleted by a later destroy request. -/
theorem restored_after_stuck_role :
    (stuck.holdings.after ((trial.createRun grant).log World.answer stuck)).has
        (.role "redhat-billing-role-0f1e2d3c") = true ∧
      ((trial.destroyRun leftover).exec World.answer (refusing "")).1.2 = .ok () ∧
        (stuck.holdings.after ((trial.createRun grant).log World.answer stuck)).after
          ((trial.destroyRun leftover).log World.answer (refusing "")) = stuck.holdings := by
  have hguids : ((trial.createRun grant).log World.answer stuck).filterMap drawn? =
      ["0f1e2d3c"] := by decide +kernel
  have hr : Reliable (arn "policy") stuck.holdings
      ((trial.createRun grant).log World.answer stuck) := by
    refine reliable_log fun guid hg => ?_
    rw [hguids] at hg
    cases List.mem_singleton.mp hg
    exact fresh_refusing "trigger_availability_check"
  have haccepted : (lastPatch? ((trial.createRun grant).log World.answer stuck)).map
      (fun p => p.2.any Except.isOk) = some true := by decide +kernel
  have hkept : (lastPatch? ((trial.createRun grant).log World.answer stuck)).bind (fun p =>
      (p.1.extra.bind (·.member? "_superkey")).map fun superKey =>
        (destroyBody grant "" "" superKey).render) =
      some (Wire.Destroy.toJson leftover).render := by decide +kernel
  refine ⟨by decide +kernel, ?_⟩
  cases hp : lastPatch? ((trial.createRun grant).log World.answer stuck) with
  | none =>
    rw [hp] at haccepted
    cases haccepted
  | some p =>
    obtain ⟨patch, _ | _ | ⟨⟨⟩⟩⟩ := p
    all_goals rw [hp] at haccepted hkept
    · cases haccepted
    · cases haccepted
    obtain ⟨extra, hextra, -, hsuffices⟩ :=
      createRun_handover World.answer stuck rfl (by decide) hr hp
    unfold Suffices at hsuffices
    cases hsuper : extra.member? "_superkey" with
    | none => simp [hextra, hsuper] at hkept
    | some superKey =>
      simp only [hsuper] at hsuffices
      obtain ⟨r, hdecode, hlater⟩ := hsuffices "" ""
      have hrender : (destroyBody grant "" "" superKey).render =
          (Wire.Destroy.toJson leftover).render := by simpa [hextra, hsuper] using hkept
      have hleft : (.ok r : Except Json.Error Request.Destroy) = .ok leftover := by
        rw [← hdecode, Json.toBytes_eq, hrender, ← Json.toBytes_eq, Wire.decode_destroy]
      cases hleft
      exact hlater trial World World.answer (refusing "") rfl ⟨by decide +kernel, by decide +kernel⟩

end Service

end CloudGrant
