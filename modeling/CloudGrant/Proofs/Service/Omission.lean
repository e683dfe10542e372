import CloudGrant.Proofs.Amazon.Teardown
import CloudGrant.Proofs.Run.Ignoring
import CloudGrant.Proofs.Service.Access
import CloudGrant.Proofs.Service.Unwinding

/-!
# What a destroy request leaves out

A destroy request that succeeds has undone all in its record that its cloud can undo, each step by a
call that succeeded (`destroyRun_omits`); a step of an Amazon account that lacks what undoing it needs
makes the request fail. Steps of names that the cloud does not know are passed over: the request goes
the same way with and without them (`destroyRun_alongside`).
-/

namespace CloudGrant

open Interface Simulation

/-- The names of the steps that a cloud takes down. -/
def Cloud.Knows : Cloud → String → Prop
  | .amazon, name => ∃ kind : Step.Kind, kind.name = name
  | .azure, name => name = Azure.stepName

/-- The call by which a cloud undoes a step of a name, if what this needs is recorded. -/
inductive Remedies (record : Record) : Cloud → String → Question → Prop where
  | amazon {kind : Step.Kind} {u : Amazon.Undoing} (h : Amazon.remedy? record kind = some u) :
      Remedies record .amazon kind.name (.amazon u.call)
  | azure {name : String} (h : record.output? Azure.stepName "name" = some name) :
      Remedies record .azure Azure.stepName (.azure (.delete name))

/-- The application with a step noted in its record. -/
def Application.alongside (name : String) (outputs : Outputs) (a : Application) : Application :=
  { a with record := a.record.complete name outputs }

/-! ## Amazon -/

namespace Amazon

variable {record record' : Record} {kinds : List Step.Kind} {f : Application → Application}

/-- To undo a record nothing is looked at but the record. -/
theorem ignores_undoAll : (undoAll record kinds).Ignores f := by
  induction kinds with
  | nil => exact Program.ignores_pure _
  | cons kind kinds ih =>
    refine Program.ignores_bind ?_ fun _ =>
      Program.ignores_bind ih fun _ => Program.ignores_pure _
    unfold undo
    cases undoing record kind with
    | error e => exact Program.ignores_pure _
    | ok u =>
      refine Program.ignores_bind (Program.ignores_ask _) fun r => ?_
      cases r <;> exact Program.ignores_pure _

theorem undoAll_congr (h : ∀ kind ∈ kinds, undoing record' kind = undoing record kind) :
    undoAll record' kinds = undoAll record kinds := by
  induction kinds with
  | nil => rfl
  | cons kind kinds ih =>
    unfold undoAll undo
    rw [h kind List.mem_cons_self, ih fun j hj => h j (List.mem_cons_of_mem _ hj)]

/-- A step of another name is passed over. -/
theorem ignores_takeDown {name : String} {outputs : Outputs} (hn : ¬ Cloud.amazon.Knows name) :
    takeDown.Ignores (Application.alongside name outputs) := by
  have hne : ∀ kind : Step.Kind, kind.name ≠ name := fun kind h => hn ⟨kind, h⟩
  -- neither the kinds that are recorded nor the outputs that undoing them needs have changed
  refine Program.ignores_get_bind (fun _ => ignores_undoAll) fun a => ?_
  have htoUndo : toUndo (a.record.complete name outputs) = toUndo a.record :=
    List.filter_congr fun kind _ => by rw [has_complete, decide_eq_false (hne kind), Bool.false_or]
  show undoAll (a.record.complete name outputs) (toUndo (a.record.complete name outputs)) = _
  rw [htoUndo]
  exact undoAll_congr fun kind _ =>
    undoing_congr fun j _ => output?_complete_of_ne (hne j)

end Amazon

/-! ## Azure -/

namespace Azure

variable {α : Type} {login : Login} {work : Work (Except Cause α)} {name : String}
  {outputs : Outputs}

/-- Whether a session is open does not depend on the record. -/
theorem ignores_release : release.Ignores (Application.alongside name outputs) := by
  refine Program.ignores_get_bind (fun a => ?_) fun _ => rfl
  split
  · exact Program.ignores_bind (Program.ignores_ask _) fun _ =>
      Program.ignores_modify fun _ => rfl
  · exact Program.ignores_pure _

theorem ignores_inSession (hw : work.Ignores (Application.alongside name outputs)) :
    (inSession login work).Ignores (Application.alongside name outputs) := by
  have hlogout : (thenLogout work).Ignores (Application.alongside name outputs) := by
    refine Program.ignores_bind hw fun result =>
      Program.ignores_bind (Program.ignores_ask _) fun out => ?_
    cases result <;> cases out <;> exact Program.ignores_pure _
  rw [inSession_eq]
  refine Program.ignores_andThen (Program.ignores_ask _) fun _ => ?_
  refine Program.ignores_bind (Program.ignores_modify fun _ => rfl) fun _ => ?_
  rw [loggedIn_eq]
  refine Program.ignores_bind (Program.ignores_andThen (Program.ignores_ask _) fun _ => hlogout)
    fun _ => Program.ignores_bind ignores_release fun _ => Program.ignores_pure _

/-- A step of another name is passed over. -/
theorem ignores_takeDown (hn : ¬ Cloud.azure.Knows name) :
    (takeDown login).Ignores (Application.alongside name outputs) := by
  have hne : stepName ≠ name := fun h => hn h.symm
  refine Program.ignores_get_bind (fun a => ?_) fun a => ?_
  · cases a.record.output? stepName "name" with
    | none => exact Program.ignores_pure _
    | some deployment =>
      refine Program.ignores_bind (ignores_inSession (Program.ignores_ask _)) fun r => ?_
      cases r <;> exact Program.ignores_pure _
  · have houtput : (a.alongside name outputs).record.output? stepName "name" =
        a.record.output? stepName "name" := Amazon.output?_complete_of_ne hne
    rw [houtput]

end Azure

/-! ## Passing over a step -/

theorem Provider.ignores_takeDown {p : Provider} {name : String} {outputs : Outputs}
    (hn : ¬ p.cloud.Knows name) : p.takeDown.Ignores (Application.alongside name outputs) := by
  cases p with
  | amazon keyId secret => exact Amazon.ignores_takeDown hn
  | azure login template => exact Azure.ignores_takeDown hn

namespace Service

variable {service : Service} {a t : Application} {l : List surroundings.Event} {cloud : Cloud}
  {name : String} {outputs : Outputs} {request : Request.Destroy}

/-- A client is set up for the request, whatever is recorded. -/
theorem ignores_attach : service.attach.Ignores (Application.alongside name outputs) := by
  refine Program.ignores_get_bind (fun a => ?_) fun _ => rfl
  refine Program.ignores_andThen ?_ fun p =>
    Program.ignores_bind (Program.ignores_modify fun _ => rfl) fun _ => Program.ignores_pure _
  unfold provider
  cases service.catalog.cloud a.request.provider with
  | error e => exact Program.ignores_pure _
  | ok cloud =>
    refine Program.ignores_bind (Program.ignores_ask _) fun reply => ?_
    cases reply with
    | error e => exact Program.ignores_pure _
    | ok credential =>
      dsimp only
      split
      · exact Program.ignores_bind (Program.ignores_ask _) fun _ => Program.ignores_pure _
      · exact Program.ignores_pure _

/-- The client is one of the cloud that was asked for. -/
theorem cloud_of_attach {p : Provider} (hcloud : service.catalog.cloud a.request.provider = .ok cloud)
    (h : (service.attach a).Stops l t (.value (.ok p))) : p.cloud = cloud := by
  cases attaching_of_stops h with
  | attached h' _ hp =>
    cases hcloud.symm.trans h'
    exact Provider.cloud_of_ofCredential hp

theorem takeDown_alongside (hcloud : service.catalog.cloud a.request.provider = .ok cloud)
    (hn : ¬ cloud.Knows name) (ha : a.provider = none) :
    service.takeDown (a.alongside name outputs) =
      (service.takeDown a).mapState (Application.alongside name outputs) := by
  rw [takeDown_eq_onClient ha, takeDown_eq_onClient (a := a.alongside name outputs) ha]
  show (service.attach (a.alongside name outputs)).bind _ =
    ((service.attach a).bind _).mapState (Application.alongside name outputs)
  rw [ignores_attach a]
  -- which steps are known depends on the client, and that is one of the cloud that was asked for
  refine Run.mapState_bind_of_stops fun l t r h => ?_
  cases r with
  | error e => rfl
  | ok p => exact Provider.ignores_takeDown (by rwa [cloud_of_attach hcloud h]) t

/-- A deadline makes no difference. -/
theorem withinDeadline_alongside {α : Type} {work : Work α}
    (hw : work (a.alongside name outputs) =
      (work a).mapState (Application.alongside name outputs)) :
    service.withinDeadline work (a.alongside name outputs) =
      (service.withinDeadline work a).mapState (Application.alongside name outputs) := by
  show (Program.within _ _ work _).bind _ = ((Program.within _ _ work a).bind _).mapState _
  rw [Program.mapState_within hw Azure.ignores_release]
  refine Run.mapState_bind_of_stops fun _ _ r _ => ?_
  cases r <;> rfl

theorem destroy_alongside (hcloud : service.catalog.cloud a.request.provider = .ok cloud)
    (hn : ¬ cloud.Knows name) (ha : a.provider = none) :
    service.destroy (a.alongside name outputs) =
      (service.destroy a).mapState (Application.alongside name outputs) := by
  show (service.withinDeadline _ _).bind _ = ((service.withinDeadline _ a).bind _).mapState _
  rw [withinDeadline_alongside (takeDown_alongside hcloud hn ha)]
  refine Run.mapState_bind_of_stops fun _ _ outcome _ => ?_
  cases outcome with
  | error failure => rfl
  | ok failures =>
    dsimp only
    cases Error.ofFailures? failures <;> rfl

/-- **A step of a name that the cloud does not know is passed over**: with it a request goes the way
that it goes without it. -/
theorem destroyRun_alongside (hcloud : service.catalog.cloud request.provider = .ok cloud)
    (hn : ¬ cloud.Knows name) :
    service.destroyRun { request with record := request.record.complete name outputs } =
      (service.destroyRun request).mapState (Application.alongside name outputs) :=
  destroy_alongside (a := Application.ofDestroy request) hcloud hn rfl

/-! ## What is not passed over -/

theorem destroyed_eq_ok_iff {outcome : Except Error (List Error)} :
    destroyed outcome = .ok () ↔ outcome = .ok [] := by
  cases outcome with
  | error failure => simp [destroyed]
  | ok failures => cases failures <;> simp [destroyed, Error.ofFailures?]

/-- What a teardown without failures has undone. -/
structure Thorough (record : Record) (cloud : Cloud) (log : List surroundings.Entry) : Prop where
  /-- What can be undone was undone by a call that succeeded. -/
  undone : ∀ name q, record.has name = true → Remedies record cloud name q →
    ∃ r, (⟨q, some r⟩ : surroundings.Entry) ∈ log ∧ Question.fails q r = false
  /-- Nothing was in the way of undoing a step of an Amazon account. -/
  possible : cloud = .amazon → ∀ kind : Step.Kind, record.has kind.name = true →
    ∃ u, Amazon.remedy? record kind = some u

theorem thorough_amazon (h : (Amazon.takeDown a).Stops l t (.value [])) :
    Thorough a.record .amazon (l.map Event.entry) where
  undone name q hname hq := by
    cases hq with
    | amazon hu =>
      obtain ⟨u, r, hu', hmem⟩ := Amazon.undone_of_no_errors h hname
      cases hu.symm.trans hu'
      exact ⟨.ok r, List.mem_map_of_mem hmem, rfl⟩
  possible _ kind hkind := by
    obtain ⟨u, _, hu, -⟩ := Amazon.undone_of_no_errors h hkind
    exact ⟨u, hu⟩

theorem thorough_azure {login : Azure.Login} (h : (Azure.takeDown login a).Stops l t (.value [])) :
    Thorough a.record .azure (l.map Event.entry) where
  undone name q _ hq := by
    cases hq with
    | azure hd => exact ⟨.ok (), List.mem_map_of_mem (Azure.deleted_of_takeDown hd h), rfl⟩
  possible := nofun

/-- **A teardown without failures is thorough.** -/
theorem thorough_of_takeDown (hcloud : service.catalog.cloud a.request.provider = .ok cloud)
    (ha : a.provider = none) (h : (service.takeDown a).Stops l t (.value [])) :
    Thorough a.record cloud (l.map Event.entry) := by
  rw [takeDown_eq_onClient ha] at h
  obtain ⟨l₁, l₂, u, r, rfl, hattach, hdown⟩ := Program.stops_bind_value_iff.mp h
  cases r with
  | error e => cases (Program.stops_pure_value_iff.mp hdown).2.2
  | ok p =>
    obtain ⟨-, rfl⟩ := (attaching_of_stops hattach).bound
    obtain rfl := cloud_of_attach hcloud hattach
    have hthorough : Thorough a.record p.cloud (l₂.map Event.entry) := by
      cases p with
      | amazon keyId secret => exact thorough_amazon (a := { a with provider := some _ }) hdown
      | azure login template => exact thorough_azure (a := { a with provider := some _ }) hdown
    rw [List.map_append]
    refine ⟨fun name q hname hq => ?_, hthorough.possible⟩
    obtain ⟨r, hr, hsucceeds⟩ := hthorough.undone name q hname hq
    exact ⟨r, List.mem_append_right _ hr, hsucceeds⟩

theorem thorough_of_ended {log : List surroundings.Entry}
    (hcloud : service.catalog.cloud a.request.provider = .ok cloud) (ha : a.provider = none)
    (h : Ended service service.takeDown a log t (.ok [])) : Thorough a.record cloud log := by
  cases h with
  | done h => exact thorough_of_takeDown hcloud ha h

variable {ω : Type}

/-- **What a destroy request leaves out are steps of names that its cloud does not know**: they make
no difference to what is asked and returned. If the request succeeds then all others were undone that
the cloud can undo, each by a call that succeeded; and a step of an Amazon account that lacks what
undoing it needs makes the request fail. -/
theorem destroyRun_omits (service : Service) (request : Request.Destroy)
    (hcloud : service.catalog.cloud request.provider = .ok cloud)
    (answer : ω → (q : surroundings.timed.Request) → surroundings.timed.Reply q × ω) (w : ω) :
    let log := (service.destroyRun request).log answer w
    let result := ((service.destroyRun request).exec answer w).1.2
    (result = .ok () → ∀ name q, request.record.has name = true →
        Remedies request.record cloud name q →
        ∃ r, (⟨q, some r⟩ : surroundings.Entry) ∈ log ∧ Question.fails q r = false) ∧
      (cloud = .amazon → ∀ kind : Step.Kind, request.record.has kind.name = true →
        Amazon.remedy? request.record kind = none → ∃ failure, result = .error failure) ∧
      ∀ name, ¬ cloud.Knows name → ∀ outputs,
        let other := { request with record := request.record.complete name outputs }
        (service.destroyRun other).log answer w = log ∧
          ((service.destroyRun other).exec answer w).1.2 = result := by
  intro log result
  have hthorough : result = .ok () → Thorough request.record cloud log := by
    intro hresult
    obtain ⟨outcome, hended, hdestroyed⟩ := @destroyRun_ends service _ answer w request
    cases destroyed_eq_ok_iff.mp (hdestroyed.symm.trans hresult)
    exact thorough_of_ended hcloud rfl hended
  refine ⟨fun hresult => (hthorough hresult).undone, fun hc kind hkind hnone => ?_,
    fun name hn outputs => ?_⟩
  · cases hr : result with
    | error failure => exact ⟨failure, rfl⟩
    | ok _ =>
      obtain ⟨u, hu⟩ := (hthorough hr).possible hc kind hkind
      cases hnone.symm.trans hu
  · intro other
    rw [show service.destroyRun other = _ from destroyRun_alongside hcloud hn, Run.log_mapState,
      Run.exec_mapState]
    exact ⟨rfl, rfl⟩

/-! ## A stray step -/

/-- The request to destroy a bucket, with a step in its record that another cloud has noted. -/
def stray : Request.Destroy :=
  { Request.Destroy.blank with
    guid := "0f1e2d3c"
    provider := "amazon"
    record := ⟨Dict.ofList
      [ ("az-lighthouse", Dict.ofList [("name", "redhat-cloudmeter-0f1e2d3c")])
      , ("s3", Dict.ofList [("output", "kept")]) ]⟩ }

theorem stray_destroyed :
    ((trial.destroyRun stray).exec World.answer (refusing "")).1.2 = .ok () := by
  have h : ((trial.destroyRun stray).exec World.answer (refusing "")).1.2.isOk = true := by
    decide +kernel
  cases hresult : ((trial.destroyRun stray).exec World.answer (refusing "")).1.2 with
  | ok _ => rfl
  | error failure =>
    rw [hresult] at h
    cases h

/-- The bucket is deleted. -/
theorem bucket_deleted_beside_stray_step :
    ∃ r, (⟨.amazon (.deleteBucket "kept"), some r⟩ : surroundings.Entry) ∈
        (trial.destroyRun stray).log World.answer (refusing "") ∧
      Question.fails (.amazon (.deleteBucket "kept")) r = false :=
  (destroyRun_omits trial stray rfl World.answer (refusing "")).1 stray_destroyed
    Step.Kind.bucket.name _ (by decide) (.amazon (u := ⟨.deleteBucket "kept", "kept"⟩) (by rfl))

/-- **The other step is passed over**: the request succeeds, and all that it asks of a cloud is to
remove the bucket. -/
theorem stray_step_left :
    ((trial.destroyRun stray).exec World.answer (refusing "")).1.2 = .ok () ∧
      stray.record.has "az-lighthouse" = true ∧
      ∀ e ∈ (trial.destroyRun stray).log World.answer (refusing ""),
        Question.isCloud e.1 = true → Removes (.bucket "kept") e :=
  ⟨stray_destroyed, by decide, by decide +kernel⟩

end Service

end CloudGrant
