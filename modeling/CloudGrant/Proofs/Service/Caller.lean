import CloudGrant.Proofs.Service.Discipline

/-!
# On whose behalf the inventory is asked

Whatever a request comes to, each of its calls to the inventory is made on behalf of the caller that
the request names (`createRun_isFor`, `destroyRun_isFor`): when the credential is fetched, when the
application is announced, and when it is marked as unavailable.
-/

namespace CloudGrant

theorem Question.isFor_of_isCloud {caller : Caller} {q : Question} (h : q.isCloud = true) :
    q.IsFor caller := by
  cases q with
  | inventory c call => cases h
  | _ => trivial

/-- An application is that of a request. -/
def Application.IsOf (request : Request.Create) (a : Application) : Prop := a.request = request

variable {request : Request.Create} {caller : Caller}

namespace Provider

variable {p : Provider}

theorem isFor_provision :
    p.provision.Throughout (Question.IsFor caller) (Application.IsOf request) := by
  refine Program.throughout_bind (Program.throughout_ask trivial) fun guid => ?_
  refine Program.throughout_bind (Program.throughout_modify fun _ h => h) fun _ => ?_
  cases p with
  | amazon keyId secret =>
    refine Program.throughout_of_asks (Amazon.asks_provision.mono fun q hq => ?_) ?_
    · exact Question.isFor_of_isCloud hq.isForging.1
    · intro s l t x h
      rw [Amazon.frame_provision h]
  | azure login template =>
    refine Program.throughout_of_asks (Azure.asks_provision.mono fun q hq => ?_) ?_
    · exact Question.isFor_of_isCloud hq.1
    · intro s l t x h
      exact congrArg (·.2.1) (Azure.keeps_provision h)

theorem isFor_takeDown :
    p.takeDown.Throughout (Question.IsFor caller) (Application.IsOf request) := by
  refine Program.throughout_of_asks (asks_takeDown.mono fun _ => Question.isFor_of_isCloud) ?_
  intro s l t x h
  cases p with
  | amazon keyId secret => exact congrArg Application.request (Amazon.keeps_takeDown h)
  | azure login template =>
    have hapart : Azure.apart t = Azure.apart s := Azure.keeps_takeDown h
    exact (congrArg Application.request hapart :)

end Provider

/-- The service keeps to the caller of the request. -/
theorem caller_discipline (request : Request.Create) :
    Discipline request (Question.IsFor request.caller) (Application.IsOf request) where
  request_eq _ ha := ha
  attach _ _ ha := ha
  release _ ha := ha
  quiet _ _ hq := hq
  close := trivial
  provision _ := Provider.isFor_provision
  takeDown _ := Provider.isFor_takeDown

namespace Service

/-- **A create request asks the inventory for its own caller alone.** -/
theorem createRun_isFor (service : Service) (request : Request.Create) :
    (service.createRun request).Throughout (Run.Timeless (Question.IsFor request.caller))
      (Application.IsOf request) :=
  (caller_discipline request).createRun service rfl

/-- **A destroy request asks the inventory for its own caller alone**, which has no account. -/
theorem destroyRun_isFor (service : Service) (request : Request.Destroy) :
    (service.destroyRun request).Throughout
      (Run.Timeless (Question.IsFor ⟨request.identity, request.orgId, ""⟩))
      (Application.IsOf (Application.ofDestroy request).request) :=
  (caller_discipline (Application.ofDestroy request).request).destroyRun service rfl

end Service

end CloudGrant
