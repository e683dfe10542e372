import CloudGrant.Inventory.Announce
import CloudGrant.Provider
import CloudGrant.Run.Deadline

/-!
# The service

A create request is carried out under a deadline: a client is set up for the tenant's credential, the
resources are made, and after a pause for them to settle the application is announced. If any of that
fails or takes too long, what the record holds is taken down and the application is marked as
unavailable, **outside the deadline**; the first failure is the one that is returned.

A destroy request takes down its record under the same deadline and returns every failure. An
application can also be prepared for use elsewhere, with no deadline and no clean-up.
-/

namespace CloudGrant

/-- How the service is set up: times are in milliseconds. -/
structure Service where
  catalog : Catalog
  template : Option String
  settle : Nat
  deadline : Nat

namespace Service

/-- A client for the tenant's credential. The provider's name is looked up before the credential is
fetched. -/
def provider (service : Service) (name superKey : String) (caller : Caller) :
    Work (Except Error Provider) := do
  match service.catalog.cloud name with
  | .error e => pure (.error e)
  | .ok cloud => do
    match ← Inventory.call caller (.credential superKey) with
    | .error e => pure (.error (.inventory e))
    | .ok credential =>
      if credential.isComplete then Provider.build cloud service.template credential
      else pure (.error (.missingCredential credential.id superKey))

/-- Set up the client for the application's own request. -/
def attach (service : Service) : Work (Except Error Provider) := do
  let a ← Program.get
  Program.andThen (service.provider a.request.provider a.request.superKey a.request.caller) fun p => do
  Program.modify fun a => { a with provider := some p }
  pure (.ok p)

/-- Set up a client and make the application's resources. -/
def provision (service : Service) : Work (Except Error Unit) :=
  Program.andThen service.attach fun p => p.provision

/-- Make the resources, let them settle, and announce the application. -/
def provisionAndAnnounce (service : Service) : Work (Except Error Unit) :=
  Program.andThen service.provision fun _ => do
  if service.settle ≠ 0 then asking (.wait service.settle) else pure ()
  let announced ← Inventory.announce
  pure (announced.mapError Error.inventory)

/-- Take down what the application's record holds, with its own client or one set up for it. -/
def takeDown (service : Service) : Work (List Error) := do
  let a ← Program.get
  match a.provider with
  | some p => p.takeDown
  | none => do
    match ← service.attach with
    | .error e => pure [e]
    | .ok p => p.takeDown

/-- Carry out some work under the deadline. -/
def withinDeadline {α : Type} (service : Service) (work : Work α) :
    Program surroundings.timed Application (Except Error α) := do
  match ← Program.within service.deadline Azure.release work with
  | some a => pure (.ok a)
  | none => pure (.error (.deadline (Duration.ofMilliseconds service.deadline)))

/-- Take down what was made, and mark the application as unavailable. What goes wrong here is not
returned. -/
def cleanUp (service : Service) (request : Request.Create) (failure : Error) : Work Unit := do
  let a ← Program.get
  if a.record.isEmpty then
    let _ ← Inventory.markUnavailable request failure.message none
    pure ()
  else
    let _ ← service.takeDown
    let a ← Program.get
    let _ ← Inventory.markUnavailable request failure.message (some a)
    pure ()

/-- Carry out a create request on a fresh application. -/
def create (service : Service) (request : Request.Create) :
    Program surroundings.timed Application (Except Error Unit) := do
  let outcome ← service.withinDeadline service.provisionAndAnnounce
  match outcome.bind id with
  | .ok _ => pure (.ok ())
  | .error failure => do
    (service.cleanUp request failure).untimed
    pure (.error failure)

/-- Carry out a destroy request on its application. -/
def destroy (service : Service) : Program surroundings.timed Application (Except Error Unit) := do
  match ← service.withinDeadline service.takeDown with
  | .error failure => pure (.error failure)
  | .ok failures =>
    match Error.ofFailures? failures with
    | none => pure (.ok ())
    | some failure => pure (.error failure)

/-- Why an application could not be prepared, with what there is of it once it had a client. -/
structure Shortfall where
  progress : Option Application
  failure : Error

/-- Make an application's resources for use elsewhere: there is no deadline, and nothing is taken
down. -/
def prepare (service : Service) : Work (Except Shortfall Application) := do
  let result ← service.provision
  let a ← Program.get
  match result with
  | .ok _ => pure (.ok a)
  | .error failure => pure (.error ⟨if a.provider.isSome then some a else none, failure⟩)

/-- The run of a create request from the start. -/
def createRun (service : Service) (request : Request.Create) :
    Run surroundings.timed Application (Except Error Unit) :=
  service.create request (Application.new request "")

/-- The run of preparing an application from the start. -/
def prepareRun (service : Service) (request : Request.Create) :
    Run surroundings.timed Application (Except Shortfall Application) :=
  service.prepare.untimed (Application.new request "")

/-- The run of a destroy request from the start. -/
def destroyRun (service : Service) (request : Request.Destroy) :
    Run surroundings.timed Application (Except Error Unit) :=
  service.destroy (Application.ofDestroy request)

end Service

end CloudGrant
