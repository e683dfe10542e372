import CloudGrant.Application
import CloudGrant.Naming
import CloudGrant.Substitution

/-!
# Resources in an Amazon account

`provision` carries out the steps of a request in their order and notes each in the record as soon
as it is done; the first step that fails ends it. `takeDown` undoes what a record holds in the fixed
order of `Step.Kind.teardownOrder`: what is to be done is decided by the record alone (`undoing`), a
failure never keeps a later step from being undone, and all failures are returned.
-/

namespace CloudGrant.Amazon

/-! ## Making resources -/

/-- The bucket policy that lets the billing service write its reports. -/
def reportingPolicy : String :=
  "\x7b\n    \"Version\": \"2012-10-17\",\n    \"Statement\": [\n"
    ++ "        \x7b\n"
    ++ "            \"Effect\": \"Allow\",\n"
    ++ "            \"Principal\": \x7b\"Service\": \"billingreports.amazonaws.com\"\x7d,\n"
    ++ "            \"Action\": [\"s3:GetBucketAcl\", \"s3:GetBucketPolicy\"],\n"
    ++ "            \"Resource\": \"arn:aws:s3:::S3BUCKET\"\n"
    ++ "        \x7d,\n"
    ++ "        \x7b\n"
    ++ "            \"Effect\": \"Allow\",\n"
    ++ "            \"Principal\": \x7b\"Service\": \"billingreports.amazonaws.com\"\x7d,\n"
    ++ "            \"Action\": \"s3:PutObject\",\n"
    ++ "            \"Resource\": \"arn:aws:s3:::S3BUCKET/*\"\n"
    ++ "        \x7d\n"
    ++ "    ]\n\x7d"

/-- The payload of a bucket step that asks for the reporting policy. -/
def reportingPayload : String := "\"create_cost_policy\""

/-- Make a call for a step; the context tells what it was made for. -/
def attempt (kind : Step.Kind) (context : String) (c : Call) : Work (Except Error c.Result) := do
  let reply ← asking (.amazon c)
  pure (reply.mapError (fun cause => .stepFailed kind.name (cause.within context)))

/-- Note a step as completed. -/
def complete (kind : Step.Kind) (outputs : List (String × String)) :
    Work (Except Error Unit) := do
  Program.modify fun a => { a with record := a.record.complete kind.name (Dict.ofList outputs) }
  pure (.ok ())

/-- A step's payload with its placeholders filled. -/
def filled (payload : String) (step : Step) (a : Application) : String :=
  substitute payload step.substitutions a.request a.record

/-- The name of a resource of the application. -/
def nameOf (a : Application) (kind : String) : String :=
  Naming.resource a.request.applicationType kind a.guid

def makeBucket (step : Step) : Work (Except Error Unit) := do
  let a ← Program.get
  let name := nameOf a "bucket"
  Program.andThen
    (attempt .bucket ("failed to create S3 bucket \"" ++ name ++ "\"") (.createBucket name)) fun _ =>
  Program.andThen (complete .bucket [("output", name)]) fun _ => do
  if step.payload = reportingPayload then
    let a ← Program.get
    attempt .bucket ("failed to attach bucket policy to S3 bucket \"" ++ name ++ "\"")
      (.putBucketPolicy name (filled reportingPolicy step a))
  else pure (.ok ())

def makePolicy (step : Step) : Work (Except Error Unit) := do
  let a ← Program.get
  let name := nameOf a "policy"
  Program.andThen
    (attempt .policy ("failed to create policy \"" ++ name ++ "\"")
      (.createPolicy name (filled step.payload step a))) fun arn =>
  complete .policy [("output", arn)]

def makeRole (step : Step) : Work (Except Error Unit) := do
  let a ← Program.get
  let name := nameOf a "role"
  Program.andThen
    (attempt .role ("failed to create role \"" ++ name ++ "\"")
      (.createRole name (filled step.payload step a))) fun arn =>
  complete .role [("output", name), ("arn", arn)]

/-- A role can be bound to a policy once both are in the record. -/
def bindRole : Work (Except Error Unit) := do
  let a ← Program.get
  match a.record.output? Step.Kind.role.name "output",
      a.record.output? Step.Kind.policy.name "output" with
  | some role, some arn =>
    Program.andThen
      (attempt .binding ("failed to bind policy \"" ++ arn ++ "\" to role \"" ++ role ++ "\"")
        (.attachRolePolicy role arn)) fun _ =>
    complete .binding []
  | _, _ =>
    pure (.error (.stepFailed Step.Kind.binding.name
      (Cause.of "binding requires completed \"role\" and \"policy\" steps")))

/-- The report definition of a filled payload, named for the application. -/
def reportOf (payload guid : String) : Except Error Report :=
  match Json.decode Wire.report (Text.Utf8.encode payload) with
  | .ok r => .ok { r with name := r.name ++ "-" ++ guid }
  | .error e =>
    .error (.stepFailed Step.Kind.costReport.name
      ((Cause.of e.message).within
        ("failed to build cost report with payload \"" ++ payload ++ "\"")))

def makeReport (step : Step) : Work (Except Error Unit) := do
  let a ← Program.get
  match reportOf (filled step.payload step a) a.guid with
  | .error e => pure (.error e)
  | .ok report =>
    Program.andThen
      (attempt .costReport
        ("failed to create cost and usage report \"" ++ report.name ++ "\"") (.putReport report))
      fun _ =>
    complete .costReport [("output", report.name)]

/-- Carry out one step. -/
def runStep (step : Step) : Work (Except Error Unit) :=
  match Step.Kind.ofName? step.name with
  | none => pure (.error (.unknownStep step.name))
  | some .bucket => makeBucket step
  | some .policy => makePolicy step
  | some .role => makeRole step
  | some .binding => bindRole
  | some .costReport => makeReport step

/-- Carry out steps until one fails. -/
def runSteps : List Step → Work (Except Error Unit)
  | [] => pure (.ok ())
  | step :: steps => Program.andThen (runStep step) fun _ => runSteps steps

/-- Carry out all steps of the request; the role's ARN becomes the user of the product. -/
def provision : Work (Except Error Unit) := do
  let a ← Program.get
  Program.andThen (runSteps a.request.steps) fun _ => do
  Program.modify fun a =>
    a.finish ((a.record.output? Step.Kind.role.name "arn").getD "")
  pure (.ok ())

/-! ## Taking them down -/

/-- How a step is undone: the call, and the resource as error messages call it. -/
structure Undoing where
  call : Call
  resource : String

/-- The output of a completed step, which undoing it needs. -/
def recorded (record : Record) (kind : Step.Kind) : Except Error String :=
  match record.output? kind.name "output" with
  | some v => .ok v
  | none =>
    .error (.undo kind.name ""
      (Cause.of ("no \"output\" recorded for step \"" ++ kind.name ++ "\"")))

/-- How a step of a kind is undone. -/
def undoing (record : Record) : Step.Kind → Except Error Undoing
  | .binding => do
    let arn ← recorded record .policy
    let role ← recorded record .role
    .ok ⟨.detachRolePolicy role arn, arn ++ " from " ++ role⟩
  | .policy => do
    let arn ← recorded record .policy
    .ok ⟨.deletePolicy arn, arn⟩
  | .role => do
    let name ← recorded record .role
    .ok ⟨.deleteRole name, name⟩
  | .costReport => do
    let name ← recorded record .costReport
    .ok ⟨.deleteReport name, name⟩
  | .bucket => do
    let name ← recorded record .bucket
    .ok ⟨.deleteBucket name, name⟩

/-- The kinds that a record holds, in the order in which they are undone. -/
def toUndo (record : Record) : List Step.Kind :=
  Step.Kind.teardownOrder.filter (fun k => record.has k.name)

/-- Undo a step; the failure, if there is one. -/
def undo (record : Record) (kind : Step.Kind) : Work (List Error) :=
  match undoing record kind with
  | .error e => pure [e]
  | .ok u => do
    match ← asking (.amazon u.call) with
    | .ok _ => pure []
    | .error cause => pure [.undo kind.name u.resource cause]

/-- Undo steps one after another; all failures. -/
def undoAll (record : Record) : List Step.Kind → Work (List Error)
  | [] => pure []
  | kind :: kinds => do
    let errors ← undo record kind
    let more ← undoAll record kinds
    pure (errors ++ more)

/-- Undo all that the record holds. -/
def takeDown : Work (List Error) := do
  let a ← Program.get
  undoAll a.record (toUndo a.record)

end CloudGrant.Amazon
