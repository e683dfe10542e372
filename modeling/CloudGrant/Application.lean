import CloudGrant.Call
import CloudGrant.Wire

/-!
# Applications

The state of one attempt to give an application its resources, or to take them away: the request, the
guid in all resource names, the record of completed steps, the provider once there is one, and the
product once all steps are done. An application is rebuilt for teardown from a destroy request, and
`destroyRequest` is the request that would take down exactly what it holds.
-/

namespace CloudGrant

/-- A cloud client that is bound to a tenant's login. -/
inductive Provider where
  | amazon (keyId secret : String)
  | azure (login : Azure.Login) (template : Option String)

def Provider.cloud : Provider → Cloud
  | amazon .. => .amazon
  | azure .. => .azure

/-- The state of one attempt. `inSession` says that an Azure login session is open. -/
structure Application where
  guid : String
  request : Request.Create
  record : Record
  provider : Option Provider
  product : Option Product
  inSession : Bool

namespace Application

/-- A fresh attempt. -/
def new (request : Request.Create) (guid : String) : Application :=
  ⟨guid, request, Record.empty, none, none, false⟩

/-- The application of a destroy request, for teardown. -/
def ofDestroy (r : Request.Destroy) : Application where
  guid := r.guid
  request := { Request.Create.blank with
    identity := r.identity
    orgId := r.orgId
    tenant := r.tenant
    superKey := r.superKey
    provider := r.provider }
  record := r.record
  provider := none
  product := none
  inSession := false

/-- The request that would take down what the application holds. -/
def destroyRequest (a : Application) : Request.Destroy where
  identity := a.request.identity
  orgId := a.request.orgId
  tenant := a.request.tenant
  superKey := a.request.superKey
  guid := a.guid
  provider := a.request.provider
  record := a.record

/-- **A destroy request is not changed by rebuilding its application.** -/
theorem destroyRequest_ofDestroy (r : Request.Destroy) : (ofDestroy r).destroyRequest = r := rfl

/-! ## The product -/

/-- What is kept on the application: all that is needed to take it down, and the bucket's name. -/
def extraPayload (a : Application) : Json.Value :=
  let superKey : Json.Value := .object
    [ ("guid", .text a.guid)
    , ("provider", .text a.request.provider)
    , ("steps", Wire.Record.toJson a.record) ]
  match a.record.output? Step.Kind.bucket.name "output" with
  | some bucket => .object [("_superkey", superKey), ("bucket", .text bucket)]
  | none => .object [("_superkey", superKey)]

/-- The product of the completed steps, for the login of a user. -/
def productFor (a : Application) (username : String) : Product where
  sourceId := a.request.sourceId
  extra := a.extraPayload
  access :=
    { kind := (a.request.extra.find? "result_type").getD ""
      username := username
      resourceType := "Application"
      resourceId := a.request.applicationId }

/-- The application with its product. -/
def finish (a : Application) (username : String) : Application :=
  { a with product := some (a.productFor username) }

/-! ## Diagnostics -/

/-- Items between brackets. -/
def bracketed (items : List String) : String := "[" ++ ", ".intercalate items ++ "]"

/-- Entries between braces, keys in quotes. -/
def braced (entries : List (String × String)) : String :=
  "\x7b" ++ ", ".intercalate (entries.map (fun e => Text.Quoted.quote e.1 ++ ": " ++ e.2)) ++ "\x7d"

def debugRecord (r : Record) : String :=
  "StepsCompleted(" ++ braced (r.steps.entries.map fun e =>
    (e.1, braced (e.2.entries.map fun o => (o.1, Text.Quoted.quote o.2)))) ++ ")"

def debugAccess (a : Access) : String :=
  "SuperkeyAuthentication \x7b authtype: " ++ Text.Quoted.quote a.kind
    ++ ", username: " ++ Text.Quoted.quote a.username
    ++ ", resource_type: " ++ Text.Quoted.quote a.resourceType
    ++ ", resource_id: " ++ Text.Quoted.quote a.resourceId ++ " \x7d"

def debugProduct (p : Product) : String :=
  "Product \x7b source_id: " ++ Text.Quoted.quote p.sourceId
    ++ ", extra: " ++ String.ofList p.extra.debug
    ++ ", authentication: " ++ debugAccess p.access ++ " \x7d"

/-- The application in diagnostics. -/
def debug (a : Application) : String :=
  "ForgedApplication \x7b guid: " ++ Text.Quoted.quote a.guid
    ++ ", tenant_id: " ++ Text.Quoted.quote a.request.tenant
    ++ ", provider: " ++ Text.Quoted.quote a.request.provider
    ++ ", steps_completed: " ++ debugRecord a.record
    ++ ", product: " ++ (match a.product with
      | none => "None"
      | some p => "Some(" ++ debugProduct p ++ ")")
    ++ " \x7d"

end Application

/-- A program that works on an application. -/
abbrev Work (α : Type) : Type := Program surroundings Application α

/-- Ask the surroundings. -/
def asking (q : Question) : Work q.Reply := Program.ask (I := surroundings) q

end CloudGrant
