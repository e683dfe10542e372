import CloudGrant.Credential
import CloudGrant.Error
import CloudGrant.Product
import CloudGrant.Report
import CloudGrant.Request
import CloudGrant.Run.Basic

/-!
# What is asked of the surroundings

The calls that reach a cloud account, an Azure login session or the inventory, and the few other
things a program needs from outside: to wait, to be given a fresh guid, and to have a cloud client
set up for a login. `surroundings` is the interface of all of them.
-/

namespace CloudGrant

/-! ## Amazon -/

namespace Amazon

/-- A call to an Amazon account. -/
inductive Call where
  | createBucket (name : String)
  | putBucketPolicy (bucket document : String)
  | deleteBucket (name : String)
  | createPolicy (name document : String)
  | deletePolicy (arn : String)
  | createRole (name document : String)
  | deleteRole (name : String)
  | attachRolePolicy (role arn : String)
  | detachRolePolicy (role arn : String)
  | putReport (report : Report)
  | deleteReport (name : String)
deriving DecidableEq

/-- What a successful call gives: the ARN of a policy or a role that was made. -/
@[reducible] def Call.Result : Call → Type
  | createPolicy .. | createRole .. => String
  | _ => Unit

/-- The name of a call in logs. -/
def Call.name : Call → String
  | createBucket _ => "create_bucket"
  | putBucketPolicy .. => "put_bucket_policy"
  | deleteBucket _ => "delete_bucket"
  | createPolicy .. => "create_policy"
  | deletePolicy _ => "delete_policy"
  | createRole .. => "create_role"
  | deleteRole _ => "delete_role"
  | attachRolePolicy .. => "attach_role_policy"
  | detachRolePolicy .. => "detach_role_policy"
  | putReport _ => "put_report_definition"
  | deleteReport _ => "delete_report_definition"

end Amazon

/-! ## Azure -/

namespace Azure

/-- The service principal that deployments are made with. -/
structure Login where
  username : String
  password : String
  tenant : String
deriving DecidableEq

/-- A command of a login session, with its opening and its end. -/
inductive Call where
  | openSession
  | login (login : Login)
  | deploy (name template : String)
  | delete (name : String)
  | logout
  | closeSession
deriving DecidableEq

/-- What a successful command gives: the subscription that was deployed to. -/
@[reducible] def Call.Result : Call → Type
  | deploy .. => String
  | _ => Unit

/-- The name of a command in logs. -/
def Call.name : Call → String
  | openSession => "az_open"
  | login _ => "az_login"
  | deploy .. => "az_deploy"
  | delete _ => "az_delete"
  | logout => "az_logout"
  | closeSession => "az_close"

end Azure

/-! ## The inventory -/

namespace Inventory

/-- A change to an application; what is absent stays as it is. -/
structure ApplicationPatch where
  status : Option String
  statusError : Option String
  extra : Option Json.Value

/-- An authentication to be created. -/
structure Authentication where
  access : Access
  extra : Json.Value

/-- A call to the inventory. -/
inductive Call where
  | credential (id : String)
  | patchApplication (id : String) (patch : ApplicationPatch)
  | patchSource (id status : String)
  | createAuthentication (authentication : Authentication)
  | linkAuthentication (application authentication : String)
  | checkAvailability (source : String)

/-- What a successful call gives: a stored credential, or the id of what was created. -/
@[reducible] def Call.Result : Call → Type
  | credential _ => Credential
  | createAuthentication _ => String
  | _ => Unit

/-- The name of a call in error messages. -/
def Call.operation : Call → String
  | credential _ => "get internal authentication"
  | patchApplication .. => "patch application"
  | patchSource .. => "patch source"
  | createAuthentication _ => "create authentication"
  | linkAuthentication .. => "create application authentication"
  | checkAvailability _ => "check availability"

/-- The name of a call in logs. -/
def Call.name : Call → String
  | credential _ => "get_internal_authentication"
  | patchApplication .. => "patch_application"
  | patchSource .. => "patch_source"
  | createAuthentication _ => "create_authentication"
  | linkAuthentication .. => "create_application_authentication"
  | checkAvailability _ => "trigger_availability_check"

end Inventory

/-! ## Everything -/

/-- The clouds that resources can be made in. -/
inductive Cloud where
  | amazon
  | azure
deriving DecidableEq

/-- The name under which a cloud is known. -/
def Cloud.name : Cloud → String
  | amazon => "amazon"
  | azure => "azure"

/-- Something that a program asks of its surroundings. -/
inductive Question where
  | amazon (call : Amazon.Call)
  | azure (call : Azure.Call)
  | inventory (caller : Caller) (call : Inventory.Call)
  | build (cloud : Cloud) (credential : Credential)
  | wait (milliseconds : Nat)
  | guid

/-- What a program is answered. -/
@[reducible] def Question.Reply : Question → Type
  | amazon c => Except Cause c.Result
  | azure c => Except Cause c.Result
  | inventory _ c => Except InventoryError c.Result
  | build .. => Unit
  | wait _ => Unit
  | guid => String

/-- The surroundings of the service. -/
def surroundings : Interface := ⟨Question, Question.Reply⟩

end CloudGrant
