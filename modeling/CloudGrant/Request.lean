import CloudGrant.Record

/-!
# Requests

What tenants ask for: to create an application's resources (`Request.Create`) or to destroy those of
a record (`Request.Destroy`). Both name the caller, on whose behalf the inventory is asked.
-/

namespace CloudGrant

/-- On whose behalf the inventory is asked. -/
structure Caller where
  identity : String
  orgId : String
  account : String
deriving DecidableEq

namespace Request

/-- Create an application's resources. -/
structure Create where
  identity : String
  orgId : String
  tenant : String
  sourceId : String
  applicationId : String
  applicationType : String
  superKey : String
  provider : String
  extra : Dict String String
  steps : List Step

/-- Destroy what a record holds. -/
structure Destroy where
  identity : String
  orgId : String
  tenant : String
  superKey : String
  guid : String
  provider : String
  record : Record
deriving DecidableEq

/-- The request with every field empty. -/
def Create.blank : Create := ⟨"", "", "", "", "", "", "", "", Dict.empty, []⟩

instance : Inhabited Create := ⟨Create.blank⟩

/-- The request with every field empty. -/
def Destroy.blank : Destroy := ⟨"", "", "", "", "", "", Record.empty⟩

instance : Inhabited Destroy := ⟨Destroy.blank⟩

/-- The caller of a request; the account is the one in `extra`. -/
def Create.caller (r : Create) : Caller where
  identity := r.identity
  orgId := r.orgId
  account := (r.extra.find? "account").getD ""

end Request

end CloudGrant
