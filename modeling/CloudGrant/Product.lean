import CloudGrant.Json.Value

/-!
# Products

What a finished application is announced with: the data to keep on it, and the login that uses it.
-/

namespace CloudGrant

/-- The login by which an application's resources are used. -/
structure Access where
  kind : String
  username : String
  resourceType : String
  resourceId : String
deriving DecidableEq, Inhabited

/-- What a finished application is announced with. -/
structure Product where
  sourceId : String
  extra : Json.Value
  access : Access
deriving Inhabited

end CloudGrant
