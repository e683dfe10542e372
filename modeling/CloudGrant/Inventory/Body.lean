import CloudGrant.Call

/-!
# What is sent with a call

The JSON body of each call to the inventory that has one. What a patch leaves as it is does not appear
in it.
-/

namespace CloudGrant.Inventory

/-- A member that may be absent. -/
def optionalMember {α : Type} (name : String) (f : α → Json.Value) :
    Option α → List (String × Json.Value)
  | some a => [(name, f a)]
  | none => []

def ApplicationPatch.toJson (p : ApplicationPatch) : Json.Value :=
  .object (optionalMember "availability_status" .text p.status
    ++ optionalMember "availability_status_error" .text p.statusError
    ++ optionalMember "extra" id p.extra)

def Authentication.toJson (a : Authentication) : Json.Value :=
  .object
    [ ("authtype", .text a.access.kind)
    , ("username", .text a.access.username)
    , ("resource_type", .text a.access.resourceType)
    , ("resource_id", .text a.access.resourceId)
    , ("extra", a.extra) ]

/-- The body of a call. -/
def Call.body? : Call → Option Json.Value
  | credential _ => none
  | patchApplication _ patch => some patch.toJson
  | patchSource _ status => some (.object [("availability_status", .text status)])
  | createAuthentication a => some a.toJson
  | linkAuthentication application authentication =>
    some (.object
      [("application_id", .text application), ("authentication_id", .text authentication)])
  | checkAvailability _ => none

end CloudGrant.Inventory
