import CloudGrant.Json.Value
import CloudGrant.Request
import CloudGrant.Settings
import CloudGrant.Text.Base64

/-!
# Identities

How a caller is named to the inventory. With a shared key the caller is the organisation and the
account, each in a header of its own; without one it is a single identity header, which is made up
from the two where the caller brought none. `Settings.headers` never mixes the two ways.
-/

namespace CloudGrant.Inventory

def sharedKeyHeader : String := "x-rh-sources-psk"
def orgHeader : String := "x-rh-org-id"
def accountHeader : String := "x-rh-sources-account-number"
def identityHeader : String := "x-rh-identity"

/-- The document that identifies an account of an organisation. -/
def identityDocument (account orgId : String) : Json.Value :=
  .object
    [("identity", .object
      [ ("account_number", .text account)
      , ("internal", .object [("org_id", .text orgId)])
      , ("org_id", .text orgId)
      , ("user", .object [("is_org_admin", .bool true)]) ])]

/-- The identity header of an account of an organisation. -/
def synthesizedIdentity (account orgId : String) : String :=
  String.ofList (Text.Base64.encode (identityDocument account orgId).toBytes)

/-- A header that is left out if its value is empty. -/
def optionalHeader (name value : String) : List (String × String) :=
  if value = "" then [] else [(name, value)]

/-- The headers that name a caller. -/
def Settings.headers (s : Settings) (caller : Caller) : List (String × String) :=
  match s.sharedKey with
  | some key =>
    (sharedKeyHeader, key) :: optionalHeader orgHeader caller.orgId
      ++ optionalHeader accountHeader caller.account
  | none =>
    if caller.identity = "" then
      [(identityHeader, synthesizedIdentity caller.account caller.orgId)]
    else [(identityHeader, caller.identity)]

end CloudGrant.Inventory
