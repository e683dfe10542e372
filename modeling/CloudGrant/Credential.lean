import CloudGrant.Json.Value

/-!
# Credentials

The login that the inventory keeps for a tenant. Its secret never appears in diagnostics.
-/

namespace CloudGrant

/-- A stored login. -/
structure Credential where
  id : String
  kind : String
  username : String
  secret : String
  extra : Json.Value

namespace Credential

/-- The credential with every field empty. -/
def blank : Credential := ⟨"", "", "", "", .null⟩

instance : Inhabited Credential := ⟨blank⟩

/-- Whether the credential can be used to log in. -/
def isComplete (c : Credential) : Bool := c.username ≠ "" && c.secret ≠ ""

/-- The text at the first of several paths in `extra` where a non-empty text stands. -/
def extraText? (c : Credential) (paths : List (List String)) : Option String :=
  paths.findSome? (fun path => ((c.extra.follow path).bind Json.Value.text?).filter (· ≠ ""))

/-- The tenant to log in to. -/
def azureTenant? (c : Credential) : Option String :=
  c.extraText? [["azure", "tenant_id"], ["tenant_id"]]

/-- The credential in diagnostics. -/
def debug (c : Credential) : String :=
  "InternalAuthentication \x7b id: " ++ Text.Quoted.quote c.id ++ ", authtype: "
    ++ Text.Quoted.quote c.kind ++ ", username: " ++ Text.Quoted.quote c.username
    ++ ", password: \"<redacted>\" \x7d"

/-- **Diagnostics do not depend on the secret.** -/
theorem debug_setSecret (c : Credential) (secret : String) :
    { c with secret := secret }.debug = c.debug := rfl

end Credential

end CloudGrant
