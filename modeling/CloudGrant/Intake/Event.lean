import CloudGrant.Error
import CloudGrant.Intake.Message
import CloudGrant.Wire

/-!
# Events

The event that a message stands for: its headers say who asks and for what, its body is the request.
Whoever the body names as the caller is replaced by the caller of the headers. A message without a
caller is refused first, then one of an unknown kind, then one whose body is no request.
-/

namespace CloudGrant

/-- What a message asks for. -/
inductive Event where
  | create (request : Request.Create)
  | destroy (request : Request.Destroy)

namespace Event

def kindHeader : String := "event_type"
def identityHeader : String := "x-rh-identity"
def orgHeader : String := "x-rh-sources-org-id"

def createKind : String := "create_application"
def destroyKind : String := "destroy_application"

/-- The body of a message as a request of a kind. -/
def body {α : Type} (d : Json.Decoder α) (kind : String) (m : Message) : Except Error α :=
  (Json.decode d m.body).mapError fun e =>
    .invalid ("failed to parse \"" ++ kind ++ "\" request: " ++ e.message)

/-- The event of a message. -/
def ofMessage (m : Message) : Except Error Event :=
  let identity := m.header identityHeader
  let org := m.header orgHeader
  let kind := m.header kindHeader
  if identity = "" ∧ org = "" then
    .error (.invalid
      ("no \"" ++ identityHeader ++ "\" or \"" ++ orgHeader ++ "\" header found"))
  else if kind = createKind then
    (body Wire.create kind m).map fun r => .create { r with identity := identity, orgId := org }
  else if kind = destroyKind then
    (body Wire.destroy kind m).map fun r => .destroy { r with identity := identity, orgId := org }
  else .error (.invalid ("unknown event type \"" ++ kind ++ "\""))

end Event

end CloudGrant
