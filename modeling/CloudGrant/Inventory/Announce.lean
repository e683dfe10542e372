import CloudGrant.Application
import CloudGrant.Text.Uppercase

/-!
# Telling the inventory

A finished application is announced in four calls: its data, the authentication that uses it, the
link between the two, and a request to check that it is available. An application that could not be
made is marked as unavailable, and its source after it. Both stop at the first call that fails.
-/

namespace CloudGrant.Inventory

/-- Make a call on behalf of a caller. -/
def call (caller : Caller) (c : Call) : Work (Except InventoryError c.Result) :=
  asking (.inventory caller c)

/-- What is kept beside the authentication of an application. -/
def authenticationExtra (request : Request.Create) : Json.Value :=
  .object (match request.extra.find? "external_id" with
    | some id => [("external_id", .text id)]
    | none => [])

/-- Announce a product of a request. -/
def announceProduct (request : Request.Create) (product : Product) :
    Work (Except InventoryError Unit) :=
  let caller := request.caller
  Program.andThen
    (call caller (.patchApplication request.applicationId ⟨none, none, some product.extra⟩)) fun _ =>
  Program.andThen
    (call caller (.createAuthentication ⟨product.access, authenticationExtra request⟩)) fun id =>
  Program.andThen (call caller (.linkAuthentication request.applicationId id)) fun _ =>
  call caller (.checkAvailability product.sourceId)

/-- Announce the application. -/
def announce : Work (Except InventoryError Unit) := do
  let a ← Program.get
  match a.product with
  | none => pure (.error ⟨"deliver", none, "forged application has no product payload"⟩)
  | some product => announceProduct a.request product

/-- The status of what cannot be used. -/
def unavailable : String := "unavailable"

/-- Why an application is unavailable, in words for its owner. -/
def unavailableReason (provider cause : String) : String :=
  "Resource Creation error: failed to create resources in "
    ++ Text.Uppercase.capitalize provider ++ ". Error: " ++ cause

/-- Mark a request's application and its source as unavailable; `progress` is what there is of the
application. -/
def markUnavailable (request : Request.Create) (cause : String) (progress : Option Application) :
    Work (Except InventoryError Unit) :=
  let caller := request.caller
  let extra := (progress.map Application.extraPayload).getD (.object [])
  Program.andThen
    (call caller (.patchApplication request.applicationId
      ⟨some unavailable, some (unavailableReason request.provider cause), some extra⟩)) fun _ =>
  call caller (.patchSource request.sourceId unavailable)

end CloudGrant.Inventory
