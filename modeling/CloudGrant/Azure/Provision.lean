import CloudGrant.Application
import CloudGrant.Naming

/-!
# Resources in an Azure subscription

Everything an application needs there is one deployment of a prepared template. Its name is noted in
the record **before** the deployment starts, so that a deployment that fails half-way can be found
and deleted. Each operation has a login session of its own, which is closed when the operation ends;
after a successful login it logs out, whatever came between.
-/

namespace CloudGrant.Azure

/-- The step under which a deployment is noted. -/
def stepName : String := "az-lighthouse"

/-- Ask for a command. -/
def call (c : Call) : Work (Except Cause c.Result) := asking (.azure c)

/-- Close the session, if one is open. -/
def release : Work Unit := do
  let a ← Program.get
  if a.inSession then
    let _ ← call .closeSession
    Program.modify fun a => { a with inSession := false }
  else pure ()

/-- Do something between login and logout. The first failure counts: of the login, of what was done,
of the logout. -/
def loggedIn {α : Type} (login : Login) (work : Work (Except Cause α)) : Work (Except Cause α) := do
  match ← call (.login login) with
  | .error e => pure (.error e)
  | .ok _ => do
    let result ← work
    let out ← call .logout
    match result, out with
    | .error e, _ => pure (.error e)
    | .ok _, .error e => pure (.error e)
    | .ok a, .ok _ => pure (.ok a)

/-- Do something in a login session of its own. -/
def inSession {α : Type} (login : Login) (work : Work (Except Cause α)) :
    Work (Except Cause α) := do
  match ← call .openSession with
  | .error e => pure (.error e)
  | .ok _ => do
    Program.modify fun a => { a with inSession := true }
    let result ← loggedIn login work
    release
    pure result

/-- Note an output of the deployment. -/
def note (key value : String) : Work Unit :=
  Program.modify fun a => { a with record := a.record.setOutput stepName key value }

/-- Deploy the template; the subscription becomes the user of the product. -/
def provision (login : Login) (template : Option String) : Work (Except Error Unit) :=
  match template with
  | none =>
    pure (.error (.configuration
      "Azure deployment template is not prepared, resource creation impossible"))
  | some template => do
    let a ← Program.get
    let name := Naming.deployment a.guid
    note "name" name
    match ← inSession login (call (.deploy name template)) with
    | .error cause => pure (.error (.deployment cause))
    | .ok subscription => do
      note "subscriptionID" subscription
      Program.modify fun a => a.finish subscription
      pure (.ok ())

/-- Delete the deployment, if one is noted. -/
def takeDown (login : Login) : Work (List Error) := do
  let a ← Program.get
  match a.record.output? stepName "name" with
  | none => pure []
  | some name => do
    match ← inSession login (call (.delete name)) with
    | .ok _ => pure []
    | .error cause => pure [.undo stepName name cause]

end CloudGrant.Azure
