import CloudGrant.Amazon.Provision
import CloudGrant.Azure.Provision

/-!
# Providers

A provider is a cloud client bound to one tenant's login. The catalog says which clouds can be asked
for and under which names; `Provider.ofCredential` binds a client to a stored credential.
-/

namespace CloudGrant

/-- The clouds on offer, by name. -/
abbrev Catalog := Dict String Cloud

namespace Catalog

/-- Both clouds under their own names. -/
def standard : Catalog := Dict.ofList [(Cloud.amazon.name, .amazon), (Cloud.azure.name, .azure)]

/-- The cloud of a name. -/
def cloud (c : Catalog) (name : String) : Except Error Cloud :=
  match c.find? name with
  | some cloud => .ok cloud
  | none => .error (.unsupportedProvider name)

/-- The catalog in diagnostics. -/
def debug (c : Catalog) : String :=
  "ProviderRegistry \x7b providers: "
    ++ Application.bracketed (c.keys.map Text.Quoted.quote) ++ " \x7d"

end Catalog

namespace Provider

/-- The client of a cloud for a credential. Azure needs to know the tenant. -/
def ofCredential (cloud : Cloud) (template : Option String) (c : Credential) :
    Except Error Provider :=
  match cloud with
  | .amazon => .ok (.amazon c.username c.secret)
  | .azure =>
    match c.azureTenant? with
    | some tenant => .ok (.azure ⟨c.username, c.secret, tenant⟩ template)
    | none =>
      .error (.stepFailed Azure.stepName
        (Cause.of ("authentication \"" ++ c.id ++ "\" has no Azure tenant id")))

/-- Have a client set up. -/
def build (cloud : Cloud) (template : Option String) (c : Credential) :
    Work (Except Error Provider) := do
  asking (.build cloud c)
  pure (ofCredential cloud template c)

/-- Give the application a fresh guid and make its resources. -/
def provision (p : Provider) : Work (Except Error Unit) := do
  let guid ← asking .guid
  Program.modify fun a => { a with guid := guid }
  match p with
  | .amazon .. => Amazon.provision
  | .azure login template => Azure.provision login template

/-- Take down what the application's record holds. -/
def takeDown (p : Provider) : Work (List Error) :=
  match p with
  | .amazon .. => Amazon.takeDown
  | .azure login _ => Azure.takeDown login

end Provider

end CloudGrant
