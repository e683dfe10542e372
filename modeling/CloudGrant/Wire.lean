import CloudGrant.Credential
import CloudGrant.Json.Decoder
import CloudGrant.Product
import CloudGrant.Report
import CloudGrant.Request

/-!
# The wire format

How steps, records, requests, reports, products and credentials are written as JSON, and how each is
read back. For every record type the fields are listed once for reading, in the order in which they
stand in the list form, and once for writing.
-/

namespace CloudGrant.Wire

open Json (Decoder Value)

/-! ## Field shapes -/

/-- A field that must be there. -/
def required {σ α : Type} (name : String) (d : Decoder α) (set : σ → α → σ) : Decoder.Field σ :=
  ⟨name, true, d.map (fun v r => set r v)⟩

/-- A field that keeps its initial value if it is absent. -/
def defaulted {σ α : Type} (name : String) (d : Decoder α) (set : σ → α → σ) : Decoder.Field σ :=
  ⟨name, false, d.map (fun v r => set r v)⟩

def texts : Decoder (Dict String String) := Json.Decoder.dict Json.Decoder.text

def textMap (d : Dict String String) : Value := Value.ofDict .text d

def textList (l : List String) : Value := .list (l.map .text)

/-! ## Steps -/

def kind : Decoder Step.Kind :=
  Json.Decoder.variant (Step.Kind.all.map (fun k => (k.name, k)))

def Step.fields : List (Decoder.Field Step) :=
  [ defaulted "step" Json.Decoder.int64 (fun s v => { s with order := v })
  , required "name" Json.Decoder.text (fun s v => { s with name := v })
  , defaulted "payload" Json.Decoder.text (fun s v => { s with payload := v })
  , defaulted "substitutions" texts (fun s v => { s with substitutions := v }) ]

def step : Decoder Step := Json.Decoder.record "Step" Step.fields (.plain 0 "" "")

def Step.toJson (s : CloudGrant.Step) : Value :=
  .object
    [ ("step", .number (.int s.order))
    , ("name", .text s.name)
    , ("payload", .text s.payload)
    , ("substitutions", textMap s.substitutions) ]

/-! ## Records -/

def record : Decoder Record := (Json.Decoder.dict texts).map Record.mk

def Record.toJson (r : CloudGrant.Record) : Value := Value.ofDict textMap r.steps

/-! ## Requests -/

def Create.fields : List (Decoder.Field Request.Create) :=
  [ defaulted "identity_header" Json.Decoder.text (fun r v => { r with identity := v })
  , defaulted "org_id_header" Json.Decoder.text (fun r v => { r with orgId := v })
  , required "tenant_id" Json.Decoder.text (fun r v => { r with tenant := v })
  , defaulted "source_id" Json.Decoder.text (fun r v => { r with sourceId := v })
  , defaulted "application_id" Json.Decoder.text (fun r v => { r with applicationId := v })
  , defaulted "application_type" Json.Decoder.text (fun r v => { r with applicationType := v })
  , defaulted "super_key" Json.Decoder.text (fun r v => { r with superKey := v })
  , required "provider" Json.Decoder.text (fun r v => { r with provider := v })
  , defaulted "extra" texts (fun r v => { r with extra := v })
  , defaulted "superkey_steps" (Json.Decoder.list step) (fun r v => { r with steps := v }) ]

def create : Decoder Request.Create :=
  Json.Decoder.record "CreateRequest" Create.fields Request.Create.blank

def Create.toJson (r : Request.Create) : Value :=
  .object
    [ ("identity_header", .text r.identity)
    , ("org_id_header", .text r.orgId)
    , ("tenant_id", .text r.tenant)
    , ("source_id", .text r.sourceId)
    , ("application_id", .text r.applicationId)
    , ("application_type", .text r.applicationType)
    , ("super_key", .text r.superKey)
    , ("provider", .text r.provider)
    , ("extra", textMap r.extra)
    , ("superkey_steps", .list (r.steps.map Step.toJson)) ]

def Destroy.fields : List (Decoder.Field Request.Destroy) :=
  [ defaulted "identity_header" Json.Decoder.text (fun r v => { r with identity := v })
  , defaulted "org_id_header" Json.Decoder.text (fun r v => { r with orgId := v })
  , required "tenant_id" Json.Decoder.text (fun r v => { r with tenant := v })
  , defaulted "super_key" Json.Decoder.text (fun r v => { r with superKey := v })
  , required "guid" Json.Decoder.text (fun r v => { r with guid := v })
  , required "provider" Json.Decoder.text (fun r v => { r with provider := v })
  , defaulted "steps_completed" record (fun r v => { r with record := v }) ]

def destroy : Decoder Request.Destroy :=
  Json.Decoder.record "DestroyRequest" Destroy.fields Request.Destroy.blank

def Destroy.toJson (r : Request.Destroy) : Value :=
  .object
    [ ("identity_header", .text r.identity)
    , ("org_id_header", .text r.orgId)
    , ("tenant_id", .text r.tenant)
    , ("super_key", .text r.superKey)
    , ("guid", .text r.guid)
    , ("provider", .text r.provider)
    , ("steps_completed", Record.toJson r.record) ]

/-! ## Cost reports -/

def Report.fields : List (Decoder.Field Report) :=
  let strings := Json.Decoder.list Json.Decoder.text
  [ required "ReportName" Json.Decoder.text (fun r v => { r with name := v })
  , required "TimeUnit" Json.Decoder.text (fun r v => { r with timeUnit := v })
  , required "Format" Json.Decoder.text (fun r v => { r with format := v })
  , required "Compression" Json.Decoder.text (fun r v => { r with compression := v })
  , defaulted "AdditionalSchemaElements" strings (fun r v => { r with schemaElements := v })
  , required "S3Bucket" Json.Decoder.text (fun r v => { r with bucket := v })
  , defaulted "S3Prefix" Json.Decoder.text (fun r v => { r with folder := v })
  , required "S3Region" Json.Decoder.text (fun r v => { r with region := v })
  , defaulted "AdditionalArtifacts" strings (fun r v => { r with artifacts := v }) ]

def report : Decoder Report := Json.Decoder.record "CostReport" Report.fields default

def Report.toJson (r : CloudGrant.Report) : Value :=
  .object
    [ ("ReportName", .text r.name)
    , ("TimeUnit", .text r.timeUnit)
    , ("Format", .text r.format)
    , ("Compression", .text r.compression)
    , ("AdditionalSchemaElements", textList r.schemaElements)
    , ("S3Bucket", .text r.bucket)
    , ("S3Prefix", .text r.folder)
    , ("S3Region", .text r.region)
    , ("AdditionalArtifacts", textList r.artifacts) ]

/-! ## Products -/

def Access.fields : List (Decoder.Field Access) :=
  [ required "authtype" Json.Decoder.text (fun a v => { a with kind := v })
  , required "username" Json.Decoder.text (fun a v => { a with username := v })
  , required "resource_type" Json.Decoder.text (fun a v => { a with resourceType := v })
  , required "resource_id" Json.Decoder.text (fun a v => { a with resourceId := v }) ]

def access : Decoder Access :=
  Json.Decoder.record "SuperkeyAuthentication" Access.fields default

def Access.toJson (a : CloudGrant.Access) : Value :=
  .object
    [ ("authtype", .text a.kind)
    , ("username", .text a.username)
    , ("resource_type", .text a.resourceType)
    , ("resource_id", .text a.resourceId) ]

def Product.fields : List (Decoder.Field Product) :=
  [ required "source_id" Json.Decoder.text (fun p v => { p with sourceId := v })
  , required "extra" Json.Decoder.value (fun p v => { p with extra := v })
  , required "authentication_payload" access (fun p v => { p with access := v }) ]

def product : Decoder Product := Json.Decoder.record "Product" Product.fields default

def Product.toJson (p : CloudGrant.Product) : Value :=
  .object
    [ ("source_id", .text p.sourceId)
    , ("extra", p.extra)
    , ("authentication_payload", Access.toJson p.access) ]

/-! ## What the inventory answers -/

def Credential.fields : List (Decoder.Field Credential) :=
  [ defaulted "id" Json.Decoder.text (fun c v => { c with id := v })
  , defaulted "authtype" Json.Decoder.text (fun c v => { c with kind := v })
  , defaulted "username" Json.Decoder.text (fun c v => { c with username := v })
  , defaulted "password" Json.Decoder.text (fun c v => { c with secret := v })
  , defaulted "extra" Json.Decoder.value (fun c v => { c with extra := v }) ]

def credential : Decoder Credential :=
  Json.Decoder.record "InternalAuthentication" Credential.fields Credential.blank

/-- The id of an authentication that was created. -/
def authenticationId : Decoder String :=
  Json.Decoder.record "AuthenticationResponse"
    [required "id" Json.Decoder.text (fun _ v => v)] ""

end CloudGrant.Wire
