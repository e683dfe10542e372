import CloudGrant.Error
import CloudGrant.Files
import CloudGrant.Http.Charset
import CloudGrant.Wire

/-!
# The deployment template

Before requests are served, the template of all deployments is put in its place: from a file, unless
something is there already, or from the cloud meter, whose configuration names the path of the
template. The place is written in the last step only, so a preparation that fails before that has
changed nothing.

The preparation relies on a `Host` for what is not in its hands: the charsets in which bodies are
read, and the disk.
-/

namespace CloudGrant.Azure

/-- Where the template comes from. -/
inductive TemplateSource where
  | file (path : String)
  | cloudMeter (baseUrl configPath : String)

namespace TemplateSource

/-- A program that uses the network and works on files. -/
abbrev FileWork (α : Type) : Type := Program Http.network Files α

/-- How long one answer of the cloud meter may take. -/
def limit : Duration := Duration.ofSeconds 30

/-- A failure to prepare the template. -/
def failed {α : Type} (reason : String) : Except Error α := .error (.configuration reason)

/-! ## Fetching texts -/

/-- The text that an attempt to fetch a URL gave. -/
def fetched (reader : Http.Reader) (url : String) :
    Except Http.Failure Http.Response → Except Error String
  | .error f => failed ("failed to fetch " ++ url ++ ": " ++ f.message)
  | .ok response =>
    match response.read with
    | .error f => failed ("failed to read " ++ url ++ ": " ++ f.message)
    | .ok body =>
      if response.isSuccess then .ok (response.textOf reader body)
      else failed ("fetching " ++ url ++ " returned " ++ Http.statusText response.status ++ ": "
        ++ response.textOf reader body)

/-- Fetch the text at a URL. -/
def fetch (reader : Http.Reader) (url : String) : Http.NetWork (Except Error String) := do
  match Http.Request.make .get url [] none with
  | .error f => pure (fetched reader url (.error f))
  | .ok request => do
    let result ← request.send limit
    pure (fetched reader url result)

/-! ## The configuration of the cloud meter -/

/-- How the configuration is read: of all it says, the path of the template counts. -/
def templatePath : Json.Decoder String :=
  Json.Decoder.record "CloudMeterSysConfig"
    [Wire.defaulted "azure_offer_template_path" Json.Decoder.text (fun _ v => v)] ""

/-- The path of the template in a configuration. -/
def templatePathIn (config : String) : Except Error String :=
  match Json.decode templatePath (Text.Utf8.encode config) with
  | .error e => failed ("failed to parse cloud-meter sysconfig: " ++ e.message)
  | .ok path =>
    if path = "" then failed "cloud-meter sysconfig has no azure_offer_template_path" else .ok path

/-- Fetch the template from the cloud meter. -/
def fetchTemplate (reader : Http.Reader) (baseUrl configPath : String) :
    Http.NetWork (Except Error String) :=
  Program.andThen (fetch reader (baseUrl ++ configPath)) fun config =>
  match templatePathIn config with
  | .error e => pure (.error e)
  | .ok path => fetch reader (baseUrl ++ path)

/-! ## Putting it in its place -/

/-- What the preparation relies on: how bodies are read, and whether the disk fails when the place of
the template is written. -/
structure Host where
  reader : Http.Reader
  fault : Option Files.Fault

/-- A host that reads the common charsets, with a disk that does not fail. -/
def Host.common : Host := ⟨Http.Reader.common, none⟩

/-- Keep what an attempt to change the files left of them, and tell why it failed if it did. -/
def keep (what path : String) (attempt : Except Files.Failure Unit × Files) :
    FileWork (Except Error Unit) := do
  Program.modify fun _ => attempt.2
  match attempt.1 with
  | .error f => pure (failed (what ++ " Azure template " ++ path ++ ": " ++ f.message))
  | .ok () => pure (.ok ())

/-- Put the template at a place; the place. -/
def prepareOn (host : Host) (source : TemplateSource) (target : String) :
    FileWork (Except Error String) := do
  let files ← Program.get
  match source with
  | file path =>
    if files.has target then pure (.ok target)
    else Program.andThen (keep "failed to copy" path (files.copy path target host.fault)) fun _ =>
      pure (.ok target)
  | cloudMeter baseUrl configPath =>
    Program.andThen
      ((fetchTemplate host.reader baseUrl configPath).through (Interface.Part.whole Http.network))
      fun template =>
    Program.andThen
      (keep "failed to write" target
        (files.write target (Text.Utf8.encode template) host.fault)) fun _ =>
    pure (.ok target)

/-- Put the template at a place on a common host. -/
def prepare (source : TemplateSource) (target : String) : FileWork (Except Error String) :=
  prepareOn .common source target

end TemplateSource

end CloudGrant.Azure
