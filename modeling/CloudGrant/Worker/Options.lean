import CloudGrant.Azure.Template
import CloudGrant.Settings
import CloudGrant.Worker.Address

/-!
# Options of the worker

Every setting of the worker has an option on the command line and a variable of the environment. The
option counts before the variable, and the variable before the standard value. Arguments are read
from left to right; the first one that asks for help or cannot be read ends the reading.
-/

namespace CloudGrant.Worker

/-- What can be set. -/
inductive Setting where
  | sourcesScheme
  | sourcesHost
  | sourcesPort
  | sourcesPsk
  | maxAttempts
  | retryDelay
  | listen
  | queueCapacity
  | deadline
  | disableCreation
  | disableDeletion
  | logLevel
  | awsWaitTime
  | awsRegion
  | azureTemplate
  | cloudMeterUrl
  | cloudMeterSysconfigPath
deriving DecidableEq

/-- What values a setting takes. -/
inductive Setting.Kind where
  | text
  | path
  | signed (limit : Nat)
  | unsigned (limit : Nat)
  | socket
  | switch
deriving DecidableEq

namespace Setting

/-- A setting as the command line and the environment know it. -/
structure Info where
  optionName : String
  variableName : String
  standard : Option String
  kind : Kind
  about : String

def info : Setting → Info
  | sourcesScheme =>
    ⟨"sources-scheme", "SOURCES_SCHEME", some "http", .text, "Sources API scheme"⟩
  | sourcesHost => ⟨"sources-host", "SOURCES_HOST", some "localhost", .text, "Sources API host"⟩
  | sourcesPort =>
    ⟨"sources-port", "SOURCES_PORT", some "8000", .signed 0xFFFF, "Sources API port"⟩
  | sourcesPsk =>
    ⟨"sources-psk", "SOURCES_PSK", none, .text, "Pre-shared key for the Sources API"⟩
  | maxAttempts =>
    ⟨"max-attempts", "SOURCES_MAX_ATTEMPTS", some "3", .signed 0xFFFFFFFF,
      "Attempts per Sources API call"⟩
  | retryDelay =>
    ⟨"retry-delay", "SOURCES_RETRY_DELAY", some "1", .unsigned 0xFFFFFFFFFFFFFFFF,
      "Seconds between Sources API attempts"⟩
  | listen =>
    ⟨"listen", "LISTEN_ADDRESS", some "0.0.0.0:8000", .socket,
      "Address the message intake listens on"⟩
  | queueCapacity =>
    ⟨"queue-capacity", "QUEUE_CAPACITY", some "100", .unsigned 0xFFFFFFFFFFFFFFFF,
      "Messages buffered before the intake pushes back"⟩
  | deadline =>
    ⟨"deadline", "REQUEST_DEADLINE", some "900", .unsigned 0xFFFFFFFFFFFFFFFF,
      "Seconds one request may take end to end"⟩
  | disableCreation =>
    ⟨"disable-creation", "DISABLE_RESOURCE_CREATION", some "false", .switch,
      "Skip create_application requests"⟩
  | disableDeletion =>
    ⟨"disable-deletion", "DISABLE_RESOURCE_DELETION", some "false", .switch,
      "Skip destroy_application requests"⟩
  | logLevel =>
    ⟨"log-level", "LOG_LEVEL", some "info", .text, "Default log filter when RUST_LOG is unset"⟩
  | awsWaitTime =>
    ⟨"aws-wait-time", "AWS_WAIT_TIME", some "7", .unsigned 0xFFFFFFFFFFFFFFFF,
      "Seconds to let IAM settle before reporting"⟩
  | awsRegion =>
    ⟨"aws-region", "AWS_REGION", some "us-east-1", .text, "Region for the Amazon clients"⟩
  | azureTemplate =>
    ⟨"azure-template", "AZURE_TEMPLATE_PATH", none, .path, "Mounted Azure lighthouse template"⟩
  | cloudMeterUrl =>
    ⟨"cloud-meter-url", "CLOUD_METER_URL", none, .text,
      "Cloud-meter base URL, used when no template is mounted"⟩
  | cloudMeterSysconfigPath =>
    ⟨"cloud-meter-sysconfig-path", "CLOUD_METER_SYSCONFIG_PATH",
      some "/api/cloudigrade/v2/sysconfig/", .text, "Cloud-meter sysconfig path"⟩

/-- All settings, in the order in which help lists them. -/
def all : List Setting :=
  [ sourcesScheme, sourcesHost, sourcesPort, sourcesPsk, maxAttempts, retryDelay, listen
  , queueCapacity, deadline, disableCreation, disableDeletion, logLevel, awsWaitTime, awsRegion
  , azureTemplate, cloudMeterUrl, cloudMeterSysconfigPath ]

/-- The setting of an option. -/
def ofOption? (option : String) : Option Setting := all.find? (fun s => s.info.optionName == option)

end Setting

/-! ## Values -/

/-- The number that a text with an optional plus sign stands for. -/
def unsigned? (limit : Nat) (s : String) : Option Nat :=
  match s.toList with
  | '+' :: digits => Address.decimal? limit digits
  | digits => Address.decimal? limit digits

/-- The number that a text with an optional sign stands for, which is not below zero. -/
def signed? (limit : Nat) (s : String) : Option Nat :=
  match s.toList with
  | '-' :: digits => Address.decimal? 0 digits
  | _ => unsigned? limit s

/-- Whether a kind of setting takes a text. -/
def Setting.Kind.takes (k : Setting.Kind) (s : String) : Bool :=
  match k with
  | text => true
  | path => s ≠ ""
  | signed limit => (signed? limit s).isSome
  | unsigned limit => (unsigned? limit s).isSome
  | socket => Address.isSocket s
  | switch => s == "true" || s == "false"

/-! ## Reading -/

/-- Why the worker does not start. -/
inductive Exit where
  | help
  | version
  | usage (reason : String)
deriving DecidableEq

/-- The status that the worker ends with. -/
def Exit.status : Exit → Nat
  | help => 0
  | version => 0
  | usage _ => 2

/-- Settings with the values given for them. -/
abbrev Given : Type := List (Setting × String)

/-- The value given for a setting. -/
def Given.value? (g : Given) (s : Setting) : Option String := (g.find? (fun e => e.1 == s)).map Prod.snd

/-- Add a value for a setting. -/
def Given.add (g : Given) (s : Setting) (value : String) : Except Exit Given :=
  if (g.value? s).isSome then
    .error (.usage ("the argument '--" ++ s.info.optionName ++ "' cannot be used multiple times"))
  else if s.info.kind.takes value then .ok (g ++ [(s, value)])
  else
    .error (.usage ("invalid value '" ++ value ++ "' for '--" ++ s.info.optionName ++ "'"))

/-- An argument that is not known. -/
def unexpected (argument : String) : Exit := .usage ("unexpected argument '" ++ argument ++ "' found")

/-- What an argument is. -/
inductive Argument where
  | short (letters : List Char)
  | long (name : String) (value : Option String)
  | stop
  | plain
deriving DecidableEq

/-- What an argument is, by the hyphens that it starts with. -/
def Argument.of (argument : String) : Argument :=
  match argument.toList with
  | ['-', '-'] => stop
  | '-' :: '-' :: l =>
    match l.dropWhile (· ≠ '=') with
    | [] => long (String.ofList l) none
    | _ :: value => long (String.ofList (l.takeWhile (· ≠ '='))) (some (String.ofList value))
  | '-' :: c :: l => short (c :: l)
  | _ => plain

/-- Read the arguments of the command line. -/
def readArguments (given : Given) : List String → Except Exit Given
  | [] => .ok given
  | argument :: rest =>
    match Argument.of argument with
    | .plain => .error (unexpected argument)
    | .stop =>
      match rest with
      | [] => .ok given
      | next :: _ => .error (unexpected next)
    | .short letters =>
      if letters.head? = some 'h' then .error .help
      else if letters.head? = some 'V' then .error .version
      else .error (unexpected argument)
    | .long "help" none => .error .help
    | .long "version" none => .error .version
    | .long name value =>
      match Setting.ofOption? name, value, rest with
      | none, _, _ => .error (unexpected argument)
      | some s, some v, rest =>
        if s.info.kind = .switch then
          .error (.usage ("unexpected value '" ++ v ++ "' for '--" ++ name ++ "' found"))
        else (given.add s v).bind fun given => readArguments given rest
      | some s, none, rest =>
        if s.info.kind = .switch then
          (given.add s "true").bind fun given => readArguments given rest
        else
          match rest with
          | next :: rest =>
            if Argument.of next = .plain then
              (given.add s next).bind fun given => readArguments given rest
            else .error (.usage ("a value is required for '--" ++ name ++ "' but none was supplied"))
          | [] => .error (.usage ("a value is required for '--" ++ name ++ "' but none was supplied"))

/-- Add what the environment says of a setting that is not given. -/
def readVariable (environment : String → Option String) (given : Given) (s : Setting) :
    Except Exit Given :=
  match given.value? s, environment s.info.variableName with
  | none, some value => given.add s value
  | _, _ => .ok given

/-- What is given for all settings. -/
def readGiven (arguments : List String) (environment : String → Option String) :
    Except Exit Given := do
  let given ← readArguments [] arguments
  Setting.all.foldlM (readVariable environment) given

/-! ## Options -/

/-- How the worker is set up. Times are in seconds. -/
structure Options where
  inventory : Inventory.Settings
  listen : String
  queueCapacity : Nat
  deadline : Nat
  createDisabled : Bool
  destroyDisabled : Bool
  logLevel : String
  settle : Nat
  region : String
  template : Option Azure.TemplateSource

namespace Options

/-- The text of a setting: as it is given, or its standard value. -/
def textOf (given : Given) (s : Setting) : Option String := given.value? s <|> s.info.standard

/-- The text of a setting that has one in any case. -/
def wordOf (given : Given) (s : Setting) : String := (textOf given s).getD ""

def numberOf (given : Given) (s : Setting) : Nat :=
  (signed? 0xFFFFFFFFFFFFFFFF (wordOf given s)).getD 0

def switchOf (given : Given) (s : Setting) : Bool := wordOf given s == "true"

/-- Where the template comes from: a mounted file counts before the cloud meter. -/
def templateOf (given : Given) : Option Azure.TemplateSource :=
  match textOf given .azureTemplate, textOf given .cloudMeterUrl with
  | some path, _ => some (.file path)
  | none, some url =>
    some (.cloudMeter (Inventory.Settings.trimSlashes url) (wordOf given .cloudMeterSysconfigPath))
  | none, none => none

/-- The options that are given. -/
def ofGiven (given : Given) : Options where
  inventory :=
    { (Inventory.Settings.ofAddress (wordOf given .sourcesScheme) (wordOf given .sourcesHost)
        (numberOf given .sourcesPort)).withSharedKey (textOf given .sourcesPsk) with
      attempts := max (numberOf given .maxAttempts) 1
      retryDelay := Duration.ofSeconds (numberOf given .retryDelay) }
  listen := wordOf given .listen
  queueCapacity := numberOf given .queueCapacity
  deadline := numberOf given .deadline
  createDisabled := switchOf given .disableCreation
  destroyDisabled := switchOf given .disableDeletion
  logLevel := wordOf given .logLevel
  settle := numberOf given .awsWaitTime
  region := wordOf given .awsRegion
  template := templateOf given

/-- Read the options from the command line and the environment. -/
def read (arguments : List String) (environment : String → Option String) :
    Except Exit Options :=
  (readGiven arguments environment).map ofGiven

/-- How the worker is called. -/
def help : String :=
  let line (s : Setting) : String :=
    let value := if s.info.kind = .switch then "" else " <" ++ s.info.variableName ++ ">"
    let standard := match s.info.standard with
      | some v => " [default: " ++ v ++ "]"
      | none => ""
    "      --" ++ s.info.optionName ++ value ++ "\n          " ++ s.info.about
      ++ " [env: " ++ s.info.variableName ++ "]" ++ standard ++ "\n"
  "Usage: superkey-worker [OPTIONS]\n\nOptions:\n" ++ "".intercalate (Setting.all.map line)
    ++ "  -h, --help\n          Print help\n  -V, --version\n          Print version\n"

end Options

end CloudGrant.Worker
