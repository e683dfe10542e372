import CloudGrant.Duration
import CloudGrant.Text.Quoted

/-!
# Settings

How the service, its Azure sessions and its connection to the inventory are set up, with what holds
where nothing else is said.
-/

namespace CloudGrant

/-- Settings of all work on applications. -/
structure Settings where
  settle : Duration
  region : String
  deadline : Duration

/-- Seven seconds to settle, a quarter of an hour in all. -/
def Settings.standard : Settings where
  settle := Duration.ofSeconds 7
  region := "us-east-1"
  deadline := Duration.ofSeconds 900

/-- Settings of Azure sessions. -/
structure Azure.Settings where
  location : String
  commandTimeout : Duration
  polls : Nat
  pollInterval : Duration

/-- A deployment may take five minutes, looked at every five seconds. -/
def Azure.Settings.standard : Azure.Settings where
  location := "WestUS"
  commandTimeout := Duration.ofSeconds 300
  polls := 60
  pollInterval := Duration.ofSeconds 5

namespace Inventory

/-- Settings of the connection to the inventory. -/
structure Settings where
  baseUrl : String
  sharedKey : Option String
  attempts : Nat
  retryDelay : Duration
  timeout : Duration

namespace Settings

/-- A text without the slashes at its end. -/
def trimSlashes (s : String) : String :=
  String.ofList ((s.toList.reverse.dropWhile (· = '/')).reverse)

/-- The inventory at a URL. -/
def ofUrl (url : String) : Settings where
  baseUrl := trimSlashes url
  sharedKey := none
  attempts := 3
  retryDelay := Duration.ofSeconds 1
  timeout := Duration.ofSeconds 10

/-- The inventory at a host and port. -/
def ofAddress (scheme host : String) (port : Nat) : Settings :=
  ofUrl (scheme ++ "://" ++ host ++ ":" ++ toString port)

/-- Log in by a shared key; an empty one is none. -/
def withSharedKey (s : Settings) (key : Option String) : Settings :=
  { s with sharedKey := key.filter (· ≠ "") }

/-- The settings in diagnostics, without the key. -/
def debug (s : Settings) : String :=
  "InventoryConfig \x7b base_url: " ++ Text.Quoted.quote s.baseUrl
    ++ ", psk: " ++ (if s.sharedKey.isSome then "Some(\"<redacted>\")" else "None")
    ++ ", max_attempts: " ++ toString s.attempts
    ++ ", retry_delay: " ++ s.retryDelay.text
    ++ ", request_timeout: " ++ s.timeout.text ++ " \x7d"

end Settings

end Inventory

end CloudGrant
