import CloudGrant.Error
import CloudGrant.Text.Replace
import CloudGrant.Wire

/-!
# The status of a deployment

What the status document of a deployment says. An error with a code means failure whatever the
provisioning state is, and its most specific cause is looked for inside the text of its first detail;
without one the provisioning state decides. A deployment that succeeded names the subscription it
went to by the resource id.
-/

namespace CloudGrant.Azure

/-! ## Searching texts -/

/-- What stands before the last occurrence of a pattern. -/
def beforeLast? (pattern : List Char) : List Char → Option (List Char)
  | [] => none
  | c :: s =>
    match beforeLast? pattern s with
    | some before => some (c :: before)
    | none => if (Text.afterPrefix? pattern (c :: s)).isSome then some [] else none

def subscriptionMark : List Char := "/subscriptions/".toList
def providerMark : List Char := "/providers/".toList

/-- What stands between the first mark of a subscription after which a provider is named on the same
line, and the last provider named on that line. -/
def subscriptionIn : List Char → List Char
  | [] => []
  | c :: s =>
    match (Text.afterPrefix? subscriptionMark (c :: s)).bind
        (fun r => beforeLast? providerMark (r.takeWhile (· ≠ '\n'))) with
    | some name => name
    | none => subscriptionIn s

/-- The subscription in a resource id. -/
def subscriptionId? (id : String) : Option String :=
  match subscriptionIn id.toList with
  | [] => none
  | name => some (String.ofList name)

/-- The text from the first opening brace to the last closing one. -/
def embedded (s : List Char) : List Char :=
  ((s.dropWhile (· ≠ '\x7b')).reverse.dropWhile (· ≠ '\x7d')).reverse

/-- Where an embedded document names the cause. -/
def causePath : List String := ["odata.error", "message", "value"]

/-- The cause that is named by a document inside a text. -/
def embeddedCause? (message : String) : Option String :=
  match Json.Value.parse (Text.Utf8.encode (String.ofList (embedded message.toList))) with
  | .error _ => none
  | .ok document => ((document.follow causePath).bind Json.Value.text?).filter (· ≠ "")

/-! ## The document -/

/-- The error in a status document, with the texts of its details. -/
structure DeploymentError where
  code : String
  details : List String

/-- A status document. -/
structure Deployment where
  id : String
  state : String
  error : Option DeploymentError

namespace Deployment

open Wire (defaulted)

def detail : Json.Decoder String :=
  Json.Decoder.record "DeploymentErrorDetail"
    [defaulted "message" Json.Decoder.text (fun _ v => v)] ""

def error? : Json.Decoder DeploymentError :=
  Json.Decoder.record "DeploymentError"
    [ defaulted "code" Json.Decoder.text (fun e v => { e with code := v })
    , defaulted "details" (Json.Decoder.list detail) (fun e v => { e with details := v }) ]
    ⟨"", []⟩

def properties : Json.Decoder (String × Option DeploymentError) :=
  Json.Decoder.record "DeploymentProperties"
    [ defaulted "provisioningState" Json.Decoder.text (fun p v => (v, p.2))
    , defaulted "error" (Json.Decoder.optional error?) (fun p v => (p.1, v)) ]
    ("", none)

/-- How a status document is read. -/
def decoder : Json.Decoder Deployment :=
  Json.Decoder.record "Deployment"
    [ defaulted "id" Json.Decoder.text (fun d v => { d with id := v })
    , defaulted "properties" properties (fun d v => { d with state := v.1, error := v.2 }) ]
    ⟨"", "", none⟩

end Deployment

/-! ## What it says -/

/-- How a deployment stands. -/
inductive Status where
  | running (state : String)
  | succeeded (subscription : String)
  | failed (cause : String)
deriving DecidableEq

namespace Status

def succeededState : String := "Succeeded"
def failedState : String := "Failed"
def canceledState : String := "Canceled"

/-- The most specific cause of an error. -/
def causeOf (e : DeploymentError) : String :=
  (e.details.head?.bind embeddedCause?).getD e.code

/-- The error of a document, if it has a code. -/
def errorOf? (d : Deployment) : Option DeploymentError := d.error.filter (fun e => e.code ≠ "")

/-- What a document says. -/
def ofDeployment (d : Deployment) : Except Cause Status :=
  match errorOf? d with
  | some e => .ok (.failed (causeOf e))
  | none =>
    if d.state = succeededState then
      match subscriptionId? d.id with
      | some subscription => .ok (.succeeded subscription)
      | none => .error (Cause.of ("failed to parse uuid from subscription ID: " ++ d.id))
    else if d.state = failedState ∨ d.state = canceledState then .ok (.failed d.state)
    else .ok (.running d.state)

/-- What the bytes of a document say. -/
def ofBytes (s : List UInt8) : Except Cause Status :=
  match Json.decode Deployment.decoder s with
  | .error e => .error ((Cause.of e.message).within "failed to parse deployment status")
  | .ok d => ofDeployment d

end Status

end CloudGrant.Azure
