import CloudGrant.Amazon.Message
import CloudGrant.Guid
import CloudGrant.Worker.Basic
import CloudGrant.Worker.Intake

/-!
# The channel to the host

The worker has no sockets and starts no programs itself. The process that it runs under, its host,
does so for it, and the two exchange values in JSON, with bytes in Base64. This module says what the
worker asks its host (`Question`), how a question is written and how the host's answer is read, and
what form requests to the worker and its answers have on the channel.

An answer that cannot be read counts as what the host says when something fails: there was no
response, the tool did not start, there is no such file.
-/

namespace CloudGrant.Worker.Channel

open Json (Value)

/-! ## Values -/

def bytes (b : List UInt8) : Value := .text (String.ofList (Text.Base64.encode b))

def bytes? (v : Value) : Option (List UInt8) := v.text?.bind fun s => Text.Base64.decode? s.toList

def nat? : Value → Option Nat
  | .number (.int n) => if 0 ≤ n then some n.toNat else none
  | _ => none

/-- A text that may be absent. -/
def optional (s : Option String) : Value := (s.map Value.text).getD .null

def texts (l : List String) : Value := .list (l.map .text)

/-- A list of names with their values. -/
def pairs (l : List (String × String)) : Value := .list (l.map fun p => texts [p.1, p.2])

def pair? : Value → Option (String × String)
  | .list [.text a, .text b] => some (a, b)
  | _ => none

/-- The names with their values in a member; what is no such pair is left out. -/
def pairsIn (v : Value) (key : String) : List (String × String) :=
  match v.member? key with
  | some (.list l) => l.filterMap pair?
  | _ => []

/-- The text of a member, empty if there is none. -/
def textIn (v : Value) (key : String) : String := ((v.member? key).bind Value.text?).getD ""

/-- The bytes of a member, none if there is no such member. -/
def bytesIn (v : Value) (key : String) : List UInt8 := ((v.member? key).bind bytes?).getD []

/-! ## Questions -/

/-- What the worker asks its host: to listen at an address, to look at a place or to write there, or
what a task demands of the world outside. -/
inductive Question where
  | listen (address : String)
  | look (path : String)
  | write (path : String) (content : List UInt8)
  | demand (d : Gateway.Demand)

/-- What the host answers. -/
@[reducible] def Question.Reply : Question → Type
  | listen _ => Bool
  | look _ => Option Files.Entry
  | write .. => Unit
  | demand d => d.Reply

/-- What is asked of the network. -/
def exchange : Http.Exchange → Value
  | .send r limit =>
    .object [("send", .object
      [ ("method", .text r.method.text)
      , ("url", .text r.url.text)
      , ("headers", pairs r.headers)
      , ("body", (r.body.map bytes).getD .null)
      , ("limit_ms", .ofNat limit.milliseconds) ])]
  | .wait span => .object [("wait_ms", .ofNat span.milliseconds)]

/-- What is asked of Amazon's services; the host signs the request with the login. -/
def serviceRequest (keyId secret region : String) (m : Amazon.Message) : Value :=
  .object [("service", .object
    [ ("login", texts [keyId, secret])
    , ("region", .text region)
    , ("method", .text m.method.text)
    , ("target", .text m.target)
    , ("content_type", optional m.contentType)
    , ("operation", optional m.operation)
    , ("body", bytes m.body) ])]

/-- What is asked of the command line tool. -/
def toolRequest : Azure.ToolQuestion → Value
  | .makeHome => .object [("make_home", .null)]
  | .run home arguments =>
    .object [("run", .object [("home", .text home), ("arguments", texts arguments)])]
  | .wait span => .object [("wait_ms", .ofNat span.milliseconds)]
  | .removeHome home => .object [("remove_home", .text home)]

/-- A demand in JSON. -/
def demand : Gateway.Demand → Value
  | .network e => exchange e
  | .service keyId secret region o => serviceRequest keyId secret region o.message
  | .tool q => toolRequest q
  | .guid => .object [("random_bytes", .ofNat Guid.size)]

/-- A question in JSON. -/
def Question.toJson : Question → Value
  | listen address => .object [("listen", .text address)]
  | look path => .object [("look", .text path)]
  | write path content =>
    .object [("write", .object [("path", .text path), ("content", bytes content)])]
  | demand d => Channel.demand d

/-- A question, with the time in milliseconds that is left to answer it if that is limited. -/
def ask (q : Question) (left : Option Nat) : Value :=
  .object (("ask", q.toJson) :: (left.map fun ms => ("within_ms", Value.ofNat ms)).toList)

/-! ## Answers of the host -/

/-- A response. One without a body broke off. -/
def response? (v : Value) : Option Http.Response := do
  let status ← (v.member? "status").bind nat?
  some ⟨status, pairsIn v "headers", (v.member? "body").bind bytes?⟩

/-- What came of a run of the tool. -/
def outcome (v : Value) : Azure.Outcome :=
  let ended (e : Azure.Ending) : Azure.Outcome := .ended e (bytesIn v "output") (bytesIn v "errors")
  match (v.member? "exit").bind nat?, (v.member? "signal").bind nat?, v.member? "timed_out" with
  | some code, _, _ => ended (.exited code)
  | none, some signal, _ => ended (.killed signal)
  | none, none, some _ => .timedOut
  | none, none, none => .notStarted (textIn v "failure")

/-- The home that was made, or why there is none. -/
def home (v : Value) : Except Cause String :=
  match v.text? with
  | some h => .ok h
  | none => .error (Cause.of (textIn v "failure"))

/-- What is at a place. -/
def entry? (v : Value) : Option Files.Entry :=
  match (v.member? "content").bind bytes?, v.member? "directory" with
  | some content, _ => some (.file content)
  | none, some _ => some .directory
  | none, none => none

/-- What an answer says to a demand. -/
def demandReply (v : Value) : (d : Gateway.Demand) → d.Reply
  | .network (.send _ _) => response? v
  | .network (.wait _) => ()
  | .service _ _ _ o => o.read (if o.isAddressed then response? v else none)
  | .tool .makeHome => home v
  | .tool (.run _ _) => outcome v
  | .tool (.wait _) => ()
  | .tool (.removeHome _) => ()
  | .guid => Guid.ofBytes ((bytes? v).getD [])

/-- What an answer says to a question. -/
def reply (v : Value) : (q : Question) → q.Reply
  | .listen _ => (v.member? "failure").isNone
  | .look _ => entry? v
  | .write _ _ => ()
  | .demand d => demandReply v d

/-- The answer in a line of the host, unless the time for it ran out. -/
def answer? (v : Value) : Option Value := v.member? "answer"

/-! ## Requests to the worker -/

/-- A request to the worker. -/
def visit (v : Value) : Visit where
  method := textIn v "method"
  target := textIn v "path"
  headers := (pairsIn v "headers").map fun h => (h.1, Text.Utf8.encode h.2)
  body := bytesIn v "body"

/-- The worker's answer to a request. -/
def answered (a : Answer) : Value :=
  .object [("response", .object [("status", .ofNat a.status), ("body", bytes a.body)])]

/-- How the task of a message ended. -/
def finished : Except Error Unit → Value
  | .ok () => .object [("finished", .null)]
  | .error e => .object [("finished", .text e.message)]

end CloudGrant.Worker.Channel
