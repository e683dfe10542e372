import CloudGrant.Intake.Queue
import CloudGrant.Json.Value

/-!
# The intake of the worker

Requests to the worker itself: to ask whether it is in good health, and to queue a message, which is
made of the request's headers and body. A message that the queue does not accept is refused for now.
-/

namespace CloudGrant.Worker

/-- A request to the worker. -/
structure Visit where
  method : String
  target : String
  headers : List (String × List UInt8)
  body : List UInt8

/-- What the worker answers. -/
structure Answer where
  status : Nat
  body : List UInt8

namespace Intake

def serviceName : String := "superkey-worker"
def version : String := "0.1.0"

/-- An answer in JSON. -/
def json (status : Nat) (v : Json.Value) : Answer := ⟨status, v.toBytes⟩

/-- An answer without a body. -/
def bare (status : Nat) : Answer := ⟨status, []⟩

def healthy : Answer :=
  json 200 (.object
    [("service", .text serviceName), ("status", .text "healthy"), ("version", .text version)])

/-- What a sender is told about a message. -/
def receipt : Queue.Receipt → Answer
  | .accepted => json 202 (.object [("status", .text "queued")])
  | .full => json 503 (.object [("error", .text "queue full")])
  | .closed => json 503 (.object [("error", .text "shutting down")])

/-- The longest body that is taken. -/
def bodyLimit : Nat := 2 * 1024 * 1024

/-- The path of a target, without its query. -/
def pathOf (target : String) : String := String.ofList (target.toList.takeWhile (· ≠ '?'))

/-- Answer a request. -/
def serve (q : Queue) (v : Visit) : Answer × Queue :=
  match pathOf v.target, v.method with
  | "/health", "GET" => (healthy, q)
  | "/health", "HEAD" => (bare 200, q)
  | "/health", _ => (bare 405, q)
  | "/api/superkey/messages", "POST" =>
    if v.body.length > bodyLimit then
      (⟨413, Text.Utf8.encode "Failed to buffer the request body: length limit exceeded"⟩, q)
    else
      let (r, q) := q.offer (Message.ofHttp v.headers v.body)
      (receipt r, q)
  | "/api/superkey/messages", _ => (bare 405, q)
  | _, _ => (bare 404, q)

end Intake

end CloudGrant.Worker
