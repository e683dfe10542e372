import CloudGrant.Http.Client
import CloudGrant.Inventory.Body
import CloudGrant.Inventory.Identity
import CloudGrant.Wire

/-!
# Calls to the inventory over HTTP

Each call is one request: its method, path and body are fixed by the call, its headers by the caller
and the settings. The request is sent until an answer is final, but no more often than the settings
allow, and the same each time; of several failures the last one is returned. What the inventory
rejects as a mistake of the caller is final as soon as the whole answer has been read.
-/

namespace CloudGrant.Inventory

/-! ## The request of a call -/

def Call.method : Call → Http.Method
  | credential _ => .get
  | patchApplication .. => .patch
  | patchSource .. => .patch
  | createAuthentication _ => .post
  | linkAuthentication .. => .post
  | checkAvailability _ => .post

/-- The path of all calls but those for secrets. -/
def publicPath : String := "/api/sources/v3.1"

/-- The path of calls for secrets. -/
def internalPath : String := "/internal/v2.0"

/-- An id as a segment of a path. -/
def segment (id : String) : String := String.ofList (Text.Percent.component id)

/-- The path of a call, with its query. -/
def Call.path : Call → String
  | credential id =>
    internalPath ++ "/authentications/" ++ segment id ++ "?expose_encrypted_attribute[]=password"
  | patchApplication id _ => publicPath ++ "/applications/" ++ segment id
  | patchSource id _ => publicPath ++ "/sources/" ++ segment id
  | createAuthentication _ => publicPath ++ "/authentications"
  | linkAuthentication .. => publicPath ++ "/application_authentications"
  | checkAvailability source => publicPath ++ "/sources/" ++ segment source ++ "/check_availability"

/-- The URL of a call. -/
def Settings.url (s : Settings) (c : Call) : String := s.baseUrl ++ c.path

/-- The header that goes with a body. -/
def contentHeaders (body : Option Json.Value) : List (String × String) :=
  if body.isSome then [("content-type", "application/json")] else []

/-- The request of a call. -/
def Settings.request (s : Settings) (caller : Caller) (c : Call) :
    Except Http.Failure Http.Request :=
  Http.Request.make c.method (s.url c) (s.headers caller ++ contentHeaders c.body?)
    (c.body?.map Json.Value.toBytes)

/-! ## Attempts -/

/-- Whether an answer of a status, which is no success, is final. -/
def isFinal (status : Nat) : Bool :=
  400 ≤ status && status < 500 && status ≠ 408 && status ≠ 429

/-- What one attempt came to. -/
inductive Verdict where
  | accepted (body : List UInt8)
  | rejected (e : InventoryError)
  | failed (e : InventoryError)

/-- What the response to a call came to. An answer that breaks off is never final. -/
def verdict (operation : String) : Except Http.Failure Http.Response → Verdict
  | .error f => .failed ⟨operation, none, f.message⟩
  | .ok response =>
    match response.read with
    | .error f =>
      .failed ⟨operation, some response.status, "failed to read response body: " ++ f.message⟩
    | .ok body =>
      if response.isSuccess then .accepted body
      else
        let e : InventoryError := ⟨operation, some response.status, Text.Utf8.decodeLossy body⟩
        if isFinal response.status then .rejected e else .failed e

/-- Send a request, if it could be made. -/
def exchange (limit : Duration) : Except Http.Failure Http.Request →
    Http.NetWork (Except Http.Failure Http.Response)
  | .error f => pure (.error f)
  | .ok request => request.send limit

/-- Send a request until an answer is final, and up to so many times again. -/
def Settings.sendAgain (s : Settings) (operation : String)
    (request : Except Http.Failure Http.Request) (again : Nat) :
    Http.NetWork (Except InventoryError (List UInt8)) := do
  let result ← exchange s.timeout request
  match verdict operation result with
  | .accepted body => pure (.ok body)
  | .rejected e => pure (.error e)
  | .failed e =>
    match again with
    | 0 => pure (.error e)
    | again + 1 => do
      Http.askNetwork (.wait s.retryDelay)
      s.sendAgain operation request again

/-- The body of the answer to a call. At least one attempt is made. -/
def Settings.fetch (s : Settings) (caller : Caller) (c : Call) :
    Http.NetWork (Except InventoryError (List UInt8)) :=
  s.sendAgain c.operation (s.request caller c) (s.attempts - 1)

/-! ## Answers -/

/-- Read the body of an answer. -/
def read {α : Type} (operation : String) (d : Json.Decoder α) (body : List UInt8) :
    Except InventoryError α :=
  (Json.decode d body).mapError fun e =>
    ⟨operation, none, "failed to decode response: " ++ e.message⟩

/-- What a call gives, from the body of its answer. -/
def Call.result (body : List UInt8) : (c : Call) → Except InventoryError c.Result
  | credential id => read (credential id).operation Wire.credential body
  | createAuthentication a => read (createAuthentication a).operation Wire.authenticationId body
  | patchApplication .. => .ok ()
  | patchSource .. => .ok ()
  | linkAuthentication .. => .ok ()
  | checkAvailability _ => .ok ()

/-- Carry out a call. -/
def Settings.carryOut (s : Settings) (caller : Caller) (c : Call) :
    Http.NetWork (Except InventoryError c.Result) := do
  let fetched ← s.fetch caller c
  pure (fetched.bind fun body => c.result body)

end CloudGrant.Inventory
