import CloudGrant.Duration
import CloudGrant.Http.Url
import CloudGrant.Run.Basic
import CloudGrant.Text.Base64

/-!
# Requests over HTTP

A request is made from the text of a URL (`Request.make`), or it is found out why it can never be
sent. `Request.send` sends it over the `network` and follows redirects; of what can go wrong, the
program is told in one text (`Failure.message`), which names the URL where there is one.

The network itself answers a single request with a response or not at all.
-/

namespace CloudGrant.Http

/-! ## Requests and responses -/

/-- What is asked of a resource. -/
inductive Method where
  | get
  | head
  | post
  | put
  | patch
  | delete
deriving DecidableEq

def Method.text : Method → String
  | get => "GET"
  | head => "HEAD"
  | post => "POST"
  | put => "PUT"
  | patch => "PATCH"
  | delete => "DELETE"

/-- A request. Names of headers are in lower case. -/
structure Request where
  method : Method
  url : Url
  headers : List (String × String)
  body : Option (List UInt8)
deriving DecidableEq

/-- The answer to a request; the body is absent if it broke off. -/
structure Response where
  status : Nat
  headers : List (String × String)
  body : Option (List UInt8)
deriving DecidableEq

namespace Response

/-- Whether the request succeeded. -/
def isSuccess (r : Response) : Bool := 200 ≤ r.status && r.status < 300

/-- The first value of a header; the name is in lower case. -/
def header? (r : Response) (name : String) : Option String :=
  (r.headers.find? (fun h => h.1.toLower == name)).map Prod.snd

end Response

/-! ## The network -/

/-- What is asked of the network: to send a request and wait for its answer no longer than a limit, or
to let time pass. -/
inductive Exchange where
  | send (request : Request) (limit : Duration)
  | wait (span : Duration)

/-- No answer to a request means that the connection was refused or closed, or the limit passed. -/
@[reducible] def Exchange.Reply : Exchange → Type
  | send .. => Option Response
  | wait _ => Unit

/-- The interface of the network. -/
def network : Interface := ⟨Exchange, Exchange.Reply⟩

/-- A program that uses the network. -/
abbrev NetWork (α : Type) : Type := Program network Unit α

/-- Ask the network. -/
def askNetwork (e : Exchange) : NetWork e.Reply := Program.ask (I := network) e

/-! ## Failures -/

/-- Why a request got no response. -/
inductive Failure where
  | malformed
  | unsupported (url : Url)
  | unanswered (url : Url)
  | redirectedTooOften (url : Url)
  | brokenOff
deriving DecidableEq

namespace Failure

/-- A text with the URL that it is about. -/
def about (what : String) (url : Url) : String := what ++ " for url (" ++ url.text ++ ")"

def message : Failure → String
  | malformed => "builder error"
  | unsupported url => about "builder error" url
  | unanswered url => about "error sending request" url
  | redirectedTooOften url => about "error following redirect" url
  | brokenOff => "error decoding response body"

end Failure

/-- The body of a response. -/
def Response.read (r : Response) : Except Failure (List UInt8) :=
  match r.body with
  | some bytes => .ok bytes
  | none => .error .brokenOff

/-! ## Making requests -/

/-- Whether a text may be the value of a header: it has no control characters but tabs. -/
def isFieldValue (s : String) : Bool :=
  s.toList.all (fun c => c == '\t' || (0x20 ≤ c.toNat && c.toNat ≠ 0x7F))

/-- The header that logs in the user of a URL. -/
def loginHeaders (u : Url) : List (String × String) :=
  match u.userInfo with
  | none => []
  | some (user, password) =>
    [("authorization", "Basic " ++ String.ofList (Text.Base64.encode
      (Text.Percent.decode user ++ 0x3A :: Text.Percent.decode password)))]

namespace Request

/-- A request to a URL. A URL that names no host is noticed before an unfit header, and one that
cannot be reached by HTTP after it. -/
def make (method : Method) (url : String) (headers : List (String × String))
    (body : Option (List UInt8)) : Except Failure Request :=
  match Url.parse? url with
  | none => .error .malformed
  | some named =>
    let u := { named with userInfo := none }
    if !u.hasHost then .error (.unsupported u)
    else if !headers.all (fun h => isFieldValue h.2) then .error .malformed
    else if !u.isWeb then .error (.unsupported u)
    else .ok ⟨method, u, loginHeaders named ++ headers, body⟩

/-! ## Redirects -/

/-- The request without a body, as a question. -/
def asQuestion (r : Request) : Request :=
  { r with
    method := .get
    headers := r.headers.filter (fun h => h.1 ≠ "content-type")
    body := none }

/-- What a redirect of a status makes of a request, if the status is one. -/
def redirected? (r : Request) (status : Nat) : Option Request :=
  match status with
  | 301 | 302 => some (if r.method = .post then r.asQuestion else r)
  | 303 => some (if r.method = .get ∨ r.method = .head then r else r.asQuestion)
  | 307 | 308 => some r
  | _ => none

/-- The request to send after a response, if it redirects to somewhere. -/
def next? (r : Request) (response : Response) : Option Request := do
  let again ← r.redirected? response.status
  let location ← response.header? "location"
  let url ← r.url.join? location
  some { again with url := url }

/-- How many redirects are followed. -/
def maxRedirects : Nat := 10

/-- What comes of the answer to a request; `follow` goes on where it is redirected to. -/
def receive (r : Request) (follow : Request → NetWork (Except Failure Response)) :
    Option Response → NetWork (Except Failure Response)
  | none => pure (.error (.unanswered r.url))
  | some response =>
    match r.next? response with
    | none => pure (.ok response)
    | some next => follow next

/-- Send a request and follow up to so many redirects. -/
def sendFollowing (limit : Duration) : (hops : Nat) → Request → NetWork (Except Failure Response)
  | 0, r => do
    let answer ← askNetwork (.send r limit)
    r.receive (fun _ => pure (.error (.redirectedTooOften r.url))) answer
  | hops + 1, r => do
    let answer ← askNetwork (.send r limit)
    r.receive (fun next =>
      if next.url.hasHost && next.url.isWeb then sendFollowing limit hops next
      else pure (.error (.unsupported next.url))) answer

/-- Send a request. -/
def send (r : Request) (limit : Duration) : NetWork (Except Failure Response) :=
  sendFollowing limit maxRedirects r

end Request

/-! ## Statuses in words -/

/-- The phrases that belong to statuses. -/
def statusPhrases : List (Nat × String) :=
  [ (100, "Continue"), (101, "Switching Protocols"), (102, "Processing"), (103, "Early Hints")
  , (200, "OK"), (201, "Created"), (202, "Accepted"), (203, "Non Authoritative Information")
  , (204, "No Content"), (205, "Reset Content"), (206, "Partial Content"), (207, "Multi-Status")
  , (208, "Already Reported"), (226, "IM Used"), (300, "Multiple Choices")
  , (301, "Moved Permanently"), (302, "Found"), (303, "See Other"), (304, "Not Modified")
  , (305, "Use Proxy"), (307, "Temporary Redirect"), (308, "Permanent Redirect")
  , (400, "Bad Request"), (401, "Unauthorized"), (402, "Payment Required"), (403, "Forbidden")
  , (404, "Not Found"), (405, "Method Not Allowed"), (406, "Not Acceptable")
  , (407, "Proxy Authentication Required"), (408, "Request Timeout"), (409, "Conflict")
  , (410, "Gone"), (411, "Length Required"), (412, "Precondition Failed")
  , (413, "Payload Too Large"), (414, "URI Too Long"), (415, "Unsupported Media Type")
  , (416, "Range Not Satisfiable"), (417, "Expectation Failed"), (418, "I'm a teapot")
  , (421, "Misdirected Request"), (422, "Unprocessable Entity"), (423, "Locked")
  , (424, "Failed Dependency"), (425, "Too Early"), (426, "Upgrade Required")
  , (428, "Precondition Required"), (429, "Too Many Requests")
  , (431, "Request Header Fields Too Large"), (451, "Unavailable For Legal Reasons")
  , (500, "Internal Server Error"), (501, "Not Implemented"), (502, "Bad Gateway")
  , (503, "Service Unavailable"), (504, "Gateway Timeout"), (505, "HTTP Version Not Supported")
  , (506, "Variant Also Negotiates"), (507, "Insufficient Storage"), (508, "Loop Detected")
  , (510, "Not Extended"), (511, "Network Authentication Required") ]

/-- A status with its phrase. -/
def statusText (status : Nat) : String :=
  let phrase := match statusPhrases.find? (fun e => e.1 == status) with
    | some (_, phrase) => phrase
    | none => "<unknown status code>"
  toString status ++ " " ++ phrase

end CloudGrant.Http
