import CloudGrant.Amazon.Operation
import CloudGrant.Http.Client
import CloudGrant.Wire
import CloudGrant.Xml

/-!
# Requests to Amazon's services over HTTP

What is sent for each request, and how its answer is read. The storage service is addressed by paths
and answers in XML, the identity service takes forms and answers in XML, the billing service takes and
answers JSON. Signatures and the services' hosts are not part of a message.
-/

namespace CloudGrant.Amazon

/-- A request to a service: the target is the path with its query. -/
structure Message where
  method : Http.Method
  target : String
  contentType : Option String
  operation : Option String
  body : List UInt8

/-! ## Writing -/

namespace Message

/-- A text as a part of a URL or of a form. -/
def escaped (s : String) : String := String.ofList (Text.Percent.component s)

/-- A key as a part of a path, whose slashes are kept. -/
def escapedKey (s : String) : String :=
  String.ofList (Text.Percent.encode (fun c => Text.Percent.isUnreserved c || c == '/') s.toList)

/-- The path of a bucket. -/
def bucketPath (bucket : String) : String := "/" ++ escaped bucket ++ "/"

def bytesOf (s : String) : List UInt8 := Text.Utf8.encode s

/-- The document that says where a bucket is to be made. -/
def locationDocument (region : String) : String :=
  "<CreateBucketConfiguration xmlns=\"http://s3.amazonaws.com/doc/2006-03-01/\"><LocationConstraint>"
    ++ region ++ "</LocationConstraint></CreateBucketConfiguration>"

/-- A message to the storage service. -/
def storage (method : Http.Method) (target : String) : Message := ⟨method, target, none, none, []⟩

/-- The version of the identity service. -/
def identityVersion : String := "2010-05-08"

/-- A message to the identity service: a form of the action and its parameters. -/
def identity (action : String) (parameters : List (String × String)) : Message where
  method := .post
  target := "/"
  contentType := some "application/x-www-form-urlencoded"
  operation := none
  body := bytesOf ("&".intercalate
    ((("Action", action) :: ("Version", identityVersion) :: parameters).map fun p =>
      p.1 ++ "=" ++ escaped p.2))

/-- A message to the billing service. -/
def billing (operation : String) (document : Json.Value) : Message where
  method := .post
  target := "/"
  contentType := some "application/x-amz-json-1.1"
  operation := some ("AWSOrigamiServiceGatewayService." ++ operation)
  body := document.toBytes

end Message

namespace Operation

open CloudGrant.Amazon.Message

/-- The message of a request. -/
def message : Operation → Message
  | createBucket bucket location =>
    { storage .put (bucketPath bucket) with
      contentType := some "application/xml"
      body := bytesOf ((location.map locationDocument).getD "") }
  | putBucketPolicy bucket document =>
    { storage .put (bucketPath bucket ++ "?policy") with
      contentType := some "text/plain"
      body := bytesOf document }
  | listObjects bucket start =>
    storage .get (bucketPath bucket ++ "?list-type=2"
      ++ (start.map (fun t => "&continuation-token=" ++ escaped t)).getD "")
  | deleteObject bucket key =>
    storage .delete (bucketPath bucket ++ escapedKey key ++ "?x-id=DeleteObject")
  | deleteBucket bucket => storage .delete (bucketPath bucket)
  | createPolicy name document =>
    identity "CreatePolicy" [("PolicyName", name), ("PolicyDocument", document)]
  | deletePolicy arn => identity "DeletePolicy" [("PolicyArn", arn)]
  | createRole name document =>
    identity "CreateRole" [("RoleName", name), ("AssumeRolePolicyDocument", document)]
  | deleteRole name => identity "DeleteRole" [("RoleName", name)]
  | attachRolePolicy role arn =>
    identity "AttachRolePolicy" [("RoleName", role), ("PolicyArn", arn)]
  | detachRolePolicy role arn =>
    identity "DetachRolePolicy" [("RoleName", role), ("PolicyArn", arn)]
  | putReport report =>
    billing "PutReportDefinition" (.object [("ReportDefinition", Wire.Report.toJson report)])
  | deleteReport name =>
    billing "DeleteReportDefinition" (.object [("ReportName", .text name)])

/-- Whether a request can be addressed: a bucket and an object have names. -/
def isAddressed : Operation → Bool
  | createBucket bucket _ => bucket ≠ ""
  | putBucketPolicy bucket _ => bucket ≠ ""
  | listObjects bucket _ => bucket ≠ ""
  | deleteObject bucket key => bucket ≠ "" && key ≠ ""
  | deleteBucket bucket => bucket ≠ ""
  | _ => true

/-! ## Reading -/

/-- The document in a body. -/
def document? (body : List UInt8) : Option Xml.Node :=
  (Text.Utf8.decode? body).bind fun s => Xml.Node.parse? s.toList

/-- The error code in a document: where its element stands depends on the service. -/
def codeIn (path : List String) (root : String) (body : List UInt8) : Option String := do
  let document ← document? body
  if document.isNamed root then
    let code ← document.follow path
    some code.content
  else none

/-- The error code in a JSON document, without its name space. -/
def typeIn (body : List UInt8) : Option String :=
  match Json.Value.parse body with
  | .error _ => none
  | .ok v =>
    ((v.member? "__type").bind Json.Value.text?).map fun t =>
      let code := (t.toList.reverse.takeWhile (· ≠ '#')).reverse
      String.ofList (code.takeWhile (· ≠ ':'))

/-- The error code of a refused request. -/
def code? (o : Operation) (body : List UInt8) : Option String :=
  match o with
  | createBucket .. | putBucketPolicy .. | listObjects .. | deleteObject .. | deleteBucket _ =>
    codeIn ["Code"] "Error" body
  | putReport _ | deleteReport _ => typeIn body
  | _ => codeIn ["Error", "Code"] "ErrorResponse" body

/-- The page in a document. -/
def pageIn? (body : List UInt8) : Option Page := do
  let document ← document? body
  if document.isNamed "ListBucketResult" then
    let keys := (document.childrenNamed "Contents").map fun entry =>
      (entry.child? "Key").map Xml.Node.content
    some ⟨keys, (document.child? "NextContinuationToken").map Xml.Node.content⟩
  else none

/-- The element of what was made, which may be missing, in the answer of an action. -/
def madeIn? (action kind : String) (body : List UInt8) : Option (Option Xml.Node) := do
  let document ← document? body
  if document.isNamed (action ++ "Response") then
    let result ← document.child? (action ++ "Result")
    some (result.child? kind)
  else none

/-- The ARN in an element. -/
def arnIn (n : Xml.Node) : Option String := (n.child? "Arn").map Xml.Node.content

/-- Whether a body is JSON, or there is none. -/
def isJson (body : List UInt8) : Bool :=
  body.isEmpty || (match Json.Value.parse body with
    | .ok _ => true
    | .error _ => false)

/-- What the body of a successful answer brings. A role that is not in the answer has an empty ARN. -/
def result? (body : List UInt8) : (o : Operation) → Option o.Result
  | listObjects .. => pageIn? body
  | createPolicy .. => (madeIn? "CreatePolicy" "Policy" body).map fun made => made.bind arnIn
  | createRole .. =>
    (madeIn? "CreateRole" "Role" body).map fun made => some ((made.bind arnIn).getD "")
  | putReport _ => if isJson body then some () else none
  | deleteReport _ => if isJson body then some () else none
  | createBucket .. | putBucketPolicy .. | deleteObject .. | deleteBucket _ => some ()
  | deletePolicy _ | deleteRole _ | attachRolePolicy .. | detachRolePolicy .. => some ()

/-- What the answer to a request says; no answer is a refusal without a code. -/
def read (o : Operation) : Option Http.Response → Except Refusal o.Result
  | none => .error ⟨none⟩
  | some response =>
    match response.body with
    | none => .error ⟨none⟩
    | some body =>
      if response.isSuccess then
        match o.result? body with
        | some r => .ok r
        | none => .error ⟨none⟩
      else .error ⟨o.code? body⟩

end Operation

end CloudGrant.Amazon
