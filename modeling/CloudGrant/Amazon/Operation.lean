import CloudGrant.Error
import CloudGrant.Report
import CloudGrant.Run.Basic

/-!
# Requests to Amazon's services

A single request to the storage, identity or billing service, and what it is answered. A request is
refused with an error code, or without one where the answer has none or there is no answer at all.
-/

namespace CloudGrant.Amazon

/-- A request that was refused. -/
structure Refusal where
  code : Option String
deriving DecidableEq

namespace Refusal

/-- The codes of what does not exist. -/
def absentCodes : List String := ["NoSuchBucket", "NoSuchEntity", "NoSuchKey"]

/-- Whether the refusal says that something does not exist. -/
def isAbsence (r : Refusal) : Bool := r.code.any (fun c => absentCodes.contains c)

end Refusal

/-- A page of a bucket's listing: its entries, of which some may lack a key, and where the next page
starts if there is one. -/
structure Page where
  keys : List (Option String)
  next : Option String
deriving DecidableEq

/-- A single request. -/
inductive Operation where
  | createBucket (bucket : String) (location : Option String)
  | putBucketPolicy (bucket document : String)
  | listObjects (bucket : String) (start : Option String)
  | deleteObject (bucket key : String)
  | deleteBucket (bucket : String)
  | createPolicy (name document : String)
  | deletePolicy (arn : String)
  | createRole (name document : String)
  | deleteRole (name : String)
  | attachRolePolicy (role arn : String)
  | detachRolePolicy (role arn : String)
  | putReport (report : Report)
  | deleteReport (name : String)
deriving DecidableEq

namespace Operation

/-- What an answer brings: a page, or the ARN of what was made. -/
@[reducible] def Result : Operation → Type
  | listObjects .. => Page
  | createPolicy .. | createRole .. => Option String
  | _ => Unit

/-- The name under which a request fails. -/
def name : Operation → String
  | createBucket .. => "CreateBucket"
  | putBucketPolicy .. => "PutBucketPolicy"
  | listObjects .. => "ListObjectsV2"
  | deleteObject .. => "DeleteObject"
  | deleteBucket _ => "DeleteBucket"
  | createPolicy .. => "CreatePolicy"
  | deletePolicy _ => "DeletePolicy"
  | createRole .. => "CreateRole"
  | deleteRole _ => "DeleteRole"
  | attachRolePolicy .. => "AttachRolePolicy"
  | detachRolePolicy .. => "DetachRolePolicy"
  | putReport _ => "PutReportDefinition"
  | deleteReport _ => "DeleteReportDefinition"

/-- The failure of a request. -/
def failure (o : Operation) (r : Refusal) : Cause :=
  (Cause.of ("service error" ++ (r.code.map (": " ++ ·)).getD "")).within o.name

/-- A request whose refusal fails. -/
def outcome (o : Operation) {α β : Type} (f : α → Except Cause β) :
    Except Refusal α → Except Cause β
  | .ok a => f a
  | .error r => .error (o.failure r)

/-- A request to remove something, which succeeds if the thing does not exist. -/
def removal (o : Operation) : Except Refusal Unit → Except Cause Unit
  | .ok _ => .ok ()
  | .error r => if r.isAbsence then .ok () else .error (o.failure r)

end Operation

/-- The interface of the services. -/
def services : Interface := ⟨Operation, fun o => Except Refusal o.Result⟩

/-- A program that uses the services. -/
abbrev ServiceWork (α : Type) : Type := Program services Unit α

/-- Send a request to its service. -/
def askService (o : Operation) : ServiceWork (Except Refusal o.Result) :=
  Program.ask (I := services) o

end CloudGrant.Amazon
