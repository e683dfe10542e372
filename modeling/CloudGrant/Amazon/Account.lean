import CloudGrant.Amazon.Emptying
import CloudGrant.Call

/-!
# Calls to an account

How a call is carried out by requests to the services. Each is one request, but for the deletion of a
bucket, which first empties it. To remove what does not exist is a success.
-/

namespace CloudGrant.Amazon

/-- The region where a bucket is made without saying so. -/
def homeRegion : String := "us-east-1"

/-- Where a bucket is to be made, if it has to be said. -/
def location? (region : String) : Option String := if region = homeRegion then none else some region

/-- How many requests the deletion of one bucket may take. -/
def emptyingBudget : Nat := 0x10000000000000000

/-- The ARN of a policy that was made. -/
def policyArn : Option String → Except Cause String
  | some arn => .ok arn
  | none => .error (Cause.of "CreatePolicy returned no policy ARN")

/-- The ARN of a role that was made. -/
def roleArn : Option String → Except Cause String
  | some arn => .ok arn
  | none => .error (Cause.of "CreateRole returned no role")

/-- Send a request whose refusal is a failure. -/
def demand (o : Operation) {β : Type} (f : o.Result → Except Cause β) :
    ServiceWork (Except Cause β) := do
  let answer ← askService o
  pure (o.outcome f answer)

/-- Carry out a call in a region. -/
def carryOut (region : String) : (c : Call) → ServiceWork (Except Cause c.Result)
  | .createBucket name => demand (.createBucket name (location? region)) Except.ok
  | .putBucketPolicy bucket document => demand (.putBucketPolicy bucket document) Except.ok
  | .deleteBucket name => Emptying.program name emptyingBudget .start
  | .createPolicy name document => demand (.createPolicy name document) policyArn
  | .deletePolicy arn => do
    let answer ← askService (.deletePolicy arn)
    pure ((Operation.deletePolicy arn).removal answer)
  | .createRole name document => demand (.createRole name document) roleArn
  | .deleteRole name => do
    let answer ← askService (.deleteRole name)
    pure ((Operation.deleteRole name).removal answer)
  | .attachRolePolicy role arn => demand (.attachRolePolicy role arn) Except.ok
  | .detachRolePolicy role arn => do
    let answer ← askService (.detachRolePolicy role arn)
    pure ((Operation.detachRolePolicy role arn).removal answer)
  | .putReport report => demand (.putReport report) Except.ok
  | .deleteReport name => demand (.deleteReport name) Except.ok

end CloudGrant.Amazon
