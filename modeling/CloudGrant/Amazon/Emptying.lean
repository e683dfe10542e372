import CloudGrant.Amazon.Operation

/-!
# Emptying a bucket

Only an empty bucket can be deleted. Its objects are listed page by page, those of a page are deleted
in their order before the next page is asked for, and the bucket is deleted last. An `Emptying` is a
point on this way: it says which request comes next (`operation?`), and the answer leads to another
point (`afterPage`, `afterObject`, `afterBucket`). A refusal ends the way, with success if what was to
be listed or removed as a bucket does not exist.

The number of pages is not known beforehand, so `program` gives up when it has sent as many requests as
it may.
-/

namespace CloudGrant.Amazon

/-- A point on the way to the deletion of a bucket. -/
inductive Emptying where
  | listing (start : Option String)
  | deleting (key : String) (keys : List String) (next : Option String)
  | finishing
  | ended (result : Except Cause Unit)

namespace Emptying

/-- The first point. -/
def start : Emptying := listing none

/-- The request that comes next. -/
def operation? (bucket : String) : Emptying → Option Operation
  | listing start => some (.listObjects bucket start)
  | deleting key _ _ => some (.deleteObject bucket key)
  | finishing => some (.deleteBucket bucket)
  | ended _ => none

/-- The point when some objects of a page are left to be deleted. -/
def withKeys (keys : List String) (next : Option String) : Emptying :=
  match keys, next with
  | key :: keys, next => deleting key keys next
  | [], some start => listing (some start)
  | [], none => finishing

/-- Where the page after this one starts: an empty mark, or the one that this page started at, means
that there is none. -/
def nextStart (start : Option String) (page : Page) : Option String :=
  page.next.filter (fun next => next ≠ "" ∧ some next ≠ start)

/-- What follows the answer to the listing of a page. -/
def afterPage (bucket : String) (start : Option String) : Except Refusal Page → Emptying
  | .ok page => withKeys (page.keys.filterMap id) (nextStart start page)
  | .error r =>
    if r.isAbsence then ended (.ok ())
    else ended (.error ((Operation.listObjects bucket start).failure r))

/-- What follows the answer to the deletion of an object. -/
def afterObject (bucket key : String) (keys : List String) (next : Option String) :
    Except Refusal Unit → Emptying
  | .ok _ => withKeys keys next
  | .error r => ended (.error ((Operation.deleteObject bucket key).failure r))

/-- What follows the answer to the deletion of the bucket. -/
def afterBucket (bucket : String) (answer : Except Refusal Unit) : Emptying :=
  ended ((Operation.deleteBucket bucket).removal answer)

/-- How each request of an interval would be answered. -/
abbrev Answers : Type := (o : Operation) → Except Refusal o.Result

/-- The point after the next request is answered. -/
def step (bucket : String) (answers : Answers) : Emptying → Emptying
  | listing start => afterPage bucket start (answers (.listObjects bucket start))
  | deleting key keys next =>
    afterObject bucket key keys next (answers (.deleteObject bucket key))
  | finishing => afterBucket bucket (answers (.deleteBucket bucket))
  | ended result => ended result

/-- Go on from a point, and send so many requests at most. -/
def program (bucket : String) (budget : Nat) (e : Emptying) : ServiceWork (Except Cause Unit) := do
  match e, budget with
  | ended result, _ => pure result
  | _, 0 => pure (.error (Cause.of ("bucket \"" ++ bucket ++ "\" could not be emptied")))
  | listing start, budget + 1 => do
    let answer ← askService (.listObjects bucket start)
    program bucket budget (afterPage bucket start answer)
  | deleting key keys next, budget + 1 => do
    let answer ← askService (.deleteObject bucket key)
    program bucket budget (afterObject bucket key keys next answer)
  | finishing, budget + 1 => do
    let answer ← askService (.deleteBucket bucket)
    program bucket budget (afterBucket bucket answer)

end Emptying

end CloudGrant.Amazon
