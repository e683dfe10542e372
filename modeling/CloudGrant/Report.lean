/-!
# Cost reports

The definition of a cost and usage report, as a step's payload gives it.
-/

namespace CloudGrant

/-- A cost and usage report definition. -/
structure Report where
  name : String
  timeUnit : String
  format : String
  compression : String
  schemaElements : List String
  bucket : String
  folder : String
  region : String
  artifacts : List String
deriving DecidableEq, Inhabited

end CloudGrant
