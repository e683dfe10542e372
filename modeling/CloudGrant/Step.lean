import CloudGrant.Dict

/-!
# Steps

A request lists the steps that give an application its resources: a bucket, a policy, a role, the
binding of the two, a cost report. `Step.Kind` is the closed list of kinds and `Step.Kind.name` the
name of each in messages and records; `ofName?_eq_some_iff` says that the names are read back exactly.
-/

namespace CloudGrant

/-- One step of a request. -/
structure Step where
  order : Int
  name : String
  payload : String
  substitutions : Dict String String

namespace Step

/-- What a step makes. -/
inductive Kind where
  | bucket
  | policy
  | role
  | binding
  | costReport
deriving DecidableEq

namespace Kind

/-- All kinds in the order in which they are listed to the user. -/
def all : List Kind := [bucket, policy, role, binding, costReport]

/-- The order in which resources are taken down: a binding before what it binds, and the bucket
last. -/
def teardownOrder : List Kind := [binding, policy, role, costReport, bucket]

/-- The name of a kind in messages and records. -/
def name : Kind → String
  | bucket => "s3"
  | policy => "policy"
  | role => "role"
  | binding => "bind_role"
  | costReport => "cost_report"

/-- The kind of a name. -/
def ofName? (s : String) : Option Kind := all.find? (fun k => k.name == s)

theorem name_injective {j k : Kind} (h : j.name = k.name) : j = k := by
  revert h
  cases j <;> cases k <;> decide

theorem ofName?_name (k : Kind) : ofName? k.name = some k := by cases k <;> decide

theorem ofName?_eq_some_iff {s : String} {k : Kind} : ofName? s = some k ↔ k.name = s := by
  constructor
  · intro h
    have := List.find?_some h
    simpa using this
  · rintro rfl
    exact ofName?_name k

theorem mem_teardownOrder (k : Kind) : k ∈ teardownOrder := by cases k <;> decide

end Kind

/-- The step without substitutions. -/
def plain (order : Int) (name payload : String) : Step := ⟨order, name, payload, Dict.empty⟩

/-- The step with one more placeholder. -/
def withPlaceholder (s : Step) (placeholder filler : String) : Step :=
  { s with substitutions := s.substitutions.insert placeholder filler }

end Step

/-- What a placeholder in a payload stands for. -/
inductive Filler where
  | account
  | bucketName
  | externalId
deriving DecidableEq

/-- The filler that a substitution names. -/
def Filler.ofName? (s : String) : Option Filler :=
  if s = "get_account" then some .account
  else if s = "s3" then some .bucketName
  else if s = "generate_external_id" then some .externalId
  else none

end CloudGrant
