import CloudGrant.Call
import CloudGrant.Dict

/-!
# What exists in the clouds

The resources that exist in a simulated Amazon account and Azure subscription, as one set. Calls act
on the one resource that they name: making it again and removing what is absent change nothing. Since
the set is kept in order, equal contents are equal values (`Holdings.ext_has`).
-/

namespace CloudGrant.Simulation

/-- Something that exists. -/
inductive Resource where
  | bucket (name : String)
  | policy (arn : String)
  | role (name : String)
  | attachment (role arn : String)
  | report (name : String)
  | deployment (name : String)
deriving DecidableEq

namespace Resource

/-- The words by which resources are ordered: the kind first. -/
def words : Resource → List String
  | bucket name => ["bucket", name]
  | policy arn => ["policy", arn]
  | role name => ["role", name]
  | attachment owner arn => ["attachment", owner, arn]
  | report name => ["report", name]
  | deployment name => ["deployment", name]

theorem words_injective {r s : Resource} (h : r.words = s.words) : r = s := by
  cases r <;> cases s <;> simp_all [words]

instance : LT Resource := ⟨fun r s => r.words < s.words⟩

instance : DecidableLT Resource := fun r s => inferInstanceAs (Decidable (r.words < s.words))

instance : Key Resource where
  lt_irrefl r := List.lt_irrefl r.words
  lt_trans h₁ h₂ := List.lt_trans h₁ h₂
  eq_of_not_lt h₁ h₂ := words_injective
    (List.le_antisymm (List.not_lt.mp h₂) (List.not_lt.mp h₁))

end Resource

/-- The set of what exists. -/
structure Holdings where
  resources : Dict Resource Unit

namespace Holdings

/-- Nothing exists. -/
def empty : Holdings := ⟨Dict.empty⟩

/-- Whether a resource exists. -/
def has (h : Holdings) (r : Resource) : Bool := h.resources.contains r

def add (h : Holdings) (r : Resource) : Holdings := ⟨h.resources.insert r ()⟩

def remove (h : Holdings) (r : Resource) : Holdings := ⟨h.resources.erase r⟩

/-- All that exists, in order. -/
def toList (h : Holdings) : List Resource := h.resources.keys

@[simp] theorem has_add (h : Holdings) (r s : Resource) :
    (h.add r).has s = (decide (s = r) || h.has s) := by
  by_cases hs : s = r <;> simp [has, add, Dict.contains, Dict.find?_insert, hs]

@[simp] theorem has_remove (h : Holdings) (r s : Resource) :
    (h.remove r).has s = (!decide (s = r) && h.has s) := by
  by_cases hs : s = r <;> simp [has, remove, Dict.contains, Dict.find?_erase, hs]

/-- **Equal contents are equal values.** -/
theorem ext_has {h k : Holdings} (e : ∀ r, h.has r = k.has r) : h = k := by
  cases h with | mk d => cases k with | mk f =>
  congr 1
  refine Dict.ext_find? fun r => ?_
  have hr := e r
  simp only [has, Dict.contains] at hr
  cases hd : d.find? r <;> cases hf : f.find? r <;> simp_all

end Holdings

/-! ## Amazon -/

/-- The account in the ARNs of what is made. -/
def arn (kind name : String) : String := "arn:aws:iam::000000000000:" ++ kind ++ "/" ++ name

/-- What a successful call gives. -/
def amazonResult : (c : Amazon.Call) → c.Result
  | .createBucket _ => ()
  | .putBucketPolicy .. => ()
  | .deleteBucket _ => ()
  | .createPolicy name _ => arn "policy" name
  | .deletePolicy _ => ()
  | .createRole name _ => arn "role" name
  | .deleteRole _ => ()
  | .attachRolePolicy .. => ()
  | .detachRolePolicy .. => ()
  | .putReport _ => ()
  | .deleteReport _ => ()

/-- What a successful call changes. -/
def Holdings.afterAmazon (h : Holdings) : Amazon.Call → Holdings
  | .createBucket name => h.add (.bucket name)
  | .putBucketPolicy .. => h
  | .deleteBucket name => h.remove (.bucket name)
  | .createPolicy name _ => h.add (.policy (arn "policy" name))
  | .deletePolicy arn => h.remove (.policy arn)
  | .createRole name _ => h.add (.role name)
  | .deleteRole name => h.remove (.role name)
  | .attachRolePolicy role arn => h.add (.attachment role arn)
  | .detachRolePolicy role arn => h.remove (.attachment role arn)
  | .putReport r => h.add (.report r.name)
  | .deleteReport name => h.remove (.report name)

/-! ## Azure -/

/-- What a successful command changes. A deployment exists from when it was started. -/
def Holdings.afterAzure (h : Holdings) : Azure.Call → Holdings
  | .delete name => h.remove (.deployment name)
  | _ => h

/-- What the mere start of a command changes. -/
def Holdings.onAzureStart (h : Holdings) : Azure.Call → Holdings
  | .deploy name _ => h.add (.deployment name)
  | _ => h

end CloudGrant.Simulation
