import CloudGrant.Duration

/-!
# Failures

Everything that can go wrong with a request. `Error` has one constructor for each cause, `Error.message`
is the wording that is returned and reported.
-/

namespace CloudGrant

/-- A chain of causes, the outermost first. -/
structure Cause where
  chain : List String
deriving DecidableEq

namespace Cause

def of (s : String) : Cause := ⟨[s]⟩

/-- Put a context around a cause. -/
def within (context : String) (c : Cause) : Cause := ⟨context :: c.chain⟩

/-- The whole chain. -/
def text (c : Cause) : String := ": ".intercalate c.chain

/-- The outermost cause alone. -/
def head (c : Cause) : String := c.chain.headD ""

end Cause

/-- A call to the inventory that failed; `status` is absent if no answer came. -/
structure InventoryError where
  operation : String
  status : Option Nat
  body : String
deriving DecidableEq

/-- The status of an answer, or `none`. -/
def statusText : Option Nat → String
  | none => "none"
  | some n => toString n

def InventoryError.message (e : InventoryError) : String :=
  e.operation ++ " failed (status: " ++ statusText e.status ++ "): " ++ e.body

/-- Why a request failed. -/
inductive Error where
  | invalid (reason : String)
  | unsupportedProvider (name : String)
  | missingCredential (authentication superKey : String)
  | stepFailed (step : String) (cause : Cause)
  | unknownStep (name : String)
  | inventory (e : InventoryError)
  | deployment (cause : Cause)
  | undo (step resource : String) (cause : Cause)
  | teardown (failures : List Error)
  | configuration (reason : String)
  | deadline (limit : Duration)

namespace Error

mutual

/-- The wording of a failure. -/
def message : Error → String
  | invalid reason => "Invalid superkey request: " ++ reason
  | unsupportedProvider name => "Unsupported auth provider \"" ++ name ++ "\""
  | missingCredential authentication superKey =>
    "Missing username or password from authentication ID \"" ++ authentication
      ++ "\" and superkey credential \"" ++ superKey ++ "\""
  | stepFailed step cause => "Superkey step \"" ++ step ++ "\" failed: " ++ cause.text
  | unknownStep name => "Superkey step \"" ++ name ++ "\" not implemented"
  | inventory e => e.message
  | deployment cause => "Deployment error: " ++ cause.text
  | undo step resource cause =>
    "Failed to tear down " ++ step ++ " \"" ++ resource ++ "\": " ++ cause.text
  | teardown failures =>
    toString failures.length ++ " teardown error(s): " ++ "; ".intercalate (messages failures)
  | configuration reason => "Configuration error: " ++ reason
  | deadline limit => "Request deadline of " ++ limit.text ++ " exceeded"

/-- The wordings of several failures. -/
def messages : List Error → List String
  | [] => []
  | e :: es => message e :: messages es

end

/-- The causes that a failure was made from, outermost first. -/
def sources : Error → List String
  | stepFailed _ cause => cause.chain
  | undo _ _ cause => cause.chain
  | _ => []

/-- One failure for several, if there are any. -/
def ofFailures? (failures : List Error) : Option Error :=
  if failures.isEmpty then none else some (.teardown failures)

end Error

end CloudGrant
