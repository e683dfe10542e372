/-!
# Resource names

Every resource of an application is named from the base name of the application's type, the kind of
resource and the application's guid. The type is read as a path, without the slashes at its end: its
base name is the name that the path ends in. A type that ends in no name stands for itself.
-/

namespace CloudGrant.Naming

/-! ## Paths -/

/-- The segments between the occurrences of a separator. -/
def segments (separator : Char) : List Char → List (List Char)
  | [] => [[]]
  | c :: s =>
    if c = separator then [] :: segments separator s
    else
      match segments separator s with
      | [] => [[c]]
      | first :: more => (c :: first) :: more

theorem segments_ne_nil (separator : Char) (s : List Char) : segments separator s ≠ [] := by
  cases s with
  | nil => simp [segments]
  | cons c s =>
    unfold segments
    split
    · simp
    · split <;> simp

/-- A component of a path. -/
inductive Component where
  | root
  | current
  | parent
  | name (n : List Char)
deriving DecidableEq

/-- What a segment stands for. An empty one and `.` stand for nothing. -/
def Component.ofSegment? (s : List Char) : Option Component :=
  if s = [] ∨ s = ['.'] then none
  else some (if s = ['.', '.'] then .parent else .name s)

/-- Where a path says that it starts: a `.` counts at its very start alone. -/
def start? : List Char → Option Component
  | '/' :: _ => some .root
  | ['.'] => some .current
  | '.' :: '/' :: _ => some .current
  | _ => none

/-- The components of a path. -/
def components (path : List Char) : List Component :=
  (start? path).toList ++ (segments '/' path).filterMap Component.ofSegment?

/-- The name that a path ends in. -/
def fileName? (path : List Char) : Option (List Char) :=
  match (components path).getLast? with
  | some (.name n) => some n
  | _ => none

/-- A path without the slashes at its end. -/
def withoutSlashes (path : List Char) : List Char := (path.reverse.dropWhile (· = '/')).reverse

/-! ## Names -/

/-- The base name of an application type. -/
def base (applicationType : String) : String :=
  match fileName? (withoutSlashes applicationType.toList) with
  | some n => String.ofList n
  | none => applicationType

/-- What all names of an application's resources start with. -/
def stem (applicationType : String) : String := "redhat-" ++ base applicationType

/-- The name of a resource. -/
def resource (applicationType kind guid : String) : String :=
  stem applicationType ++ "-" ++ kind ++ "-" ++ guid

/-- The name of a subscription deployment. -/
def deployment (guid : String) : String := "redhat-cloudmeter-" ++ guid

end CloudGrant.Naming
