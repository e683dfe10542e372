import CloudGrant.Dict
import CloudGrant.Naming

/-!
# Files

A `Files` says what is at each place: a file with its content, a directory, or nothing. A path leads
to a place from directory to directory, each of which has to be there, also where `..` takes it back.
What cannot be done at a place fails without any effect, and says why in the words of the system.

The disk can fail besides (`Fault`), and that need not be without effect: a file that is written loses
its content when it is opened, and a write that then breaks off leaves it with something else.
-/

namespace CloudGrant

/-- What is at a place. -/
inductive Files.Entry where
  | file (content : List UInt8)
  | directory
deriving DecidableEq

/-- What is at each place, by its path in normal form. -/
structure Files where
  entries : Dict String Files.Entry

namespace Files

/-! ## Paths -/

/-- The components of a path, between which slashes stand. A path from the root starts with the
component `/`. -/
def components (path : String) : List (List Char) :=
  let rest := (Naming.segments '/' path.toList).filter (· ≠ [])
  if path.toList.head? = some '/' then ['/'] :: rest else rest

/-- Where components lead to: `.` stands for nothing and `..` takes back the one before it. -/
def place (l : List (List Char)) : List (List Char) :=
  l.foldl (fun l c =>
    if c = ['.'] then l
    else if c = ['.', '.'] then (if l = [['/']] then l else l.dropLast)
    else l ++ [c]) []

/-- Whether a path is written as that of a directory. -/
def endsInSlash (path : String) : Bool := path.toList.getLast? == some '/'

/-- The normal form of the path with these components. -/
def normal (l : List (List Char)) : String := String.ofList (l.intersperse ['/']).flatten

/-- The proper prefixes of a list, the shortest first. -/
def properPrefixes {α : Type} : List α → List (List α)
  | [] => []
  | a :: l => [] :: (properPrefixes l).map (a :: ·)

/-! ## Reading and writing -/

/-- Why a file cannot be read or written. -/
inductive Failure where
  | missing
  | notDirectory
  | isDirectory
  | notRegular
  | unfit
  | disk (reason : String)
deriving DecidableEq

def Failure.message : Failure → String
  | missing => "No such file or directory (os error 2)"
  | notDirectory => "Not a directory (os error 20)"
  | isDirectory => "Is a directory (os error 21)"
  | notRegular => "the source path is neither a regular file nor a symlink to a regular file"
  | unfit => "file name contained an unexpected NUL byte"
  | disk reason => reason

def empty : Files := ⟨Dict.empty⟩

/-- Put something at a place, with directories on the way where there is nothing. -/
def put (f : Files) (path : String) (e : Entry) : Files :=
  let l := place (components path)
  let onWay := ((properPrefixes l).map normal).filter (fun d => (f.entries.find? d).isNone)
  ⟨(f.entries.insertAll (onWay.map fun d => (d, .directory))).insert (normal l) e⟩

/-- What is at the place of these components; the place where all paths start is a directory. -/
def entry? (f : Files) (l : List (List Char)) : Option Entry :=
  if l = [] ∨ l = [['/']] then some .directory else f.entries.find? (normal l)

/-- Whether the last of these components can be looked up: everything on the way to it is a
directory. -/
def way (f : Files) (l : List (List Char)) : Except Failure Unit :=
  (properPrefixes l).forM fun p =>
    match f.entry? (place p) with
    | some .directory => .ok ()
    | some (.file _) => .error .notDirectory
    | none => .error .missing

/-- Where a path leads to, if everything on the way is there. -/
def find (f : Files) (path : String) : Except Failure (List (List Char)) :=
  if path.toList.contains '\x00' then .error .unfit
  else (f.way (components path)).map fun _ => place (components path)

/-- What is at the end of a path. -/
def at? (f : Files) (path : String) : Except Failure (Option Entry) := do
  match f.entry? (← f.find path) with
  | some (.file content) =>
    if endsInSlash path then .error .notDirectory else .ok (some (.file content))
  | e => .ok e

/-- Whether anything is at the end of a path. -/
def has (f : Files) (path : String) : Bool :=
  match f.at? path with
  | .ok (some _) => true
  | _ => false

/-- The content of the file at the end of a path. -/
def read (f : Files) (path : String) : Except Failure (List UInt8) := do
  match ← f.at? path with
  | some (.file content) => .ok content
  | some .directory => .error .notRegular
  | none => .error .missing

/-- The files with a file at the place of these components. -/
def fill (f : Files) (l : List (List Char)) (content : List UInt8) : Files :=
  ⟨f.entries.insert (normal l) (.file content)⟩

/-- How the disk fails to write a file that could be written: before it is opened, or with something
left in it. -/
structure Fault where
  reason : String
  left : Option (List UInt8)

/-- Give the file at the end of a path its content; there may be none yet. The files are what the
attempt left of them. -/
def write (f : Files) (path : String) (content : List UInt8) (fault : Option Fault) :
    Except Failure Unit × Files :=
  match f.find path with
  | .error e => (.error e, f)
  | .ok l =>
    if endsInSlash path ∨ f.entry? l = some .directory then (.error .isDirectory, f)
    else
      match fault with
      | none => (.ok (), f.fill l content)
      | some ⟨reason, none⟩ => (.error (.disk reason), f)
      | some ⟨reason, some left⟩ => (.error (.disk reason), f.fill l left)

/-- Give a file the content of another. -/
def copy (f : Files) (source target : String) (fault : Option Fault) :
    Except Failure Unit × Files :=
  match f.read source with
  | .error e => (.error e, f)
  | .ok content => f.write target content fault

end Files

end CloudGrant
