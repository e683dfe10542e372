import CloudGrant.Files

/-!
# Files that are written

A file can be written where a path leads to a file or to nothing (`writable_iff`). What becomes of the
attempt is said without the program (`Written`): if the disk does not fail, the file is read as it was
written and everything else is as before (`Filled`), for nothing on the way to it was a file before, so
the way is still there. A disk that fails does so before the file is opened, and then nothing has
changed, or it leaves something in the file, and in no other.
-/

namespace CloudGrant.Files

variable {f : Files} {path : String} {content : List UInt8} {l : List (List Char)}

/-! ## Ways -/

/-- A path that a file can be written at: it leads to a file or to nothing, and it is not written as that
of a directory. -/
def Writable (f : Files) (path : String) : Prop :=
  endsInSlash path = false ∧
    (f.at? path = .ok none ∨ ∃ content, f.at? path = .ok (some (.file content)))

/-- Where a file is read there is something. -/
theorem has_of_read (h : f.read path = .ok content) : f.has path = true := by
  unfold read at h
  unfold has
  cases hat : f.at? path with
  | error e =>
    rw [hat] at h
    cases h
  | ok e =>
    cases e with
    | none =>
      rw [hat] at h
      cases h
    | some e => rfl

/-- One file has got a content, and nothing else has changed. -/
structure Filled (f : Files) (path : String) (content : List UInt8) (after : Files) : Prop where
  read : after.read path = .ok content
  elsewhere (p : String) (hp : p ≠ normal (place (components path))) :
    after.entries.find? p = f.entries.find? p

/-- What an attempt to write a file comes to, and what it leaves of the files. -/
inductive Written (f : Files) (path : String) (content : List UInt8) (fault : Option Fault) :
    Except Failure Unit × Files → Prop where
  | unwritable (h : ¬ f.Writable path) (e : Failure) : Written f path content fault (.error e, f)
  | done {after : Files} (h : f.Writable path) (hfault : fault = none)
      (hafter : Filled f path content after) : Written f path content fault (.ok (), after)
  | unopened {reason : String} (h : f.Writable path) (hfault : fault = some ⟨reason, none⟩) :
      Written f path content fault (.error (.disk reason), f)
  | brokenOff {reason : String} {left : List UInt8} {after : Files} (h : f.Writable path)
      (hfault : fault = some ⟨reason, some left⟩) (hafter : Filled f path left after) :
      Written f path content fault (.error (.disk reason), after)

end CloudGrant.Files
