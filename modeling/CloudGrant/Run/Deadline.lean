import CloudGrant.Run.Basic

/-!
# Deadlines

A deadline is set on a run from outside: each of its questions is asked together with the limit, and
the first that is not answered by then ends the run (`Run.before`), with the state that stands beside
that question. The run itself is the same with and without a deadline.
-/

namespace CloudGrant

/-- A question to surroundings that have a clock. -/
inductive Timed (Q : Type) where
  | now
  | untimed (q : Q)
  | before (limit : Nat) (q : Q)

/-- The interface with a clock: the time is known in milliseconds, and a question asked with a limit
is answered by then or not at all. -/
def Interface.timed (I : Interface) : Interface where
  Request := Timed I.Request
  Reply
    | .now => Nat
    | .untimed q => I.Reply q
    | .before _ q => Option (I.Reply q)

namespace Run

variable {I : Interface} {σ α : Type}

/-- The run without a limit. -/
def untimed : Run I σ α → Run I.timed σ α
  | done s a => done s a
  | ask s q next => ask s (Timed.untimed q : Timed I.Request) (fun r => (next r).untimed)

/-- The run up to a limit: `none` if it was cut short. -/
def before (limit : Nat) : Run I σ α → Run I.timed σ (Option α)
  | done s a => done s (some a)
  | ask s q next => ask s (Timed.before limit q : Timed I.Request) fun
    | some r => (next r).before limit
    | none => done s none

end Run

namespace Program

variable {I : Interface} {σ α : Type}

def untimed (p : Program I σ α) : Program I.timed σ α := fun s => (p s).untimed

/-- The time now. -/
def clock : Program I.timed σ Nat := fun s => .ask s (Timed.now : Timed I.Request) (fun t => .done s t)

/-- Run a program up to a limit. -/
def before (limit : Nat) (p : Program I σ α) : Program I.timed σ (Option α) :=
  fun s => (p s).before limit

/-- Run a program for so many milliseconds from now; `release` lets go of what an abandoned run
still holds. -/
def within (duration : Nat) (release : Program I σ Unit) (p : Program I σ α) :
    Program I.timed σ (Option α) := do
  let start ← clock
  match ← p.before (start + duration) with
  | some a => pure (some a)
  | none => do
    release.untimed
    pure none

end Program

end CloudGrant
