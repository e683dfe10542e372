import CloudGrant.Run.Deadline

/-!
# Handlers

A `Handler I J τ` carries out each question of one interface by a program over another, with a state
of its own. A run whose questions are carried out by a handler is a program over the second interface
(`Run.handledBy`). A handler is used with a clock by carrying the limit of each question over to all
that its program asks (`Handler.timed`).
-/

namespace CloudGrant

/-- How each question of an interface is carried out. -/
abbrev Handler (I J : Interface) (τ : Type) : Type :=
  (q : I.Request) → Program J τ (I.Reply q)

/-- The same handler with a clock. -/
def Handler.timed {I J : Interface} {τ : Type} (h : Handler I J τ) : Handler I.timed J.timed τ
  | .now => Program.clock
  | .untimed q => (h q).untimed
  | .before limit q => (h q).before limit

namespace Run

variable {I J : Interface} {σ τ α : Type}

/-- The run with all its questions carried out; its value and its state. -/
def handledBy (h : Handler I J τ) : Run I σ α → Program J τ (α × σ)
  | done s a => pure (a, s)
  | ask _ q next => do
    let r ← h q
    (next r).handledBy h

end Run

end CloudGrant
