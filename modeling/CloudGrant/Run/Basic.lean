/-!
# Runs

A `Run I σ α` is everything that a program can still do: it is done with a value, or it asks its
surroundings something and goes on with the answer. With each question stands the state that the
program has built up so far, so what is left of a run that is abandoned there can be read off.

A `Program I σ α` gives a run for each state to start from. Programs are written in `do` notation
and form a lawful monad; `exec` answers all questions of a run from a world.

## Termination

A run is a well-founded tree, so everything about it is by recursion on it.
-/

namespace CloudGrant

/-- What can be asked, and what the answer to each question is. -/
structure Interface where
  Request : Type
  Reply : Request → Type

/-- An interface as a part of another. -/
structure Interface.Part (I J : Interface) where
  request : I.Request → J.Request
  reply : (q : I.Request) → J.Reply (request q) → I.Reply q

/-- An interface as a part of itself. -/
def Interface.Part.whole (I : Interface) : Interface.Part I I := ⟨id, fun _ r => r⟩

/-- What a program can still do. -/
inductive Run (I : Interface) (σ α : Type) where
  | done (state : σ) (value : α)
  | ask (state : σ) (request : I.Request) (next : I.Reply request → Run I σ α)

namespace Run

variable {I : Interface} {σ α β γ ω : Type}

/-- Go on with `f` where the run is done. -/
def bind (m : Run I σ α) (f : α → σ → Run I σ β) : Run I σ β :=
  match m with
  | done s a => f a s
  | ask s q next => ask s q (fun r => (next r).bind f)

/-- The state at the point where the run stands. -/
def state : Run I σ α → σ
  | done s _ => s
  | ask s _ _ => s

/-- The same run at a state that it does not touch, asking through a larger interface. -/
def through {J : Interface} {τ : Type} (part : Interface.Part I J) (t : τ) : Run I σ α → Run J τ α
  | done _ a => done t a
  | ask _ q next => ask t (part.request q) (fun r => (next (part.reply q r)).through part t)

/-- Answer all questions from a world: what is left of state, value and world. -/
def exec (answer : ω → (q : I.Request) → I.Reply q × ω) (w : ω) : Run I σ α → (σ × α) × ω
  | done s a => ((s, a), w)
  | ask _ q next =>
    let (r, w) := answer w q
    exec answer w (next r)

/-- Answer each question by an action: what is left of value and state. -/
def perform {m : Type → Type} [Monad m] (answer : (q : I.Request) → m (I.Reply q)) :
    Run I σ α → m (α × σ)
  | done s a => pure (a, s)
  | ask _ q next => do
    let r ← answer q
    (next r).perform answer

/-- `r` is what a run goes on with after some answer to its question. -/
inductive Next : Run I σ α → Run I σ α → Prop where
  | ask (s : σ) (q : I.Request) (next : I.Reply q → Run I σ α) (r : I.Reply q) :
      Next (next r) (ask s q next)

theorem acc_next (m : Run I σ α) : Acc Next m := by
  induction m with
  | done s a => exact ⟨_, fun _ h => nomatch h⟩
  | ask s q next ih => exact ⟨_, fun _ h => by cases h; exact ih _⟩

theorem bind_assoc (m : Run I σ α) (f : α → σ → Run I σ β) (g : β → σ → Run I σ γ) :
    (m.bind f).bind g = m.bind (fun a s => (f a s).bind g) := by
  induction m with
  | done s a => rfl
  | ask s q next ih => exact congrArg (ask s q) (funext ih)

theorem bind_done (m : Run I σ α) : m.bind (fun a s => done s a) = m := by
  induction m with
  | done s a => rfl
  | ask s q next ih => exact congrArg (ask s q) (funext ih)

theorem exec_bind (answer : ω → (q : I.Request) → I.Reply q × ω) (m : Run I σ α)
    (f : α → σ → Run I σ β) (w : ω) :
    (m.bind f).exec answer w =
      (f (m.exec answer w).1.2 (m.exec answer w).1.1).exec answer (m.exec answer w).2 := by
  induction m generalizing w with
  | done s a => rfl
  | ask s q next ih => exact ih _ _

end Run

/-- A run for each state to start from. -/
def Program (I : Interface) (σ α : Type) : Type := σ → Run I σ α

namespace Program

variable {I : Interface} {σ ε α β : Type}

instance : Monad (Program I σ) where
  pure a := fun s => .done s a
  bind m f := fun s => (m s).bind f

instance : LawfulMonad (Program I σ) := LawfulMonad.mk' _
  (fun m => funext fun s => Run.bind_done (m s))
  (fun _ _ => rfl)
  (fun m f g => funext fun s => Run.bind_assoc (m s) f g)

/-- Ask a question. -/
def ask (q : I.Request) : Program I σ (I.Reply q) := fun s => .ask s q (fun r => .done s r)

/-- The state so far. -/
def get : Program I σ σ := fun s => .done s s

/-- Change the state. -/
def modify (f : σ → σ) : Program I σ Unit := fun s => .done (f s) ()

/-- The same program as a part of one that has a state and a larger interface. -/
def through {J : Interface} (part : Interface.Part I J) (m : Program I Unit α) : Program J σ α :=
  fun s => (m ()).through part s

/-- Go on with the value of a program that did not fail. -/
def andThen (m : Program I σ (Except ε α)) (f : α → Program I σ (Except ε β)) :
    Program I σ (Except ε β) := do
  match ← m with
  | .error e => pure (.error e)
  | .ok a => f a

end Program

end CloudGrant
