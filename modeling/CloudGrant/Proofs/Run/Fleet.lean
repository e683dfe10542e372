import Mathlib.Logic.Function.Basic
import CloudGrant.Proofs.Run.History

/-!
# Runs in any interleaving

A `Fleet` is a family of runs in one world. A schedule says whose turn it is; in each turn one run is
answered its question, and nobody else is there meanwhile. Runs that are done, or that are never on
turn again, stay as they are, so a schedule may stop anywhere.

What a run of the fleet was answered is its own part of the history (`own`). It has come along that
to where it stands (`stops_own`), however the turns were taken.
-/

namespace CloudGrant

open Interface

namespace Run

variable {I : Interface} {σ α ω : Type} {answer : ω → (q : I.Request) → I.Reply q × ω}

/-! ## One run, answer by answer -/

/-- Answer the question at which a run stands. -/
def proceed (answer : ω → (q : I.Request) → I.Reply q × ω) : Run I σ α × ω → Run I σ α × ω
  | (done s a, w) => (done s a, w)
  | (ask _ q next, w) => (next (answer w q).1, (answer w q).2)

/-- The question at which a run stands, with its answer. -/
def event? (answer : ω → (q : I.Request) → I.Reply q × ω) : Run I σ α × ω → Option I.Event
  | (done .., _) => none
  | (ask _ q _, w) => some ⟨q, (answer w q).1⟩

/-- A run after so many answers. -/
def advance (answer : ω → (q : I.Request) → I.Reply q × ω) :
    Nat → Run I σ α × ω → Run I σ α × ω
  | 0, p => p
  | n + 1, p => advance answer n (proceed answer p)

/-- Where a run stands. -/
def stop : Run I σ α → Stop I α
  | done _ a => .value a
  | ask _ q _ => .question q

/-- The value of a run that is done. -/
def value? : Run I σ α → Option α
  | done _ a => some a
  | ask .. => none

theorem stop_of_value? {m : Run I σ α} {a : α} (h : m.value? = some a) : m.stop = .value a := by
  cases m with
  | done s b =>
    cases h
    rfl
  | ask s q next => cases h

theorem advance_succ (n : Nat) (p : Run I σ α × ω) :
    advance answer (n + 1) p = proceed answer (advance answer n p) := by
  induction n generalizing p with
  | zero => rfl
  | succ n ih => exact ih (proceed answer p)

theorem exec_proceed (p : Run I σ α × ω) :
    (proceed answer p).1.exec answer (proceed answer p).2 = p.1.exec answer p.2 := by
  obtain ⟨m, w⟩ := p
  cases m <;> rfl

/-- After some answers those are left that come after them. -/
theorem history_advance (n : Nat) (p : Run I σ α × ω) :
    (advance answer n p).1.history answer (advance answer n p).2 =
      (p.1.history answer p.2).drop n := by
  induction n generalizing p with
  | zero => rfl
  | succ n ih =>
    obtain ⟨m, w⟩ := p
    cases m with
    | done s a => exact (ih (done s a, w)).trans (by rw [history, List.drop_nil, List.drop_nil])
    | ask s q next => exact ih (next (answer w q).1, (answer w q).2)

/-- After some answers a run comes to the same end. -/
theorem exec_advance (n : Nat) (p : Run I σ α × ω) :
    (advance answer n p).1.exec answer (advance answer n p).2 = p.1.exec answer p.2 := by
  induction n generalizing p with
  | zero => rfl
  | succ n ih => exact (ih _).trans (exec_proceed p)

theorem event?_eq (p : Run I σ α × ω) : event? answer p = (p.1.history answer p.2).head? := by
  obtain ⟨m, w⟩ := p
  cases m <;> rfl

/-- The next answer is the next one of the whole history. -/
theorem event?_advance (n : Nat) (p : Run I σ α × ω) :
    event? answer (advance answer n p) = (p.1.history answer p.2)[n]? := by
  rw [event?_eq, history_advance, List.head?_drop]

/-- **A run that was answered all its questions is done**, with its result. -/
theorem advance_of_length_le {n : Nat} {p : Run I σ α × ω}
    (h : (p.1.history answer p.2).length ≤ n) :
    advance answer n p =
      (done (p.1.exec answer p.2).1.1 (p.1.exec answer p.2).1.2, (p.1.exec answer p.2).2) := by
  have hnone : event? answer (advance answer n p) = none := by
    rw [event?_advance, List.getElem?_eq_none h]
  rw [← exec_advance n p]
  generalize advance answer n p = p' at hnone
  obtain ⟨m, w⟩ := p'
  cases m with
  | done s a => rfl
  | ask s q next => cases hnone

end Run

/-! ## Several runs -/

/-- Several runs in one world. -/
structure Fleet (I : Interface) (ι σ α ω : Type) where
  runs : ι → Run I σ α
  world : ω

namespace Fleet

variable {I : Interface} {ι σ α ω : Type} [DecidableEq ι]
  {answer : ι → ω → (q : I.Request) → I.Reply q × ω}

/-- One run has a turn. -/
def turn (answer : ι → ω → (q : I.Request) → I.Reply q × ω) (f : Fleet I ι σ α ω) (i : ι) :
    Fleet I ι σ α ω where
  runs := Function.update f.runs i (Run.proceed (answer i) (f.runs i, f.world)).1
  world := (Run.proceed (answer i) (f.runs i, f.world)).2

/-- The turns of a schedule. -/
def after (answer : ι → ω → (q : I.Request) → I.Reply q × ω) (f : Fleet I ι σ α ω)
    (schedule : List ι) : Fleet I ι σ α ω :=
  schedule.foldl (turn answer) f

/-- What is answered in the turns of a schedule, and to whom. -/
def history (answer : ι → ω → (q : I.Request) → I.Reply q × ω) (f : Fleet I ι σ α ω) :
    List ι → List (ι × I.Event)
  | [] => []
  | i :: schedule =>
    ((Run.event? (answer i) (f.runs i, f.world)).map fun e => (i, e)).toList ++
      (f.turn answer i).history answer schedule

/-- What one of the runs was answered. -/
def own (i : ι) (history : List (ι × I.Event)) : List I.Event :=
  (history.filter fun e => e.1 = i).map Prod.snd

@[simp] theorem own_append (i : ι) (h h' : List (ι × I.Event)) :
    own i (h ++ h') = own i h ++ own i h' := by
  unfold own
  rw [List.filter_append, List.map_append]

theorem own_self (i : ι) (e : Option I.Event) :
    own i ((e.map fun e => (i, e)).toList) = e.toList := by
  cases e with
  | none => rfl
  | some e => simp [own]

theorem own_of_ne {i j : ι} (h : j ≠ i) (e : Option I.Event) :
    own i ((e.map fun e => (j, e)).toList) = [] := by
  cases e with
  | none => rfl
  | some e => simp [own, h]

theorem mem_own {i : ι} {e : I.Event} {history : List (ι × I.Event)} :
    e ∈ own i history ↔ (i, e) ∈ history := by
  simp [own]

theorem turn_runs_self (f : Fleet I ι σ α ω) (i : ι) :
    (f.turn answer i).runs i = (Run.proceed (answer i) (f.runs i, f.world)).1 :=
  Function.update_self ..

theorem turn_runs_of_ne (f : Fleet I ι σ α ω) {i j : ι} (h : j ≠ i) :
    (f.turn answer i).runs j = f.runs j := Function.update_of_ne h ..

/-- **Each run has come along what it was answered to where it stands.** -/
theorem stops_own (f : Fleet I ι σ α ω) (schedule : List ι) (i : ι) :
    (f.runs i).Stops (own i (f.history answer schedule)) ((f.after answer schedule).runs i).state
      ((f.after answer schedule).runs i).stop := by
  induction schedule generalizing f with
  | nil =>
    show (f.runs i).Stops [] (f.runs i).state (f.runs i).stop
    cases f.runs i with
    | done s a => exact .done s a
    | ask s q next => exact .here s q next
  | cons j schedule ih =>
    have hrest := ih (f.turn answer j)
    rw [history, own_append]
    by_cases hj : j = i
    · subst hj
      rw [turn_runs_self] at hrest
      rw [own_self]
      cases hm : f.runs j with
      | done s a =>
        rw [hm] at hrest
        exact hrest
      | ask s q next =>
        rw [hm] at hrest
        exact .answered _ hrest
    · rw [own_of_ne hj]
      rw [turn_runs_of_ne f (Ne.symm hj)] at hrest
      exact hrest

/-- What depends on the world alone has changed with each answer. -/
theorem world_after {β : Type} {contents : ω → β} {effect : β → I.Event → β}
    (h : ∀ i w q, contents (answer i w q).2 = effect (contents w) ⟨q, (answer i w q).1⟩)
    (f : Fleet I ι σ α ω) (schedule : List ι) :
    contents (f.after answer schedule).world =
      ((f.history answer schedule).map Prod.snd).foldl effect (contents f.world) := by
  induction schedule generalizing f with
  | nil => rfl
  | cons j schedule ih =>
    refine (ih (f.turn answer j)).trans ?_
    rw [history, List.map_append, List.foldl_append]
    refine congrArg (List.foldl effect · _) ?_
    unfold turn
    cases f.runs j with
    | done s a => rfl
    | ask s q next => exact h j f.world q

end Fleet

end CloudGrant
