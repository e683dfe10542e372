import CloudGrant.Run.Basic

/-!
# Several runs at once

Runs that take turns: in each turn one of them gets the answer to its question. `Turn` relates the
runs after a turn to the runs before it, and `wellFounded_turn` says that there is no endless
sequence of turns, in whatever order they are taken.
-/

namespace CloudGrant.Run

variable {I : Interface} {σ α : Type}

/-- One run of the list goes on. -/
inductive Turn : List (Run I σ α) → List (Run I σ α) → Prop where
  | here {m m' : Run I σ α} {rest : List (Run I σ α)} :
      Next m' m → Turn (m' :: rest) (m :: rest)
  | there {m : Run I σ α} {rest rest' : List (Run I σ α)} :
      Turn rest' rest → Turn (m :: rest') (m :: rest)

theorem acc_cons {m : Run I σ α} (hm : Acc Next m) : ∀ {rest : List (Run I σ α)},
    Acc Turn rest → Acc Turn (m :: rest) := by
  induction hm with
  | intro m _ ihm =>
    intro rest hrest
    induction hrest with
    | intro rest hr ihr =>
      refine ⟨_, fun l hl => ?_⟩
      cases hl with
      | here h => exact ihm _ h ⟨_, hr⟩
      | there h => exact ihr _ h

theorem acc_turn : ∀ l : List (Run I σ α), Acc Turn l
  | [] => ⟨_, fun _ h => nomatch h⟩
  | m :: rest => acc_cons (acc_next m) (acc_turn rest)

/-- **Turns come to an end.** -/
theorem wellFounded_turn : WellFounded (@Turn I σ α) := ⟨acc_turn⟩

/-- Going on with the `i`-th run is a turn. -/
theorem turn_set {m' : Run I σ α} : ∀ {l : List (Run I σ α)} {i : Nat} (h : i < l.length),
    Next m' l[i] → Turn (l.set i m') l
  | _ :: _, 0, _, hn => .here hn
  | _ :: _, _ + 1, h, hn => .there (turn_set (Nat.lt_of_succ_lt_succ h) hn)

end CloudGrant.Run
