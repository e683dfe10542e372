import CloudGrant.Proofs.Run.Alike
import CloudGrant.Proofs.Run.Deadline

/-!
# What a program does not look at

`Run.mapState` changes the states of a run and nothing else: it asks the same questions and comes to
the same value. A program ignores a change of the state (`Program.Ignores`) if from the changed state
it goes the way it would have gone, with the states changed. What it asks and what it comes to are
then the same, however it is answered and also where a deadline cuts it short
(`mapState_within`).
-/

namespace CloudGrant

open Interface

/-! ## Runs -/

namespace Run

variable {I : Interface} {σ τ α β ω : Type} {f : σ → τ}

/-- The run with its states changed. -/
def mapState (f : σ → τ) : Run I σ α → Run I τ α
  | done s a => done (f s) a
  | ask s q next => ask (f s) q fun r => (next r).mapState f

/-- What comes next may depend on how the run can end. -/
theorem mapState_bind_of_stops {m : Run I σ α} {g : α → σ → Run I σ β} {g' : α → τ → Run I τ β}
    (h : ∀ l t a, m.Stops l t (.value a) → g' a (f t) = (g a t).mapState f) :
    (m.mapState f).bind g' = (m.bind g).mapState f := by
  induction m with
  | done s a => exact h [] s a (.done s a)
  | ask s q next ih =>
    refine congrArg (ask (f s) q) (funext fun r => ih r fun l t a hs => ?_)
    exact h (⟨q, r⟩ :: l) t a (.answered r hs)

theorem mapState_untimed (m : Run I σ α) : (m.mapState f).untimed = m.untimed.mapState f := by
  induction m with
  | done s a => rfl
  | ask s q next ih => exact congrArg (ask (f s) _) (funext ih)

/-- The state in which a run is abandoned is changed like all others. -/
theorem mapState_before (limit : Nat) (m : Run I σ α) :
    (m.mapState f).before limit = (m.before limit).mapState f := by
  induction m with
  | done s a => rfl
  | ask s q next ih =>
    unfold mapState before
    refine congrArg (ask (I := I.timed) (f s) (.before limit q)) (funext fun r => ?_)
    cases r with
    | none => rfl
    | some r => exact ih r

theorem history_mapState (answer : ω → (q : I.Request) → I.Reply q × ω) (w : ω) (m : Run I σ α) :
    (m.mapState f).history answer w = m.history answer w := by
  induction m generalizing w with
  | done s a => rfl
  | ask s q next ih => exact congrArg (⟨q, (answer w q).1⟩ :: ·) (ih _ _)

theorem exec_mapState (answer : ω → (q : I.Request) → I.Reply q × ω) (w : ω) (m : Run I σ α) :
    (m.mapState f).exec answer w =
      ((f (m.exec answer w).1.1, (m.exec answer w).1.2), (m.exec answer w).2) := by
  induction m generalizing w with
  | done s a => rfl
  | ask s q next ih => exact ih _ _

theorem log_mapState (answer : ω → (q : I.timed.Request) → I.timed.Reply q × ω) (w : ω)
    (m : Run I.timed σ α) : (m.mapState f).log answer w = m.log answer w :=
  congrArg entries (history_mapState answer w m)

end Run

/-! ## Programs -/

namespace Program

variable {I : Interface} {σ ε α β : Type} {f : σ → σ}

/-- From the changed state the program goes the same way. -/
def Ignores (f : σ → σ) (p : Program I σ α) : Prop := ∀ s, p (f s) = (p s).mapState f

theorem ignores_pure (a : α) : (pure a : Program I σ α).Ignores f := fun _ => rfl

theorem ignores_ask (q : I.Request) : (Program.ask q : Program I σ (I.Reply q)).Ignores f :=
  fun _ => rfl

theorem ignores_modify {g : σ → σ} (h : ∀ s, g (f s) = f (g s)) :
    (Program.modify g : Program I σ Unit).Ignores f :=
  fun s => congrArg (fun t => Run.done t ()) (h s)

theorem ignores_bind {p : Program I σ α} {g : α → Program I σ β} (hp : p.Ignores f)
    (hg : ∀ a, (g a).Ignores f) : (p >>= g).Ignores f := by
  intro s
  show (p (f s)).bind g = ((p s).bind g).mapState f
  rw [hp s]
  exact Run.mapState_bind_of_stops fun _ t a _ => hg a t

theorem ignores_andThen {p : Program I σ (Except ε α)} {g : α → Program I σ (Except ε β)}
    (hp : p.Ignores f) (hg : ∀ a, (g a).Ignores f) : (p.andThen g).Ignores f := by
  refine ignores_bind hp fun r => ?_
  cases r with
  | error e => exact ignores_pure _
  | ok a => exact hg a

/-- A look at the state is harmless if what comes next is the same for both states. -/
theorem ignores_get_bind {g : σ → Program I σ α} (hg : ∀ s, (g s).Ignores f)
    (h : ∀ s, g (f s) = g s) : (Program.get >>= g).Ignores f := by
  intro s
  rw [get_bind, get_bind, h s, hg s s]

/-- **A deadline cuts short the same way**, as long as what is held is let go of the same way. -/
theorem mapState_within {duration : Nat} {release : Program I σ Unit} {p : Program I σ α} {s : σ}
    (hp : p (f s) = (p s).mapState f) (hr : release.Ignores f) :
    within duration release p (f s) = (within duration release p s).mapState f := by
  have hclock : (clock : Program I.timed σ Nat).Ignores f := fun _ => rfl
  show (clock (f s)).bind _ = ((clock s).bind _).mapState f
  rw [hclock s]
  refine Run.mapState_bind_of_stops fun l t start hs => ?_
  obtain ⟨rfl, -⟩ := stops_clock_value hs
  -- a run that is cut short goes on with `release` from the state beside its question
  show ((p (f t)).before _).bind _ = (((p t).before _).bind _).mapState f
  rw [hp, Run.mapState_before]
  refine Run.mapState_bind_of_stops fun l u b _ => ?_
  cases b with
  | some b => rfl
  | none =>
    show (release (f u)).untimed.bind _ = ((release u).untimed.bind _).mapState f
    rw [hr u, Run.mapState_untimed]
    exact Run.mapState_bind_of_stops fun _ _ _ _ => rfl

end Program

end CloudGrant
