import CloudGrant.Proofs.Run.Handled

/-!
# What holds throughout a run

`Throughout P Q m` says that whatever the run `m` is answered, each of its questions has the property
`P` and each state on its way has the property `Q`. Unlike `Program.Asks`, which is about a program in
any state, it can use what the program knows of the state that it starts in.

It holds of a composed run if it holds of both parts (`Throughout.bind`), under a deadline
(`Throughout.within`), and of a handled run if what is asked for each question has the property that
is wanted (`Throughout.handledBy`).
-/

namespace CloudGrant

open Interface

namespace Run

variable {I J : Interface} {σ τ α β : Type} {P : I.Request → Prop} {Q : σ → Prop}

/-- All questions of a run have a property, and all states on its way. -/
inductive Throughout (P : I.Request → Prop) (Q : σ → Prop) : Run I σ α → Prop where
  | done {s : σ} (a : α) : Q s → Throughout P Q (done s a)
  | ask {s : σ} {q : I.Request} {next : I.Reply q → Run I σ α} :
      Q s → P q → (∀ r, Throughout P Q (next r)) → Throughout P Q (ask s q next)

theorem Throughout.bind {m : Run I σ α} {f : α → σ → Run I σ β} (hm : m.Throughout P Q)
    (hf : ∀ a s, Q s → (f a s).Throughout P Q) : (m.bind f).Throughout P Q := by
  induction hm with
  | done a hs => exact hf a _ hs
  | ask hs hq _ ih => exact .ask hs hq ih

theorem Throughout.mono {P' : I.Request → Prop} {Q' : σ → Prop} {m : Run I σ α}
    (hm : m.Throughout P Q) (hP : ∀ q, P q → P' q) (hQ : ∀ s, Q s → Q' s) :
    m.Throughout P' Q' := by
  induction hm with
  | done a hs => exact .done a (hQ _ hs)
  | ask hs hq _ ih => exact .ask (hQ _ hs) (hP _ hq) ih

/-- What holds throughout a run holds wherever it stops. -/
theorem Throughout.question {m : Run I σ α} {l : List I.Event} {t : σ} {q : I.Request}
    (hm : m.Throughout P Q) (h : m.Stops l t (.question q)) : P q := by
  induction hm generalizing l with
  | done a hs =>
    obtain ⟨-, -, hx⟩ := stops_done_iff.mp h
    cases hx
  | ask hs hq _ ih =>
    rcases stops_ask_iff.mp h with ⟨-, -, hx⟩ | ⟨r, l', -, h'⟩
    · cases hx
      exact hq
    · exact ih r h'

theorem throughout_of_stops {m : Run I σ α}
    (hq : ∀ l t q, m.Stops l t (.question q) → P q) (hs : ∀ l t x, m.Stops l t x → Q t) :
    m.Throughout P Q := by
  induction m with
  | done s a => exact .done a (hs _ _ _ (.done s a))
  | ask s q next ih =>
    refine .ask (hs _ _ _ (.here s q next)) (hq _ _ _ (.here s q next)) fun r => ih r ?_ ?_
    · exact fun l t p h => hq _ t p (.answered r h)
    · exact fun l t x h => hs _ t x (.answered r h)

theorem Throughout.through {part : Interface.Part J I} {Q' : τ → Prop} {m : Run J τ α} {s : σ}
    (hm : m.Throughout (fun q => P (part.request q)) Q') (hs : Q s) :
    (m.through part s).Throughout P Q := by
  induction hm with
  | done a _ => exact .done a hs
  | ask _ hq _ ih => exact .ask hs hq fun r => ih _

/-! ## Deadlines -/

/-- A property of questions, whatever their limit. -/
def Timeless (P : I.Request → Prop) (q : I.timed.Request) : Prop :=
  ∀ p, subject? q = some p → P p

theorem timeless_untimed {q : I.Request} (h : P q) :
    Timeless P (Timed.untimed q : Timed I.Request) := by
  intro p hp
  cases hp
  exact h

theorem timeless_before {limit : Nat} {q : I.Request} (h : P q) :
    Timeless P (Timed.before limit q : Timed I.Request) := by
  intro p hp
  cases hp
  exact h

theorem Throughout.untimed {m : Run I σ α} (hm : m.Throughout P Q) :
    m.untimed.Throughout (Timeless P) Q := by
  induction hm with
  | done a hs => exact .done a hs
  | ask hs hq _ ih => exact .ask hs (timeless_untimed hq) ih

theorem Throughout.before {limit : Nat} {m : Run I σ α} (hm : m.Throughout P Q) :
    (m.before limit).Throughout (Timeless P) Q := by
  induction hm with
  | done a hs => exact .done _ hs
  | ask hs hq _ ih =>
    rw [Run.before]
    refine .ask hs (timeless_before hq) fun r => ?_
    cases r with
    | some r => exact ih r
    | none => exact .done _ hs

/-- What is asked throughout a run is all that its log holds. -/
theorem Throughout.log {ω : Type} {m : Run I.timed σ α} (hm : m.Throughout (Timeless P) Q)
    (answer : ω → (q : I.timed.Request) → I.timed.Reply q × ω) (w : ω) :
    ∀ e ∈ m.log answer w, P e.1 := by
  induction hm generalizing w with
  | done a _ => nofun
  | @ask s q next _ hq _ ih =>
    rw [log_ask]
    refine List.forall_mem_append.mpr ⟨fun e he => ?_, ih _ _⟩
    obtain ⟨v, hv, he⟩ := List.mem_filterMap.mp he
    cases List.mem_singleton.mp hv
    exact hq _ (subject?_of_entry?_eq he)

end Run

namespace Program

variable {I J : Interface} {σ τ ε α β γ : Type} {P : I.Request → Prop} {Q : σ → Prop}

/-- From every state with a property, a program keeps to what may be asked and to such states. -/
def Throughout (P : I.Request → Prop) (Q : σ → Prop) (p : Program I σ α) : Prop :=
  ∀ s, Q s → (p s).Throughout P Q

theorem Throughout.mono {P' : I.Request → Prop} {p : Program I σ α} (hp : p.Throughout P Q)
    (h : ∀ q, P q → P' q) : p.Throughout P' Q := fun s hs => (hp s hs).mono h fun _ hs => hs

theorem throughout_pure (a : α) : (pure a : Program I σ α).Throughout P Q := fun _ hs => .done a hs

theorem throughout_ask {q : I.Request} (h : P q) : (Program.ask q).Throughout P Q :=
  fun _ hs => .ask hs h fun r => .done r hs

theorem throughout_modify {f : σ → σ} (h : ∀ s, Q s → Q (f s)) :
    (Program.modify f : Program I σ Unit).Throughout P Q := fun s hs => .done () (h s hs)

theorem throughout_bind {p : Program I σ α} {f : α → Program I σ β} (hp : p.Throughout P Q)
    (hf : ∀ a, (f a).Throughout P Q) : (p >>= f).Throughout P Q :=
  fun s hs => (hp s hs).bind fun a t ht => hf a t ht

/-- What a program finds in its state has the property. -/
theorem throughout_get_bind {f : σ → Program I σ β} (hf : ∀ s, Q s → (f s).Throughout P Q) :
    (Program.get >>= f).Throughout P Q := fun s hs => hf s hs s hs

theorem throughout_andThen {p : Program I σ (Except ε α)} {f : α → Program I σ (Except ε β)}
    (hp : p.Throughout P Q) (hf : ∀ a, (f a).Throughout P Q) : (p.andThen f).Throughout P Q := by
  refine throughout_bind hp fun r => ?_
  cases r with
  | error e => exact throughout_pure _
  | ok a => exact hf a

/-- What a program asks and leaves alone in any state. -/
theorem throughout_of_asks {f : σ → γ} {v : γ} {p : Program I σ α} (hasks : p.Asks P)
    (hkeeps : p.Keeps f) : p.Throughout P fun s => f s = v := by
  intro s hs
  refine Run.throughout_of_stops (fun l t q h => (hasks h).2 q rfl) fun l t x h => ?_
  exact (hkeeps h).trans hs

theorem Asks.throughout {p : Program I σ α} (h : p.Asks P) : p.Throughout P fun _ => True :=
  fun _ _ => Run.throughout_of_stops (fun _ _ q hs => (h hs).2 q rfl) fun _ _ _ _ => trivial

theorem throughout_through {part : Interface.Part J I} {p : Program J Unit α}
    (h : p.Throughout (fun q => P (part.request q)) fun _ => True) :
    (p.through part : Program I σ α).Throughout P Q :=
  fun _ hs => (h () trivial).through hs

theorem throughout_untimed {p : Program I σ α} (hp : p.Throughout P Q) :
    p.untimed.Throughout (Run.Timeless P) Q := fun s hs => (hp s hs).untimed

theorem throughout_before {limit : Nat} {p : Program I σ α} (hp : p.Throughout P Q) :
    (p.before limit).Throughout (Run.Timeless P) Q := fun s hs => (hp s hs).before

theorem throughout_clock :
    (clock : Program I.timed σ Nat).Throughout (Run.Timeless P) Q := by
  intro s hs
  refine .ask hs (fun p hp => ?_) fun t => .done t hs
  cases hp

/-- **A deadline changes nothing about what holds throughout.** -/
theorem throughout_within {duration : Nat} {release : Program I σ Unit} {p : Program I σ α}
    (hr : release.Throughout P Q) (hp : p.Throughout P Q) :
    (within duration release p).Throughout (Run.Timeless P) Q := by
  refine throughout_bind throughout_clock fun start => ?_
  refine throughout_bind (throughout_before hp) fun r => ?_
  cases r with
  | some a => exact throughout_pure _
  | none => exact throughout_bind (throughout_untimed hr) fun _ => throughout_pure _

/-- A handler with a clock keeps to what it keeps to without one. -/
theorem throughout_timed {h : Handler J I σ} {R : J.Request → Prop}
    (hh : ∀ q, R q → (h q).Throughout P Q) (q : J.timed.Request) (hq : Run.Timeless R q) :
    (h.timed q).Throughout (Run.Timeless P) Q := by
  cases q with
  | now => exact throughout_clock
  | untimed q => exact throughout_untimed (hh q (hq q rfl))
  | before limit q => exact throughout_before (hh q (hq q rfl))

end Program

/-- **A handled run keeps to what is asked for its questions.** -/
theorem Run.Throughout.handledBy {I J : Interface} {σ τ α : Type} {R : J.Request → Prop}
    {S : τ → Prop} {P : I.Request → Prop} {Q : σ → Prop} {h : Handler J I σ} {m : Run J τ α}
    (hm : m.Throughout R S) (hh : ∀ q, R q → (h q).Throughout P Q) :
    (m.handledBy h).Throughout P Q := by
  induction hm with
  | done a _ => exact Program.throughout_pure _
  | ask _ hq _ ih => exact Program.throughout_bind (hh _ hq) ih

end CloudGrant
