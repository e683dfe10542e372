import CloudGrant.Run.Basic

/-!
# What a run was answered

A run is followed along the answers that it is given. `Stops m l s x` says that after the answers
`l` the run `m` stands in state `s` at `x`: it is done with a value, or it is about to ask. Every
point at which a run can be abandoned is such a stop, so what holds at all stops holds wherever it
is cut short.

`stops_bind_iff` takes the stops of a composed run apart, which is all that a proof about a program
needs of it. `stops_exec` says that answering all questions from a world is one way to the end.

## Termination

All proofs are inductions on the run, or on the derivation of a stop.
-/

namespace CloudGrant

/-- A question with the answer that it was given. -/
abbrev Interface.Event (I : Interface) : Type := (q : I.Request) × I.Reply q

/-- Where a run stands: done with a value, or about to ask. -/
inductive Stop (I : Interface) (α : Type) where
  | value (a : α)
  | question (q : I.Request)

namespace Run

variable {I : Interface} {σ α β ω : Type}

/-- After the answers of a history, a run stands in a state at a stop. -/
inductive Stops : Run I σ α → List I.Event → σ → Stop I α → Prop where
  | done (s : σ) (a : α) : Stops (.done s a) [] s (.value a)
  | here (s : σ) (q : I.Request) (next : I.Reply q → Run I σ α) :
      Stops (.ask s q next) [] s (.question q)
  | answered {s t : σ} {q : I.Request} {next : I.Reply q → Run I σ α} (r : I.Reply q)
      {l : List I.Event} {x : Stop I α} :
      Stops (next r) l t x → Stops (.ask s q next) (⟨q, r⟩ :: l) t x

theorem stops_done_iff {s t : σ} {a : α} {l : List I.Event} {x : Stop I α} :
    (done s a : Run I σ α).Stops l t x ↔ l = [] ∧ t = s ∧ x = .value a := by
  constructor
  · rintro (_ | _ | _)
    exact ⟨rfl, rfl, rfl⟩
  · rintro ⟨rfl, rfl, rfl⟩
    exact .done t a

theorem stops_ask_iff {s t : σ} {q : I.Request} {next : I.Reply q → Run I σ α}
    {l : List I.Event} {x : Stop I α} :
    (ask s q next).Stops l t x ↔
      (l = [] ∧ t = s ∧ x = .question q) ∨ ∃ r l', l = ⟨q, r⟩ :: l' ∧ (next r).Stops l' t x := by
  constructor
  · rintro (_ | _ | ⟨r, h⟩)
    · exact .inl ⟨rfl, rfl, rfl⟩
    · exact .inr ⟨r, _, rfl, h⟩
  · rintro (⟨rfl, rfl, rfl⟩ | ⟨r, l', rfl, h⟩)
    · exact .here t q next
    · exact .answered r h

/-- A run stops inside its first part, or that part is done and the rest stops. -/
theorem stops_bind_iff {m : Run I σ α} {f : α → σ → Run I σ β} {l : List I.Event} {t : σ}
    {x : Stop I β} :
    (m.bind f).Stops l t x ↔
      (∃ q, x = .question q ∧ m.Stops l t (.question q)) ∨
        ∃ l₁ l₂ s a, l = l₁ ++ l₂ ∧ m.Stops l₁ s (.value a) ∧ (f a s).Stops l₂ t x := by
  -- the first question of the first part is the first question of the whole
  induction m generalizing l with
  | done s a =>
    simp only [bind, stops_done_iff, reduceCtorEq, and_false, exists_false, false_or]
    constructor
    · intro h
      exact ⟨[], l, s, a, rfl, ⟨rfl, rfl, rfl⟩, h⟩
    · rintro ⟨l₁, l₂, s', a', rfl, ⟨rfl, rfl, h⟩, h'⟩
      cases h
      exact h'
  | ask s q next ih =>
    simp only [bind, stops_ask_iff]
    constructor
    · rintro (⟨rfl, rfl, rfl⟩ | ⟨r, l', rfl, h⟩)
      · exact .inl ⟨q, rfl, .inl ⟨rfl, rfl, rfl⟩⟩
      · rcases (ih r).mp h with ⟨p, rfl, hp⟩ | ⟨l₁, l₂, u, a, rfl, h₁, h₂⟩
        · exact .inl ⟨p, rfl, .inr ⟨r, l', rfl, hp⟩⟩
        · exact .inr ⟨⟨q, r⟩ :: l₁, l₂, u, a, rfl, .inr ⟨r, l₁, rfl, h₁⟩, h₂⟩
    · rintro (⟨p, rfl, ⟨rfl, rfl, hq⟩ | ⟨r, l', rfl, h⟩⟩ | ⟨l₁, l₂, u, a, rfl, h₁, h₂⟩)
      · cases hq
        exact .inl ⟨rfl, rfl, rfl⟩
      · exact .inr ⟨r, l', rfl, (ih r).mpr (.inl ⟨p, rfl, h⟩)⟩
      · rcases h₁ with ⟨-, -, hv⟩ | ⟨r, l', rfl, h₁⟩
        · cases hv
        · exact .inr ⟨r, l' ++ l₂, rfl, (ih r).mpr (.inr ⟨l', l₂, u, a, rfl, h₁, h₂⟩)⟩

/-- What the questions of a run are answered from a world. -/
def history (answer : ω → (q : I.Request) → I.Reply q × ω) (w : ω) : Run I σ α → List I.Event
  | done _ _ => []
  | ask _ q next => ⟨q, (answer w q).1⟩ :: (next (answer w q).1).history answer (answer w q).2

/-- Every answer in a history is that of the world at some point. -/
theorem exists_answer_of_mem_history {answer : ω → (q : I.Request) → I.Reply q × ω} {w : ω}
    {m : Run I σ α} {e : I.Event} (he : e ∈ m.history answer w) :
    ∃ w', e = ⟨e.1, (answer w' e.1).1⟩ := by
  induction m generalizing w with
  | done s a => cases he
  | ask s q next ih =>
    rcases List.mem_cons.mp he with rfl | he
    · exact ⟨w, rfl⟩
    · exact ih _ he

/-- What comes after a part of a run is answered from the world that the part leaves. -/
theorem history_bind (answer : ω → (q : I.Request) → I.Reply q × ω) (m : Run I σ α)
    (f : α → σ → Run I σ β) (w : ω) :
    (m.bind f).history answer w = m.history answer w ++
      (f (m.exec answer w).1.2 (m.exec answer w).1.1).history answer (m.exec answer w).2 := by
  induction m generalizing w with
  | done s a => rfl
  | ask s q next ih => exact congrArg (⟨q, (answer w q).1⟩ :: ·) (ih _ _)

/-- Whatever was answered, the run stood at the question before. -/
theorem Stops.question {m : Run I σ α} {l₁ l₂ : List I.Event} {e : I.Event} {t : σ}
    {x : Stop I α} (h : m.Stops (l₁ ++ e :: l₂) t x) : ∃ u, m.Stops l₁ u (.question e.1) := by
  induction m generalizing l₁ with
  | done s a =>
    obtain ⟨hl, -, -⟩ := stops_done_iff.mp h
    cases l₁ <;> cases hl
  | ask s q next ih =>
    rcases stops_ask_iff.mp h with ⟨hl, -, -⟩ | ⟨r, l', hl, h'⟩
    · cases l₁ <;> cases hl
    · cases l₁ with
      | nil =>
        cases hl
        exact ⟨s, .here s q next⟩
      | cons e' l₁ =>
        obtain ⟨rfl, rfl⟩ := List.cons.inj hl
        obtain ⟨u, hu⟩ := ih r h'
        exact ⟨u, .answered r hu⟩

/-- **Answered from a world, a run comes to its end.** -/
theorem stops_exec (answer : ω → (q : I.Request) → I.Reply q × ω) (w : ω) (m : Run I σ α) :
    m.Stops (m.history answer w) (m.exec answer w).1.1 (.value (m.exec answer w).1.2) := by
  induction m generalizing w with
  | done s a => exact .done s a
  | ask s q next ih => exact .answered _ (ih _ _)

end Run

/-! ## Programs -/

namespace Program

variable {I : Interface} {σ ε α β : Type} {s t : σ} {l : List I.Event}

theorem stops_ask_iff {q : I.Request} {x : Stop I (I.Reply q)} :
    (Program.ask q s).Stops l t x ↔
      t = s ∧ ((l = [] ∧ x = .question q) ∨ ∃ r, l = [⟨q, r⟩] ∧ x = .value r) := by
  unfold Program.ask
  rw [Run.stops_ask_iff]
  simp only [Run.stops_done_iff]
  constructor
  · rintro (⟨rfl, rfl, rfl⟩ | ⟨r, _, rfl, rfl, rfl, rfl⟩)
    · exact ⟨rfl, .inl ⟨rfl, rfl⟩⟩
    · exact ⟨rfl, .inr ⟨r, rfl, rfl⟩⟩
  · rintro ⟨rfl, ⟨rfl, rfl⟩ | ⟨r, rfl, rfl⟩⟩
    · exact .inl ⟨rfl, rfl, rfl⟩
    · exact .inr ⟨r, [], rfl, rfl, rfl, rfl⟩

theorem stops_pure_iff {a : α} {x : Stop I α} :
    ((pure a : Program I σ α) s).Stops l t x ↔ l = [] ∧ t = s ∧ x = .value a :=
  Run.stops_done_iff

theorem stops_bind_iff {p : Program I σ α} {f : α → Program I σ β} {x : Stop I β} :
    ((p >>= f) s).Stops l t x ↔
      (∃ q, x = .question q ∧ (p s).Stops l t (.question q)) ∨
        ∃ l₁ l₂ u a, l = l₁ ++ l₂ ∧ (p s).Stops l₁ u (.value a) ∧ (f a u).Stops l₂ t x :=
  Run.stops_bind_iff

/-- To look at the state is no stop. -/
theorem stops_get_bind_iff {f : σ → Program I σ β} {x : Stop I β} :
    ((Program.get >>= f) s).Stops l t x ↔ (f s s).Stops l t x := Iff.rfl

/-- A program stops inside its first part, fails there, or goes on with its value. -/
theorem stops_andThen_iff {p : Program I σ (Except ε α)} {f : α → Program I σ (Except ε β)}
    {x : Stop I (Except ε β)} :
    (p.andThen f s).Stops l t x ↔
      (∃ q, x = .question q ∧ (p s).Stops l t (.question q)) ∨
        (∃ e, x = .value (.error e) ∧ (p s).Stops l t (.value (.error e))) ∨
          ∃ l₁ l₂ u a, l = l₁ ++ l₂ ∧ (p s).Stops l₁ u (.value (.ok a)) ∧
            (f a u).Stops l₂ t x := by
  unfold andThen
  rw [stops_bind_iff]
  refine or_congr Iff.rfl ?_
  constructor
  · rintro ⟨l₁, l₂, u, e | a, rfl, h₁, h₂⟩
    · obtain ⟨rfl, rfl, rfl⟩ := stops_pure_iff.mp h₂
      exact .inl ⟨e, rfl, by rwa [List.append_nil]⟩
    · exact .inr ⟨l₁, l₂, u, a, rfl, h₁, h₂⟩
  · rintro (⟨e, rfl, h⟩ | ⟨l₁, l₂, u, a, rfl, h₁, h₂⟩)
    · exact ⟨l, [], t, .error e, (List.append_nil l).symm, h, stops_pure_iff.mpr ⟨rfl, rfl, rfl⟩⟩
    · exact ⟨l₁, l₂, u, .ok a, rfl, h₁, h₂⟩

theorem andThen_assoc {γ : Type} (p : Program I σ (Except ε α)) (f : α → Program I σ (Except ε β))
    (g : β → Program I σ (Except ε γ)) :
    (p.andThen f).andThen g = p.andThen fun a => (f a).andThen g := by
  unfold andThen
  rw [bind_assoc]
  refine congrArg (p >>= ·) (funext fun r => ?_)
  cases r with
  | error e => exact pure_bind _ _
  | ok a => rfl

/-! ## Programs that are answered from a world -/

variable {ω : Type} {answer : ω → (q : I.Request) → I.Reply q × ω}

theorem exec_bind (p : Program I σ α) (f : α → Program I σ β) (s : σ) (w : ω) :
    ((p >>= f) s).exec answer w =
      (f ((p s).exec answer w).1.2 ((p s).exec answer w).1.1).exec answer ((p s).exec answer w).2 :=
  Run.exec_bind answer (p s) f w

theorem history_bind (p : Program I σ α) (f : α → Program I σ β) (s : σ) (w : ω) :
    ((p >>= f) s).history answer w = (p s).history answer w ++
      (f ((p s).exec answer w).1.2 ((p s).exec answer w).1.1).history answer
        ((p s).exec answer w).2 :=
  Run.history_bind answer (p s) f w

/-! ## Programs that have come to an end -/

theorem stops_pure_value_iff {a b : α} :
    ((pure a : Program I σ α) s).Stops l t (.value b) ↔ l = [] ∧ t = s ∧ b = a := by
  rw [stops_pure_iff, Stop.value.injEq]

theorem stops_ask_value_iff {q : I.Request} {r : I.Reply q} :
    (Program.ask q s).Stops l t (.value r) ↔ t = s ∧ l = [⟨q, r⟩] := by
  rw [stops_ask_iff]
  constructor
  · rintro ⟨rfl, ⟨-, hx⟩ | ⟨r', rfl, hx⟩⟩
    · cases hx
    · cases hx
      exact ⟨rfl, rfl⟩
  · rintro ⟨rfl, rfl⟩
    exact ⟨rfl, .inr ⟨r, rfl, rfl⟩⟩

/-- A composed program that has ended has ended in both parts. -/
theorem stops_bind_value_iff {p : Program I σ α} {f : α → Program I σ β} {b : β} :
    ((p >>= f) s).Stops l t (.value b) ↔
      ∃ l₁ l₂ u a, l = l₁ ++ l₂ ∧ (p s).Stops l₁ u (.value a) ∧
        (f a u).Stops l₂ t (.value b) := by
  rw [stops_bind_iff]
  simp only [reduceCtorEq, false_and, exists_false, false_or]

/-- If it did not fail then neither part did. -/
theorem stops_andThen_ok_iff {p : Program I σ (Except ε α)} {f : α → Program I σ (Except ε β)}
    {b : β} :
    (p.andThen f s).Stops l t (.value (.ok b)) ↔
      ∃ l₁ l₂ u a, l = l₁ ++ l₂ ∧ (p s).Stops l₁ u (.value (.ok a)) ∧
        (f a u).Stops l₂ t (.value (.ok b)) := by
  rw [stops_andThen_iff]
  simp only [reduceCtorEq, Stop.value.injEq, false_and, exists_false, false_or]

/-! ## What a program asks and what it leaves alone -/

/-- All that a program ever asks has a property. -/
def Asks (P : I.Request → Prop) (p : Program I σ α) : Prop :=
  ∀ ⦃s : σ⦄ ⦃l : List I.Event⦄ ⦃t : σ⦄ ⦃x : Stop I α⦄, (p s).Stops l t x →
    (∀ e ∈ l, P e.1) ∧ ∀ q, x = .question q → P q

/-- A program leaves a part of the state alone. -/
def Keeps {β : Type} (f : σ → β) (p : Program I σ α) : Prop :=
  ∀ ⦃s : σ⦄ ⦃l : List I.Event⦄ ⦃t : σ⦄ ⦃x : Stop I α⦄, (p s).Stops l t x → f t = f s

variable {P : I.Request → Prop} {part : σ → β}

theorem Asks.mono {Q : I.Request → Prop} {p : Program I σ α} (h : p.Asks P)
    (hq : ∀ q, P q → Q q) : p.Asks Q := by
  intro s l t x hs
  obtain ⟨hl, hx⟩ := h hs
  exact ⟨fun e he => hq _ (hl e he), fun q hxq => hq q (hx q hxq)⟩

theorem asks_pure (a : α) : (pure a : Program I σ α).Asks P := by
  intro s l t x h
  obtain ⟨rfl, rfl, rfl⟩ := stops_pure_iff.mp h
  simp

theorem asks_get : (Program.get : Program I σ σ).Asks P := by
  intro s l t x h
  obtain ⟨rfl, rfl, rfl⟩ := Run.stops_done_iff.mp h
  simp

theorem asks_modify (f : σ → σ) : (Program.modify f : Program I σ Unit).Asks P := by
  intro s l t x h
  obtain ⟨rfl, rfl, rfl⟩ := Run.stops_done_iff.mp h
  simp

theorem asks_ask {q : I.Request} (h : P q) : (Program.ask q : Program I σ (I.Reply q)).Asks P := by
  intro s l t x hs
  obtain ⟨-, ⟨rfl, rfl⟩ | ⟨r, rfl, rfl⟩⟩ := stops_ask_iff.mp hs
  · exact ⟨by simp, fun p hp => by cases hp; exact h⟩
  · exact ⟨by simpa using h, fun p hp => by cases hp⟩

theorem asks_bind {γ : Type} {p : Program I σ α} {f : α → Program I σ γ} (hp : p.Asks P)
    (hf : ∀ a, (f a).Asks P) : (p >>= f).Asks P := by
  intro s l t x h
  rcases stops_bind_iff.mp h with ⟨q, rfl, hq⟩ | ⟨l₁, l₂, u, a, rfl, h₁, h₂⟩
  · refine ⟨(hp hq).1, fun q' hq' => ?_⟩
    cases hq'
    exact (hp hq).2 q rfl
  · refine ⟨fun e he => ?_, (hf a h₂).2⟩
    rcases List.mem_append.mp he with he | he
    · exact (hp h₁).1 e he
    · exact (hf a h₂).1 e he

theorem asks_andThen {γ : Type} {p : Program I σ (Except ε α)}
    {f : α → Program I σ (Except ε γ)} (hp : p.Asks P) (hf : ∀ a, (f a).Asks P) :
    (p.andThen f).Asks P := by
  refine asks_bind hp fun r => ?_
  cases r with
  | error e => exact asks_pure _
  | ok a => exact hf a

theorem keeps_pure (a : α) : (pure a : Program I σ α).Keeps part := by
  intro s l t x h
  obtain ⟨rfl, rfl, rfl⟩ := stops_pure_iff.mp h
  rfl

theorem keeps_get : (Program.get : Program I σ σ).Keeps part := by
  intro s l t x h
  obtain ⟨rfl, rfl, rfl⟩ := Run.stops_done_iff.mp h
  rfl

theorem keeps_modify {f : σ → σ} (h : ∀ s, part (f s) = part s) :
    (Program.modify f : Program I σ Unit).Keeps part := by
  intro s l t x hs
  obtain ⟨rfl, rfl, rfl⟩ := Run.stops_done_iff.mp hs
  exact h s

theorem keeps_ask (q : I.Request) : (Program.ask q : Program I σ (I.Reply q)).Keeps part := by
  intro s l t x h
  obtain ⟨rfl, -⟩ := stops_ask_iff.mp h
  rfl

theorem keeps_bind {γ : Type} {p : Program I σ α} {f : α → Program I σ γ} (hp : p.Keeps part)
    (hf : ∀ a, (f a).Keeps part) : (p >>= f).Keeps part := by
  intro s l t x h
  rcases stops_bind_iff.mp h with ⟨q, rfl, hq⟩ | ⟨l₁, l₂, u, a, rfl, h₁, h₂⟩
  · exact hp hq
  · exact (hf a h₂).trans (hp h₁)

theorem keeps_andThen {γ : Type} {p : Program I σ (Except ε α)}
    {f : α → Program I σ (Except ε γ)} (hp : p.Keeps part) (hf : ∀ a, (f a).Keeps part) :
    (p.andThen f).Keeps part := by
  refine keeps_bind hp fun r => ?_
  cases r with
  | error e => exact keeps_pure _
  | ok a => exact hf a

end Program

end CloudGrant
