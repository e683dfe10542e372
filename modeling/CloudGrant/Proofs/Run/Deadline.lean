import CloudGrant.Run.Deadline
import CloudGrant.Proofs.Run.History

/-!
# What a run under a deadline was answered

The history of a run with a clock is read as a log of questions to the surroundings: readings of the
clock are left out, and a question that was not answered by its limit stands with `none` for its
answer.

A program under a deadline does nothing but what the same program does without one, up to a stop
(`stops_within`): it is done, or it is abandoned in front of a question, and what it holds is
released in the state that it has reached there.
-/

namespace CloudGrant

/-- An entry of a log: a question with its answer, or without one if the run was cut short there. -/
abbrev Interface.Entry (I : Interface) : Type := (q : I.Request) × Option (I.Reply q)

namespace Interface

variable {I : Interface}

/-- The entry of a question that was answered. -/
def Event.entry (e : I.Event) : I.Entry := ⟨e.1, some e.2⟩

/-- The same question asked of surroundings with a clock. -/
def Event.untimed (e : I.Event) : I.timed.Event := ⟨(Timed.untimed e.1 : Timed I.Request), e.2⟩

/-- The same question asked with a limit. -/
def Event.before (limit : Nat) (e : I.Event) : I.timed.Event :=
  ⟨(Timed.before limit e.1 : Timed I.Request), some e.2⟩

/-- What is asked of surroundings with a clock, apart from its limit. -/
def subject? : I.timed.Request → Option I.Request
  | .now => none
  | .untimed q => some q
  | .before _ q => some q

/-- What is logged of a question to surroundings with a clock. -/
def entry? : I.timed.Event → Option I.Entry
  | ⟨.now, _⟩ => none
  | ⟨.untimed q, r⟩ => some ⟨q, some r⟩
  | ⟨.before _ q, r⟩ => some ⟨q, r⟩

theorem subject?_of_entry?_eq {e : I.timed.Event} {e' : I.Entry} (h : entry? e = some e') :
    subject? e.1 = some e'.1 := by
  obtain ⟨q, r⟩ := e
  cases q <;> cases h <;> rfl

/-- What is asked is logged. -/
theorem entry?_of_subject? {e : I.timed.Event} {q : I.Request} (h : subject? e.1 = some q) :
    ∃ r, entry? e = some ⟨q, r⟩ := by
  obtain ⟨p, r⟩ := e
  cases p with
  | now => cases h
  | untimed p =>
    cases h
    exact ⟨some r, rfl⟩
  | before limit p =>
    cases h
    exact ⟨r, rfl⟩

/-- The log of a history. -/
def entries (l : List I.timed.Event) : List I.Entry := l.filterMap entry?

@[simp] theorem entries_nil : entries ([] : List I.timed.Event) = [] := rfl

@[simp] theorem entries_append (l l' : List I.timed.Event) :
    entries (l ++ l') = entries l ++ entries l' := List.filterMap_append

@[simp] theorem entries_untimed (l : List I.Event) :
    entries (l.map Event.untimed) = l.map Event.entry := by
  induction l with
  | nil => rfl
  | cons e l ih => exact congrArg (Event.entry e :: ·) ih

@[simp] theorem entries_before (limit : Nat) (l : List I.Event) :
    entries (l.map (Event.before limit)) = l.map Event.entry := by
  induction l with
  | nil => rfl
  | cons e l ih => exact congrArg (Event.entry e :: ·) ih

end Interface

open Interface

namespace Run

variable {I : Interface} {σ α ω : Type} {s t : σ} {l : List I.timed.Event}

/-- The log of a run whose questions are answered from a world. -/
def log (answer : ω → (q : I.timed.Request) → I.timed.Reply q × ω) (w : ω)
    (m : Run I.timed σ α) : List I.Entry :=
  entries (m.history answer w)

theorem log_ask {answer : ω → (q : I.timed.Request) → I.timed.Reply q × ω} {w : ω}
    {q : I.timed.Request} {next : I.timed.Reply q → Run I.timed σ α} :
    (ask s q next).log answer w =
      entries [⟨q, (answer w q).1⟩] ++ (next (answer w q).1).log answer (answer w q).2 :=
  entries_append [⟨q, (answer w q).1⟩] _

theorem stops_untimed {m : Run I σ α} {a : α} (h : m.untimed.Stops l t (.value a)) :
    ∃ l', l = l'.map Event.untimed ∧ m.Stops l' t (.value a) := by
  induction m generalizing l with
  | done s b =>
    obtain ⟨rfl, rfl, hx⟩ := stops_done_iff.mp h
    cases hx
    exact ⟨[], rfl, .done _ _⟩
  | ask s q next ih =>
    rcases stops_ask_iff.mp h with ⟨-, -, hx⟩ | ⟨r, l', rfl, h'⟩
    · cases hx
    · obtain ⟨l'', rfl, h''⟩ := ih r h'
      exact ⟨⟨q, r⟩ :: l'', rfl, .answered (I := I) (q := q) r h''⟩

/-- Without a limit a run stands at the questions at which it stands without a clock. -/
theorem stops_untimed_question {m : Run I σ α} {q : I.timed.Request}
    (h : m.untimed.Stops l t (.question q)) :
    ∃ p l', subject? q = some p ∧ l = l'.map Event.untimed ∧ m.Stops l' t (.question p) := by
  induction m generalizing l with
  | done s b =>
    obtain ⟨-, -, hx⟩ := stops_done_iff.mp h
    cases hx
  | ask s p next ih =>
    rcases stops_ask_iff.mp h with ⟨rfl, rfl, hx⟩ | ⟨r, l', rfl, h'⟩
    · cases hx
      exact ⟨p, [], rfl, rfl, .here _ _ _⟩
    · obtain ⟨p', l'', hp', rfl, h''⟩ := ih r h'
      exact ⟨p', ⟨p, r⟩ :: l'', hp', rfl, .answered (I := I) (q := p) r h''⟩

/-- With a limit too, as long as it is answered. -/
theorem stops_before_question {limit : Nat} {m : Run I σ α} {q : I.timed.Request}
    (h : (m.before limit).Stops l t (.question q)) :
    ∃ p l', subject? q = some p ∧ l = l'.map (Event.before limit) ∧
      m.Stops l' t (.question p) := by
  induction m generalizing l with
  | done s b =>
    obtain ⟨-, -, hx⟩ := stops_done_iff.mp h
    cases hx
  | ask s p next ih =>
    rw [before] at h
    rcases stops_ask_iff.mp h with ⟨rfl, rfl, hx⟩ | ⟨r, l', rfl, h'⟩
    · cases hx
      exact ⟨p, [], rfl, rfl, .here _ _ _⟩
    · cases r with
      | none =>
        obtain ⟨-, -, hx⟩ := stops_done_iff.mp h'
        cases hx
      | some r =>
        obtain ⟨p', l'', hp', rfl, h''⟩ := ih r h'
        exact ⟨p', ⟨p, r⟩ :: l'', hp', rfl, .answered r h''⟩

theorem stops_before {limit : Nat} {m : Run I σ α} {a : Option α}
    (h : (m.before limit).Stops l t (.value a)) :
    (∃ b l', a = some b ∧ l = l'.map (Event.before limit) ∧ m.Stops l' t (.value b)) ∨
      ∃ q l', a = none ∧ entries l = l'.map Event.entry ++ [⟨q, none⟩] ∧
        m.Stops l' t (.question q) := by
  induction m generalizing l with
  | done s b =>
    obtain ⟨rfl, rfl, hx⟩ := stops_done_iff.mp h
    cases hx
    exact .inl ⟨b, [], rfl, rfl, .done _ _⟩
  | ask s q next ih =>
    rw [before] at h
    rcases stops_ask_iff.mp h with ⟨-, -, hx⟩ | ⟨r, l', rfl, h'⟩
    · cases hx
    · cases r with
      | none =>
        -- no answer in time: the run is abandoned in front of the question
        obtain ⟨rfl, rfl, hx⟩ := stops_done_iff.mp h'
        cases hx
        exact .inr ⟨q, [], rfl, rfl, .here _ _ _⟩
      | some r =>
        rcases ih r h' with ⟨b, l'', rfl, rfl, h''⟩ | ⟨p, l'', rfl, he, h''⟩
        · exact .inl ⟨b, ⟨q, r⟩ :: l'', rfl, rfl, .answered r h''⟩
        · refine .inr ⟨p, ⟨q, r⟩ :: l'', rfl, ?_, .answered r h''⟩
          exact congrArg (⟨q, some r⟩ :: ·) he

end Run

namespace Program

variable {I : Interface} {σ α : Type} {s t : σ} {l : List I.timed.Event}

/-- To read the clock leaves no trace in the log. -/
theorem stops_clock_value {now : Nat} (h : ((clock : Program I.timed σ Nat) s).Stops l t (.value now)) :
    t = s ∧ entries l = [] := by
  rcases Run.stops_ask_iff.mp h with ⟨-, -, hx⟩ | ⟨r, k, rfl, h'⟩
  · cases hx
  · obtain ⟨rfl, rfl, -⟩ := Run.stops_done_iff.mp h'
    exact ⟨rfl, rfl⟩

/-- **Under a deadline a program is done, or abandoned before a question and released there.** -/
theorem stops_within {duration : Nat} {release : Program I σ Unit} {p : Program I σ α}
    {a : Option α} (h : (within duration release p s).Stops l t (.value a)) :
    (∃ b l', a = some b ∧ entries l = l'.map Event.entry ∧ (p s).Stops l' t (.value b)) ∨
      ∃ q u l₁ l₂, a = none ∧
        entries l = l₁.map Event.entry ++ (⟨q, none⟩ :: l₂.map Event.entry) ∧
        (p s).Stops l₁ u (.question q) ∧ (release u).Stops l₂ t (.value ()) := by
  unfold within at h
  obtain ⟨k₁, k₂, u, now, rfl, h₁, h₂⟩ := stops_bind_value_iff.mp h
  obtain ⟨rfl, hk₁⟩ := stops_clock_value h₁
  obtain ⟨k₃, k₄, v, b, rfl, h₃, h₄⟩ := stops_bind_value_iff.mp h₂
  rw [entries_append, hk₁, List.nil_append]
  rcases Run.stops_before h₃ with ⟨b, l', rfl, rfl, hb⟩ | ⟨q, l', rfl, he, hq⟩
  · obtain ⟨rfl, rfl, rfl⟩ := stops_pure_value_iff.mp h₄
    exact .inl ⟨b, l', rfl, by rw [List.append_nil, entries_before], hb⟩
  · obtain ⟨k₅, k₆, u', _, rfl, h₅, h₆⟩ := stops_bind_value_iff.mp h₄
    obtain ⟨rfl, rfl, rfl⟩ := stops_pure_value_iff.mp h₆
    obtain ⟨l₂, rfl, hr⟩ := Run.stops_untimed h₅
    refine .inr ⟨q, v, l', l₂, rfl, ?_, hq, hr⟩
    rw [List.append_nil, entries_append, he, entries_untimed, List.append_assoc]
    rfl

/-- Under a deadline a program stands at the questions at which it stands without one, or lets go. -/
theorem stops_within_question {duration : Nat} {release : Program I σ Unit} {p : Program I σ α}
    {q : I.timed.Request} (h : (within duration release p s).Stops l t (.question q)) :
    subject? q = none ∨
      (∃ r l', subject? q = some r ∧ entries l = l'.map Event.entry ∧
        (p s).Stops l' t (.question r)) ∨
      ∃ r u l', subject? q = some r ∧ (release u).Stops l' t (.question r) := by
  unfold within at h
  rcases stops_bind_iff.mp h with ⟨_, hx, hclock⟩ | ⟨k₁, k₂, u, now, rfl, h₁, h₂⟩
  · cases hx
    rcases Run.stops_ask_iff.mp hclock with ⟨-, -, hx⟩ | ⟨r, l', -, hdone⟩
    · cases hx
      exact .inl rfl
    · obtain ⟨-, -, hx⟩ := Run.stops_done_iff.mp hdone
      cases hx
  obtain ⟨rfl, hk₁⟩ := stops_clock_value h₁
  rcases stops_bind_iff.mp h₂ with ⟨_, hx, hbefore⟩ | ⟨k₃, k₄, v, b, rfl, h₃, h₄⟩
  · cases hx
    obtain ⟨r, l', hr, rfl, hstops⟩ := Run.stops_before_question hbefore
    exact .inr (.inl ⟨r, l', hr, by rw [entries_append, hk₁, entries_before]; rfl, hstops⟩)
  · cases b with
    | some b =>
      obtain ⟨-, -, hx⟩ := stops_pure_iff.mp h₄
      cases hx
    | none =>
      rcases stops_bind_iff.mp h₄ with ⟨_, hx, hrelease⟩ | ⟨_, _, _, _, _, _, hdone⟩
      · cases hx
        obtain ⟨r, l', hr, -, hstops⟩ := Run.stops_untimed_question hrelease
        exact .inr (.inr ⟨r, v, l', hr, hstops⟩)
      · obtain ⟨-, -, hx⟩ := stops_pure_iff.mp hdone
        cases hx

end Program

end CloudGrant
