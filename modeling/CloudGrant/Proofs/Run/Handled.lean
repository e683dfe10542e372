import CloudGrant.Run.Handler
import CloudGrant.Proofs.Run.Deadline

/-!
# The histories of a handled run

A run whose questions are carried out by a handler asks what the programs for its questions ask, one
after another (`carried_of_stops`), and at each of them the handler's state is the one that the
questions before it have left (`Carried.exists_of_mem`). With a clock the program of a question is
the same, up to a stop (`stops_timed`).
-/

namespace CloudGrant

open Interface

/-! ## Stops -/

namespace Stop

variable {I : Interface} {α : Type}

/-- The value at a stop, if there is one. -/
def value? : Stop I α → Option α
  | .value a => some a
  | .question _ => none

/-- What a log holds of a stop: a question that was not answered. -/
def pending : Stop I α → List I.Entry
  | .value _ => []
  | .question q => [⟨q, none⟩]

theorem eq_question_of_mem_pending {x : Stop I α} {e : I.Entry} (h : e ∈ x.pending) :
    x = .question e.1 := by
  cases x with
  | value a => cases h
  | question q => cases List.mem_singleton.mp h; rfl

end Stop

/-- What a program asks is all that a log shows of it. -/
theorem Program.Asks.logged {I : Interface} {σ α : Type} {P : I.Request → Prop}
    {p : Program I σ α} (hp : p.Asks P) {s t : σ} {l : List I.Event} {x : Stop I α}
    (h : (p s).Stops l t x) : ∀ e ∈ l.map Event.entry ++ x.pending, P e.1 := by
  intro e he
  rcases List.mem_append.mp he with he | he
  · obtain ⟨e', he', rfl⟩ := List.mem_map.mp he
    exact (hp h).1 e' he'
  · exact (hp h).2 _ (Stop.eq_question_of_mem_pending he)

/-! ## Parts of an interface -/

namespace Run

variable {I J : Interface} {σ τ α : Type}

/-- A run that asks through a larger interface leaves the state alone. -/
theorem stops_through {part : Interface.Part I J} {m : Run I σ α} {s t : τ} {l : List J.Event}
    {x : Stop J α} (h : (m.through part s).Stops l t x) :
    t = s ∧ (∀ e ∈ l, ∃ q, e.1 = part.request q) ∧
      ∀ d, x = .question d → ∃ q, d = part.request q := by
  induction m generalizing l with
  | done s' a =>
    obtain ⟨rfl, rfl, rfl⟩ := stops_done_iff.mp h
    simp
  | ask s' q next ih =>
    rcases stops_ask_iff.mp h with ⟨rfl, rfl, rfl⟩ | ⟨r, l', rfl, h'⟩
    · refine ⟨rfl, by simp, fun d hd => ?_⟩
      cases hd
      exact ⟨q, rfl⟩
    · obtain ⟨ht, hl, hx⟩ := ih _ h'
      exact ⟨ht, List.forall_mem_cons.mpr ⟨⟨q, rfl⟩, hl⟩, hx⟩

end Run

namespace Program

variable {I J : Interface} {σ τ α β : Type}

theorem asks_through {part : Interface.Part I J} {p : Program I Unit α} {P : J.Request → Prop}
    (h : ∀ q, P (part.request q)) : (p.through part : Program J σ α).Asks P := by
  intro s l t x hs
  obtain ⟨-, hl, hx⟩ := Run.stops_through hs
  refine ⟨fun e he => ?_, fun d hd => ?_⟩
  · obtain ⟨q, hq⟩ := hl e he
    exact hq ▸ h q
  · obtain ⟨q, rfl⟩ := hx d hd
    exact h q

theorem keeps_through {part : Interface.Part I J} {p : Program I Unit α} {f : σ → β} :
    (p.through part : Program J σ α).Keeps f := by
  intro s l t x hs
  rw [(Run.stops_through hs).1]

end Program

/-! ## Questions with a clock -/

namespace Handler

variable {I J : Interface} {τ : Type} {h : Handler I J τ}

/-- **A question with a clock is carried out as it is without one, up to a stop.** -/
theorem stops_timed {q : I.timed.Request} {s t : τ} {l : List J.timed.Event} {r : I.timed.Reply q}
    (hs : (h.timed q s).Stops l t (.value r)) :
    (subject? q = none ∧ t = s ∧ entries l = []) ∨
      ∃ p k, ∃ x : Stop J (I.Reply p), entry? ⟨q, r⟩ = some ⟨p, x.value?⟩ ∧
        (h p s).Stops k t x ∧ entries l = k.map Event.entry ++ x.pending := by
  cases q with
  | now =>
    obtain ⟨rfl, hl⟩ := Program.stops_clock_value hs
    exact .inl ⟨rfl, rfl, hl⟩
  | untimed p =>
    obtain ⟨k, rfl, hk⟩ := Run.stops_untimed hs
    exact .inr ⟨p, k, .value r, rfl, hk, by rw [entries_untimed]; exact (List.append_nil _).symm⟩
  | before limit p =>
    rcases Run.stops_before hs with ⟨b, k, rfl, rfl, hk⟩ | ⟨d, k, rfl, hl, hk⟩
    · refine .inr ⟨p, k, .value b, rfl, hk, ?_⟩
      rw [entries_before]
      exact (List.append_nil _).symm
    · exact .inr ⟨p, k, .question d, rfl, hk, hl⟩

end Handler

/-! ## Handled runs -/

namespace Run

variable {I J : Interface} {σ τ α : Type} {h : Handler I J τ}

/-- Some questions were carried out one after another: what was asked for them, and the state that
they left. -/
inductive Carried (h : Handler I J τ) : τ → List I.Event → List J.Event → τ → Prop where
  | nil (s : τ) : Carried h s [] [] s
  | cons {s u t : τ} {e : I.Event} {l : List I.Event} {k k' : List J.Event}
      (he : (h e.1 s).Stops k u (.value e.2)) (hl : Carried h u l k' t) :
      Carried h s (e :: l) (k ++ k') t

/-- **A handled run that is over has carried out its questions.** -/
theorem carried_of_stops {m : Run I σ α} {s t : τ} {k : List J.Event} {r : α × σ}
    (hs : (m.handledBy h s).Stops k t (.value r)) :
    ∃ l, m.Stops l r.2 (.value r.1) ∧ Carried h s l k t := by
  induction m generalizing s k with
  | done s' a =>
    obtain ⟨rfl, rfl, rfl⟩ := Program.stops_pure_value_iff.mp hs
    exact ⟨[], .done s' a, .nil t⟩
  | ask s' q next ih =>
    obtain ⟨k₁, k₂, u, reply, rfl, h₁, h₂⟩ := Program.stops_bind_value_iff.mp hs
    obtain ⟨l, hl, hc⟩ := ih reply h₂
    exact ⟨⟨q, reply⟩ :: l, .answered reply hl, .cons h₁ hc⟩

/-- What was asked was asked for one of the questions, in the state that those before it left. -/
theorem Carried.exists_of_mem {s t : τ} {l : List I.Event} {k : List J.Event}
    (hc : Carried h s l k t) {d : J.Event} (hd : d ∈ k) :
    ∃ l₁ e l₂ k₁ k₂ u v, l = l₁ ++ e :: l₂ ∧ Carried h s l₁ k₁ u ∧
      (h e.1 u).Stops k₂ v (.value e.2) ∧ d ∈ k₂ := by
  induction hc with
  | nil s => cases hd
  | @cons s u t e l k k' he hl ih =>
    rcases List.mem_append.mp hd with hd | hd
    · exact ⟨[], e, l, [], k, s, u, rfl, .nil s, he, hd⟩
    · obtain ⟨l₁, e', l₂, k₁, k₂, u', v, rfl, hc', he', hd'⟩ := ih hd
      exact ⟨e :: l₁, e', l₂, k ++ k₁, k₂, u', v, rfl, .cons he hc', he', hd'⟩

end Run

end CloudGrant
