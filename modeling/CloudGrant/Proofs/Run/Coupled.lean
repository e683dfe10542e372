import Mathlib.Data.List.Forall2
import CloudGrant.Proofs.Run.Deadline
import CloudGrant.Run.Handler

/-!
# Two runs side by side

A `Coupling` says which questions of two runs match, and which answers to them. Two runs are coupled
(`Run.Coupled`) if they ask matching questions, and after matching answers go on coupled; they end
with values that are related. Their states are related at every point on the way, so that they stay
coupled where a deadline cuts them short (`Program.couples_within`), and where their questions are
carried out by a handler that keeps to couplings (`Run.Coupled.handledBy`).

Coupled runs that are answered from worlds which answer alike have matching histories
(`Run.Coupled.corresponds`). Unlike `Run.Alike`, which compares runs that are given the same answers,
this is about answers that differ as well.
-/

namespace CloudGrant

variable {I J : Interface}

/-- Which questions of two runs match, and which answers to two questions. -/
structure Coupling (I : Interface) where
  asked : I.Request → I.Request → Prop
  answered : (q q' : I.Request) → I.Reply q → I.Reply q' → Prop

namespace Coupling

/-- Matching questions with matching answers. -/
def Matches (C : Coupling I) (e e' : I.Event) : Prop :=
  C.asked e.1 e'.1 ∧ C.answered e.1 e'.1 e.2 e'.2

/-- Asked matching questions, two worlds that are related give matching answers, and are related
after it. -/
def Alike {ω ω' : Type} (C : Coupling I) (W : ω → ω' → Prop)
    (answer : ω → (q : I.Request) → I.Reply q × ω)
    (answer' : ω' → (q : I.Request) → I.Reply q × ω') : Prop :=
  ∀ ⦃w w'⦄, W w w' → ∀ ⦃q q'⦄, C.asked q q' →
    C.answered q q' (answer w q).1 (answer' w' q').1 ∧ W (answer w q).2 (answer' w' q').2

/-! ## The same questions -/

/-- The same answer to the same question. -/
inductive SameReply : (q q' : I.Request) → I.Reply q → I.Reply q' → Prop where
  | mk (q : I.Request) (r : I.Reply q) : SameReply q q r r

/-- Nothing matches but the same. -/
def same (I : Interface) : Coupling I := ⟨Eq, SameReply⟩

/-! ## Clocks -/

/-- Questions to surroundings with a clock match if they have the same limit. -/
inductive TimedAsked (C : Coupling I) : I.timed.Request → I.timed.Request → Prop where
  | now : TimedAsked C .now .now
  | untimed {q q' : I.Request} (h : C.asked q q') : TimedAsked C (.untimed q) (.untimed q')
  | before (limit : Nat) {q q' : I.Request} (h : C.asked q q') :
      TimedAsked C (.before limit q) (.before limit q')

/-- The time is the same, and either both questions are answered by their limit or none is. -/
inductive TimedAnswered (C : Coupling I) :
    (q q' : I.timed.Request) → I.timed.Reply q → I.timed.Reply q' → Prop where
  | now (t : Nat) : TimedAnswered C .now .now t t
  | untimed {q q' : I.Request} {r : I.Reply q} {r' : I.Reply q'} (h : C.answered q q' r r') :
      TimedAnswered C (.untimed q) (.untimed q') r r'
  | before (limit : Nat) {q q' : I.Request} {r : I.Reply q} {r' : I.Reply q'}
      (h : C.answered q q' r r') :
      TimedAnswered C (.before limit q) (.before limit q') (some r) (some r')
  | late (limit : Nat) (q q' : I.Request) :
      TimedAnswered C (.before limit q) (.before limit q') none none

/-- The same coupling with a clock. -/
def timed (C : Coupling I) : Coupling I.timed := ⟨TimedAsked C, TimedAnswered C⟩

end Coupling

/-- Both fail in the same way, or both give values that are related. -/
inductive Likewise {ε α β : Type} (V : α → β → Prop) : Except ε α → Except ε β → Prop where
  | error (e : ε) : Likewise V (.error e) (.error e)
  | ok {a : α} {b : β} (h : V a b) : Likewise V (.ok a) (.ok b)

theorem likewise_rfl {ε α : Type} {V : α → α → Prop} (hV : ∀ a, V a a) (x : Except ε α) :
    Likewise V x x := by
  cases x with
  | error e => exact .error e
  | ok a => exact .ok (hV a)

theorem Likewise.mapError {ε δ α β : Type} {V : α → β → Prop} {x : Except ε α} {y : Except ε β}
    (h : Likewise V x y) (f : ε → δ) : Likewise V (x.mapError f) (y.mapError f) := by
  cases h with
  | error e => exact .error (f e)
  | ok h => exact .ok h

/-! ## Runs -/

namespace Run

variable {C : Coupling I} {σ τ α β γ δ ω ω' : Type} {S : σ → τ → Prop} {V : α → β → Prop}
  {U : γ → δ → Prop} {m : Run I σ α} {m' : Run I τ β}

/-- Two runs that match in what they ask as long as they do in what they are answered. -/
inductive Coupled (C : Coupling I) (S : σ → τ → Prop) (V : α → β → Prop) :
    Run I σ α → Run I τ β → Prop where
  | done {s : σ} {t : τ} {a : α} {b : β} (hs : S s t) (hv : V a b) :
      Coupled C S V (.done s a) (.done t b)
  | ask {s : σ} {t : τ} {q q' : I.Request} {next : I.Reply q → Run I σ α}
      {next' : I.Reply q' → Run I τ β} (hs : S s t) (hq : C.asked q q')
      (h : ∀ r r', C.answered q q' r r' → Coupled C S V (next r) (next' r')) :
      Coupled C S V (.ask s q next) (.ask t q' next')

theorem Coupled.bind {f : α → σ → Run I σ γ} {f' : β → τ → Run I τ δ} (hm : m.Coupled C S V m')
    (hf : ∀ a b s t, V a b → S s t → (f a s).Coupled C S U (f' b t)) :
    (m.bind f).Coupled C S U (m'.bind f') := by
  induction hm with
  | done hs hv => exact hf _ _ _ _ hv hs
  | ask hs hq _ ih => exact .ask hs hq ih

theorem Coupled.mono {V' : α → β → Prop} (hm : m.Coupled C S V m') (h : ∀ a b, V a b → V' a b) :
    m.Coupled C S V' m' := by
  induction hm with
  | done hs hv => exact .done hs (h _ _ hv)
  | ask hs hq _ ih => exact .ask hs hq ih

/-- A run beside itself. -/
theorem coupled_same (m : Run I σ α) : m.Coupled (Coupling.same I) Eq Eq m := by
  induction m with
  | done s a => exact .done rfl rfl
  | ask s q next ih =>
    refine .ask rfl rfl fun r r' h => ?_
    cases h
    exact ih r

/-- Runs stay coupled when they ask through a larger interface, if the larger coupling is no
stricter in what is asked and as strict in what is answered. -/
theorem Coupled.through {D : Coupling J} {part part' : Interface.Part I J} {ρ ρ' : Type}
    {R : ρ → ρ' → Prop} (hm : m.Coupled C S V m')
    (hq : ∀ q q', C.asked q q' → D.asked (part.request q) (part'.request q'))
    (hr : ∀ q q' r r', C.asked q q' → D.answered (part.request q) (part'.request q') r r' →
      C.answered q q' (part.reply q r) (part'.reply q' r'))
    {s : ρ} {t : ρ'} (hs : R s t) : (m.through part s).Coupled D R V (m'.through part' t) := by
  induction hm with
  | done _ hv => exact .done hs hv
  | ask _ hask _ ih => exact .ask hs (hq _ _ hask) fun r r' h => ih _ _ (hr _ _ r r' hask h)

/-! ### Deadlines -/

theorem Coupled.untimed (hm : m.Coupled C S V m') :
    m.untimed.Coupled C.timed S V m'.untimed := by
  induction hm with
  | done hs hv => exact .done hs hv
  | ask hs hq _ ih =>
    refine .ask hs (.untimed hq) fun r r' h => ?_
    cases h with
    | untimed h => exact ih _ _ h

/-- Runs that are cut short are cut short at the same question. -/
theorem Coupled.before {limit : Nat} (hm : m.Coupled C S V m') :
    (m.before limit).Coupled C.timed S (Option.Rel V) (m'.before limit) := by
  induction hm with
  | done hs hv => exact .done hs (.some hv)
  | ask hs hq _ ih =>
    rw [Run.before, Run.before]
    -- a limit passes on both sides or on none
    refine .ask hs (.before limit hq) fun r r' h => ?_
    cases h with
    | before _ h => exact ih _ _ h
    | late => exact .done hs .none

/-! ### Answers -/

/-- What it comes to when two runs are answered, each from a world of its own. -/
structure Corresponds (C : Coupling I) (S : σ → τ → Prop) (V : α → β → Prop)
    (answer : ω → (q : I.Request) → I.Reply q × ω)
    (answer' : ω' → (q : I.Request) → I.Reply q × ω') (w : ω) (w' : ω') (m : Run I σ α)
    (m' : Run I τ β) : Prop where
  history : List.Forall₂ C.Matches (m.history answer w) (m'.history answer' w')
  value : V (m.exec answer w).1.2 (m'.exec answer' w').1.2
  state : S (m.exec answer w).1.1 (m'.exec answer' w').1.1

/-- **Coupled runs whose worlds answer alike correspond to each other.** -/
theorem Coupled.corresponds {W : ω → ω' → Prop} {answer : ω → (q : I.Request) → I.Reply q × ω}
    {answer' : ω' → (q : I.Request) → I.Reply q × ω'} (hm : m.Coupled C S V m')
    (ha : C.Alike W answer answer') {w : ω} {w' : ω'} (hw : W w w') :
    Corresponds C S V answer answer' w w' m m' := by
  induction hm generalizing w w' with
  | done hs hv => exact ⟨.nil, hv, hs⟩
  | ask _ hq _ ih =>
    obtain ⟨hr, hw⟩ := ha hw hq
    have hrest := ih _ _ hr hw
    exact ⟨.cons ⟨hq, hr⟩ hrest.history, hrest.value, hrest.state⟩

end Run

/-! ## Programs -/

namespace Program

variable {C : Coupling I} {σ τ ε α β γ δ : Type} {S : σ → τ → Prop} {V : α → β → Prop}
  {U : γ → δ → Prop}

/-- From states that are related the runs of two programs are coupled. -/
def Couples (C : Coupling I) (S : σ → τ → Prop) (V : α → β → Prop) (p : Program I σ α)
    (p' : Program I τ β) : Prop :=
  ∀ ⦃s : σ⦄ ⦃t : τ⦄, S s t → (p s).Coupled C S V (p' t)

variable {p : Program I σ α} {p' : Program I τ β}

theorem Couples.mono {V' : α → β → Prop} (hp : p.Couples C S V p') (h : ∀ a b, V a b → V' a b) :
    p.Couples C S V' p' := fun _ _ hs => (hp hs).mono h

theorem couples_pure {a : α} {b : β} (h : V a b) :
    (pure a : Program I σ α).Couples C S V (pure b : Program I τ β) := fun _ _ hs => .done hs h

theorem couples_ask {q q' : I.Request} (h : C.asked q q') :
    (Program.ask q : Program I σ (I.Reply q)).Couples C S (C.answered q q')
      (Program.ask q' : Program I τ (I.Reply q')) :=
  fun _ _ hs => .ask hs h fun _ _ hr => .done hs hr

theorem couples_modify {f : σ → σ} {g : τ → τ} (h : ∀ s t, S s t → S (f s) (g t)) :
    (Program.modify f : Program I σ Unit).Couples C S Eq (Program.modify g : Program I τ Unit) :=
  fun s t hs => .done (h s t hs) rfl

theorem couples_bind {f : α → Program I σ γ} {f' : β → Program I τ δ} (hp : p.Couples C S V p')
    (hf : ∀ a b, V a b → (f a).Couples C S U (f' b)) : (p >>= f).Couples C S U (p' >>= f') :=
  fun _ _ hs => (hp hs).bind fun a b _ _ hv ht => hf a b hv ht

/-- What comes after a look at the state may use that the states are related. -/
theorem couples_get_bind {f : σ → Program I σ α} {f' : τ → Program I τ β}
    (hf : ∀ s t, S s t → (f s).Couples C S V (f' t)) :
    (Program.get >>= f).Couples C S V (Program.get >>= f') := fun s t hs => hf s t hs hs

theorem couples_andThen {p : Program I σ (Except ε α)} {p' : Program I τ (Except ε β)}
    {f : α → Program I σ (Except ε γ)} {f' : β → Program I τ (Except ε δ)}
    (hp : p.Couples C S (Likewise V) p')
    (hf : ∀ a b, V a b → (f a).Couples C S (Likewise U) (f' b)) :
    (p.andThen f).Couples C S (Likewise U) (p'.andThen f') := by
  refine couples_bind hp fun x y h => ?_
  cases h with
  | error e => exact couples_pure (.error e)
  | ok h => exact hf _ _ h

/-- Programs that come to the same value are followed by the same. -/
theorem couples_bind_eq {p p' : Program I σ α} {R : σ → σ → Prop} {f : α → Program I σ γ}
    {f' : α → Program I σ δ} (hp : p.Couples C R Eq p')
    (hf : ∀ a, (f a).Couples C R U (f' a)) : (p >>= f).Couples C R U (p' >>= f') :=
  couples_bind hp fun a _ h => h ▸ hf a

theorem couples_untimed (hp : p.Couples C S V p') : p.untimed.Couples C.timed S V p'.untimed :=
  fun _ _ hs => (hp hs).untimed

theorem couples_clock :
    (clock : Program I.timed σ Nat).Couples C.timed S Eq (clock : Program I.timed τ Nat) := by
  intro s t hs
  refine .ask hs .now fun r r' h => ?_
  cases h
  exact .done hs rfl

/-- **A deadline cuts coupled programs short at the same point**, and what they hold there is let go
of in states that are related. -/
theorem couples_within {duration : Nat} {release : Program I σ Unit} {release' : Program I τ Unit}
    (hr : release.Couples C S Eq release') (hp : p.Couples C S V p') :
    (within duration release p).Couples C.timed S (Option.Rel V) (within duration release' p') := by
  refine couples_bind couples_clock fun start _ hstart => ?_
  subst hstart
  refine couples_bind (V := Option.Rel V) (fun _ _ hs => (hp hs).before) fun x y h => ?_
  cases h with
  | some h => exact couples_pure (.some h)
  | none => exact couples_bind (couples_untimed hr) fun _ _ _ => couples_pure .none

/-- A handler with a clock keeps to the couplings that it keeps to without one. -/
theorem couples_timed {D : Coupling J} {h : Handler I J σ} {h' : Handler I J τ}
    (hh : ∀ q q', C.asked q q' → (h q).Couples D S (C.answered q q') (h' q'))
    {q q' : I.timed.Request} (hq : C.timed.asked q q') :
    (h.timed q).Couples D.timed S (C.timed.answered q q') (h'.timed q') := by
  cases hq with
  | now => exact couples_clock.mono fun t _ ht => ht ▸ .now t
  | untimed hq => exact (couples_untimed (hh _ _ hq)).mono fun _ _ hr => .untimed hr
  | before limit hq =>
    intro s t hs
    refine (hh _ _ hq hs).before.mono fun x y hr => ?_
    cases hr with
    | some hr => exact .before limit hr
    | none => exact .late limit _ _

/-! ### Programs beside themselves -/

/-- From states that are related a program asks matching questions, and comes to the same value. -/
abbrev Steady (C : Coupling I) (R : σ → σ → Prop) (p : Program I σ α) : Prop := p.Couples C R Eq p

section

variable {R : σ → σ → Prop} {p : Program I σ α}

theorem steady_pure (a : α) : (pure a : Program I σ α).Steady C R := couples_pure rfl

theorem steady_bind {f : α → Program I σ γ} (hp : p.Steady C R) (hf : ∀ a, (f a).Steady C R) :
    (p >>= f).Steady C R := couples_bind_eq hp hf

theorem steady_andThen {p : Program I σ (Except ε α)} {f : α → Program I σ (Except ε γ)}
    (hp : p.Steady C R) (hf : ∀ a, (f a).Steady C R) : (p.andThen f).Steady C R := by
  refine steady_bind hp fun r => ?_
  cases r with
  | error e => exact steady_pure _
  | ok a => exact hf a

end

end Program

/-- **Coupled runs stay coupled when their questions are carried out**, by programs that are coupled
for questions that match. -/
theorem Run.Coupled.handledBy {C : Coupling I} {D : Coupling J} {σ τ ρ ρ' α β : Type}
    {S : σ → τ → Prop} {R : ρ → ρ' → Prop} {V : α → β → Prop} {h : Handler I J ρ}
    {h' : Handler I J ρ'} {m : Run I σ α} {m' : Run I τ β} (hm : m.Coupled C S V m')
    (hh : ∀ q q', C.asked q q' → (h q).Couples D R (C.answered q q') (h' q')) :
    (m.handledBy h).Couples D R (fun x y => V x.1 y.1 ∧ S x.2 y.2) (m'.handledBy h') := by
  induction hm with
  | done hs hv => exact Program.couples_pure ⟨hv, hs⟩
  | ask _ hq _ ih => exact Program.couples_bind (hh _ _ hq) ih

end CloudGrant
