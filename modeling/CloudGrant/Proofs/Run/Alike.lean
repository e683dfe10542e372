import CloudGrant.Proofs.Run.History

/-!
# Runs that ask the same

Two runs are alike (`Run.Alike`) if they ask the same questions in the same order and come to the
same value, whatever they are answered. They may stand in different states; those in which they end
are related by a relation of choice, so that what comes next can be compared in turn (`Alike.bind`).

A program respects two relations (`Program.Respects`) if its runs from states related by the first
are alike, and end in states related by the second.
-/

namespace CloudGrant

namespace Run

variable {I : Interface} {σ τ α β ω : Type} {R Q : σ → τ → Prop} {m : Run I σ α} {m' : Run I τ α}

/-- Two runs that ask the same and come to the same value, in states that are related. -/
inductive Alike (R : σ → τ → Prop) : Run I σ α → Run I τ α → Prop where
  | done {s : σ} {t : τ} (h : R s t) (a : α) : Alike R (.done s a) (.done t a)
  | ask (s : σ) (t : τ) (q : I.Request) {next : I.Reply q → Run I σ α}
      {next' : I.Reply q → Run I τ α} (h : ∀ r, Alike R (next r) (next' r)) :
      Alike R (.ask s q next) (.ask t q next')

theorem Alike.mono (h : Alike R m m') (hq : ∀ s t, R s t → Q s t) : Alike Q m m' := by
  induction h with
  | done hr a => exact .done (hq _ _ hr) a
  | ask s t q _ ih => exact .ask s t q ih

/-- What comes next is compared from where both runs have ended. -/
theorem Alike.bind {f : α → σ → Run I σ β} {f' : α → τ → Run I τ β} (h : Alike R m m')
    (hf : ∀ a s t, R s t → Alike Q (f a s) (f' a t)) : Alike Q (m.bind f) (m'.bind f') := by
  induction h with
  | done hr a => exact hf a _ _ hr
  | ask s t q _ ih => exact .ask s t q ih

/-- Runs that are alike are answered alike. -/
theorem Alike.history_eq (h : Alike R m m') (answer : ω → (q : I.Request) → I.Reply q × ω) (w : ω) :
    m.history answer w = m'.history answer w := by
  induction h generalizing w with
  | done _ _ => rfl
  | ask s t q _ ih => exact congrArg (⟨q, (answer w q).1⟩ :: ·) (ih _ _)

/-- Runs that are alike come to the same value, and leave the same world. -/
theorem Alike.exec_eq (h : Alike R m m') (answer : ω → (q : I.Request) → I.Reply q × ω) (w : ω) :
    (m.exec answer w).1.2 = (m'.exec answer w).1.2 ∧
      (m.exec answer w).2 = (m'.exec answer w).2 := by
  induction h generalizing w with
  | done _ _ => exact ⟨rfl, rfl⟩
  | ask s t q _ ih => exact ih _ _

end Run

namespace Program

variable {I : Interface} {σ α β : Type} {R Q S : σ → σ → Prop}

/-- From states that are related a program asks the same, and ends in states that are related. -/
def Respects (R Q : σ → σ → Prop) (p : Program I σ α) : Prop :=
  ∀ ⦃s t : σ⦄, R s t → Run.Alike Q (p s) (p t)

theorem respects_pure (a : α) : (pure a : Program I σ α).Respects R R :=
  fun _ _ h => .done h a

theorem respects_ask (q : I.Request) : (Program.ask q : Program I σ (I.Reply q)).Respects R R :=
  fun s t h => .ask s t q fun r => .done h r

theorem respects_modify {f : σ → σ} (h : ∀ s t, R s t → Q (f s) (f t)) :
    (Program.modify f : Program I σ Unit).Respects R Q :=
  fun s t hr => .done (h s t hr) ()

theorem respects_bind {p : Program I σ α} {f : α → Program I σ β} (hp : p.Respects R Q)
    (hf : ∀ a, (f a).Respects Q S) : (p >>= f).Respects R S :=
  fun _ _ hr => (hp hr).bind fun a _ _ hq => hf a hq

/-- What comes after a look at the state starts in that state. -/
theorem get_bind (f : σ → Program I σ α) (s : σ) : (Program.get >>= f) s = f s s := rfl

theorem Respects.mono {R' Q' : σ → σ → Prop} {p : Program I σ α} (h : p.Respects R Q)
    (hr : ∀ s t, R' s t → R s t) (hq : ∀ s t, Q s t → Q' s t) : p.Respects R' Q' :=
  fun s t hs => (h (hr s t hs)).mono hq

end Program

end CloudGrant
