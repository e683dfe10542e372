import CloudGrant.Application
import CloudGrant.Proofs.Cloud.Calls

/-!
# Which failure is returned

A program that fails returns the failure that came first: the one that a question was answered with
after others that did not fail, or a refusal of its own when no question has failed (`Accounts`).
What follows the first failure, such as logging out, does not change it.
-/

namespace CloudGrant

open Interface

/-- An entry whose question was answered with a failure that is returned as an error. -/
inductive Reports : surroundings.Entry → Error → Prop where
  | amazon (c : Amazon.Call) (cause : Cause) (kind : Step.Kind) (context : String) :
      Reports ⟨.amazon c, some (.error cause)⟩ (.stepFailed kind.name (cause.within context))
  | azure (c : Azure.Call) (hc : c ≠ .closeSession) (cause : Cause) :
      Reports ⟨.azure c, some (.error cause)⟩ (.deployment cause)
  | inventory (caller : Caller) (c : Inventory.Call) (e : InventoryError) :
      Reports ⟨.inventory caller c, some (.error e)⟩ (.inventory e)

/-- Nothing in a log has failed. -/
def Clean (log : List surroundings.Entry) : Prop := ∀ e ∈ log, ¬ Failed e

/-- An error is the first failure of a log, or a refusal if nothing failed. -/
inductive Blames (refusal : Error → Prop) : List surroundings.Entry → Error → Prop where
  | failed {first : List surroundings.Entry} {e : surroundings.Entry}
      {rest : List surroundings.Entry} {error : Error} (hf : Clean first) (h : Reports e error) :
      Blames refusal (first ++ e :: rest) error
  | refused {log : List surroundings.Entry} {error : Error} (hl : Clean log) (h : refusal error) :
      Blames refusal log error

/-- A result accounts for what is in a log. -/
def Accounts {ε α : Type} (as : ε → Error) (refusal : Error → Prop)
    (log : List surroundings.Entry) : Except ε α → Prop
  | .ok _ => Clean log
  | .error e => Blames refusal log (as e)

/-- All results of a program account for what it was answered. -/
def Accountable {ε α : Type} (as : ε → Error) (refusal : Error → Prop)
    (p : Work (Except ε α)) : Prop :=
  ∀ ⦃s : Application⦄ ⦃l : List surroundings.Event⦄ ⦃t : Application⦄ ⦃r : Except ε α⦄,
    (p s).Stops l t (.value r) → Accounts as refusal (l.map Event.entry) r

variable {ε α β : Type} {as : ε → Error} {refusal : Error → Prop}
  {log log' : List surroundings.Entry}

theorem clean_nil : Clean [] := by
  intro e he
  cases he

theorem clean_append : Clean (log ++ log') ↔ Clean log ∧ Clean log' := List.forall_mem_append

theorem clean_singleton {q : Question} {r : q.Reply} (h : Question.fails q r = false) :
    Clean [⟨q, some r⟩] := by
  intro e he
  cases List.mem_singleton.mp he
  rw [failed_some_iff, h]
  exact Bool.false_ne_true

/-- What is answered after a log that is clean is what counts. -/
theorem Blames.append_left {error : Error} (hl : Clean log) (h : Blames refusal log' error) :
    Blames refusal (log ++ log') error := by
  cases h with
  | @failed first e rest _ hf hr =>
    rw [← List.append_assoc]
    exact .failed (clean_append.mpr ⟨hl, hf⟩) hr
  | refused hl' hr => exact .refused (clean_append.mpr ⟨hl, hl'⟩) hr

/-- What follows a failure does not change it. -/
theorem Blames.append_right {error : Error} (h : Blames (fun _ => False) log error) :
    Blames refusal (log ++ log') error := by
  cases h with
  | failed hf hr =>
    rw [List.append_assoc, List.cons_append]
    exact .failed hf hr
  | refused _ h => exact h.elim

theorem Blames.mono {refusal' : Error → Prop} {error : Error} (h : Blames refusal log error)
    (hr : ∀ e, refusal e → refusal' e) : Blames refusal' log error := by
  cases h with
  | failed hf h => exact .failed hf h
  | refused hl h => exact .refused hl (hr _ h)

theorem Accounts.mono {refusal' : Error → Prop} {r : Except ε α} (h : Accounts as refusal log r)
    (hr : ∀ e, refusal e → refusal' e) : Accounts as refusal' log r := by
  cases r with
  | ok _ => exact h
  | error e => exact Blames.mono h hr

theorem Accounts.append_left {r : Except ε α} (hl : Clean log) (h : Accounts as refusal log' r) :
    Accounts as refusal (log ++ log') r := by
  cases r with
  | ok _ => exact clean_append.mpr ⟨hl, h⟩
  | error e => exact Blames.append_left hl h

/-! ## Programs -/

theorem accountable_error {e : ε} (he : refusal (as e)) :
    Accountable (α := α) as refusal (pure (.error e)) := by
  intro s l t r h
  obtain ⟨rfl, rfl, rfl⟩ := Program.stops_pure_value_iff.mp h
  exact .refused clean_nil he

/-- The first part fails, or the rest accounts for the result. -/
theorem accountable_andThen {p : Work (Except ε α)} {f : α → Work (Except ε β)}
    (hp : Accountable as refusal p) (hf : ∀ a, Accountable as refusal (f a)) :
    Accountable as refusal (p.andThen f) := by
  intro s l t r h
  rcases Program.stops_andThen_iff.mp h with ⟨_, hx, -⟩ | ⟨e, hx, he⟩ | ⟨l₁, l₂, u, a, rfl, h₁, h₂⟩
  · cases hx
  · cases hx
    exact hp he
  · rw [List.map_append]
    exact Accounts.append_left (hp h₁) (hf a h₂)

/-- A part that cannot fail does not count. -/
theorem accountable_bind {p : Work α} {f : α → Work (Except ε β)}
    (hp : p.Asks fun q => ∀ r, Question.fails q r = false)
    (hf : ∀ a, Accountable as refusal (f a)) : Accountable as refusal (p >>= f) := by
  intro s l t r h
  obtain ⟨l₁, l₂, u, a, rfl, h₁, h₂⟩ := Program.stops_bind_value_iff.mp h
  rw [List.map_append]
  refine Accounts.append_left (fun e he => ?_) (hf a h₂)
  obtain ⟨⟨q, r'⟩, hv, rfl⟩ := List.mem_map.mp he
  have hq : Question.fails q r' = false := (hp h₁).1 ⟨q, r'⟩ hv r'
  exact clean_singleton hq _ List.mem_cons_self

/-- A call to the inventory accounts for its own answer. -/
theorem accountable_inventory (caller : Caller) (c : Inventory.Call) :
    Accountable Error.inventory refusal (asking (.inventory caller c)) := by
  intro s l t r h
  obtain ⟨-, rfl⟩ := Program.stops_ask_value_iff.mp h
  cases r with
  | error e => exact .failed clean_nil (.inventory caller c e)
  | ok a => exact clean_singleton rfl

/-- So does a command in a session. -/
theorem accountable_azure {c : Azure.Call} (hc : c ≠ .closeSession) :
    Accountable Error.deployment refusal (asking (.azure c)) := by
  intro s l t r h
  obtain ⟨-, rfl⟩ := Program.stops_ask_value_iff.mp h
  cases r with
  | error e => exact .failed clean_nil (.azure c hc e)
  | ok a => exact clean_singleton rfl

end CloudGrant
