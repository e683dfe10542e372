import CloudGrant.Azure.Session
import CloudGrant.Proofs.Azure.Status
import CloudGrant.Proofs.Run.History

/-!
# Waiting for a deployment

A deployment is submitted once and then looked at until a look is decisive, or none is left. `Polled`
says which looks there were and that the last of them decides; it holds whatever the tool answers
(`polled_await`), by induction on how many looks are left. The submission decides nothing: what the
tool answers to it is not looked at (`deploy_polled`).
-/

namespace CloudGrant.Azure

/-! ## What a look tells -/

/-- What is written on standard output gives no state: it is no status document, or one of a deployment
that succeeded and names no subscription. -/
inductive Unreadable (output : List UInt8) : Prop where
  | document {e : Json.Error} (h : Json.decode Deployment.decoder output = .error e) :
      Unreadable output
  | subscription {d : Deployment} (h : Json.decode Deployment.decoder output = .ok d)
      (hcode : ¬ ∃ e, Coded d e) (hstate : d.state = Status.succeededState)
      (hid : subscriptionId? d.id = none) : Unreadable output

theorem ofDeployment_error_iff {d : Deployment} :
    (∃ e, Status.ofDeployment d = .error e) ↔ (¬ ∃ e, Coded d e) ∧
      d.state = Status.succeededState ∧ subscriptionId? d.id = none := by
  by_cases hcoded : ∃ e, Coded d e
  · obtain ⟨e, he⟩ := hcoded
    rw [ofDeployment_coded he]
    exact iff_of_false (by simp) fun h => h.1 ⟨e, he⟩
  unfold Status.ofDeployment
  rw [errorOf?_eq_none hcoded]
  dsimp only
  split
  · next hstate => cases hid : subscriptionId? d.id <;> simp [hcoded, hstate]
  · next hstate => split <;> simp [hstate]

/-- **A status is told unless the output is unreadable.** -/
theorem ofBytes_error_iff {output : List UInt8} :
    (∃ e, Status.ofBytes output = .error e) ↔ Unreadable output := by
  cases hdecode : Json.decode Deployment.decoder output with
  | error e =>
    refine iff_of_true ?_ (.document hdecode)
    unfold Status.ofBytes
    rw [hdecode]
    exact ⟨_, rfl⟩
  | ok d =>
    rw [ofBytes_of_decode hdecode, ofDeployment_error_iff]
    constructor
    · rintro ⟨hcode, hstate, hid⟩
      exact .subscription hdecode hcode hstate hid
    · rintro (h | ⟨h, hcode, hstate, hid⟩)
      · cases hdecode.symm.trans h
      · cases hdecode.symm.trans h
        exact ⟨hcode, hstate, hid⟩

/-- A run of the tool ended well and told how the deployment stands. -/
def Tells (o : Outcome) (status : Status) : Prop :=
  ∃ output errors, o = .ended (.exited 0) output errors ∧ Status.ofBytes output = .ok status

/-- No further look is taken after one that came to this: it failed, it could not be read, or the
deployment has come to its end. -/
inductive Decisive : Outcome → Prop where
  | failed {o : Outcome} (h : ∀ output errors, o ≠ .ended (.exited 0) output errors) : Decisive o
  | unreadable {output errors : List UInt8} (h : Unreadable output) :
      Decisive (.ended (.exited 0) output errors)
  | succeeded {o : Outcome} {subscription : String} (h : Tells o (.succeeded subscription)) :
      Decisive o
  | stopped {o : Outcome} {cause : String} (h : Tells o (.failed cause)) : Decisive o

/-- All that is not decisive is a deployment that is under way. -/
theorem decisive_iff {o : Outcome} : Decisive o ↔ ∀ state, ¬ Tells o (.running state) := by
  constructor
  · rintro (h | h | ⟨_, _, rfl, h⟩ | ⟨_, _, rfl, h⟩) state ⟨output, errors, ho, hrunning⟩
    · exact h output errors ho
    · cases ho
      obtain ⟨e, he⟩ := ofBytes_error_iff.mpr h
      cases he.symm.trans hrunning
    · cases ho
      cases h.symm.trans hrunning
    · cases ho
      cases h.symm.trans hrunning
  · intro h
    by_cases hended : ∃ output errors, o = .ended (.exited 0) output errors
    · obtain ⟨output, errors, rfl⟩ := hended
      cases hstatus : Status.ofBytes output with
      | error e => exact .unreadable (ofBytes_error_iff.mp ⟨e, hstatus⟩)
      | ok status =>
        have htells : Tells (.ended (.exited 0) output errors) status := ⟨_, _, rfl, hstatus⟩
        cases status with
        | running state => exact absurd htells (h state)
        | succeeded subscription => exact .succeeded htells
        | failed cause => exact .stopped htells
    · exact .failed fun output errors ho => hended ⟨output, errors, ho⟩

section Looks

variable (s : Session) (name : String)

/-- What comes of a look. -/
def lookedAt (o : Outcome) : Except Cause Status :=
  ((Session.outputOf s.settings "deployment sub show" o).mapError
    (Cause.within "failed to read deployment status")).bind Status.ofBytes

/-- What comes of a deployment by its last look. -/
def concluded (o : Outcome) : Except Cause String :=
  match lookedAt s o with
  | .error e => .error e
  | .ok (.succeeded subscription) => .ok subscription
  | .ok (.failed cause) => .error (Cause.of ("error during deployment: " ++ cause))
  | .ok (.running _) =>
    .error (Cause.of ("deployment \"" ++ name ++ "\" did not finish after " ++ toString s.looks ++
      " status checks"))

variable {s name} {o : Outcome} {status : Status}

/-- A run has an output exactly if it ended well. -/
theorem outputOf_eq_ok_iff {settings : Settings} {label : String} {output : List UInt8} :
    Session.outputOf settings label o = .ok output ↔
      ∃ errors, o = .ended (.exited 0) output errors := by
  cases o with
  | ended ending written errors =>
    unfold Session.outputOf
    dsimp only
    split
    · next hending => simp [hending]
    · next hending => simp [hending]
  | notStarted | timedOut => simp [Session.outputOf]

theorem lookedAt_eq_ok_iff : lookedAt s o = .ok status ↔ Tells o status := by
  have hsplit : lookedAt s o = .ok status ↔
      ∃ output, Session.outputOf s.settings "deployment sub show" o = .ok output ∧
        Status.ofBytes output = .ok status := by
    unfold lookedAt
    cases Session.outputOf s.settings "deployment sub show" o <;>
      simp [Except.mapError, Except.bind]
  rw [hsplit]
  constructor
  · rintro ⟨output, houtput, hstatus⟩
    obtain ⟨errors, rfl⟩ := outputOf_eq_ok_iff.mp houtput
    exact ⟨output, errors, rfl, hstatus⟩
  · rintro ⟨output, errors, rfl, hstatus⟩
    exact ⟨output, outputOf_eq_ok_iff.mpr ⟨errors, rfl⟩, hstatus⟩

/-- A deployment has a subscription exactly if its last look told so. -/
theorem concluded_eq_ok_iff {subscription : String} :
    concluded s name o = .ok subscription ↔ Tells o (.succeeded subscription) := by
  rw [← lookedAt_eq_ok_iff (s := s)]
  unfold concluded
  split <;> simp_all

end Looks

/-! ## The looks -/

/-- A tool whose runs come to these outcomes, one after the other. -/
def playing (outcomes : Nat → Outcome) : (q : tool.Request) → tool.Reply q × (Nat → Outcome)
  | .run .. => (outcomes 0, fun n => outcomes (n + 1))
  | .wait _ => ((), outcomes)
  | .makeHome => (.ok "", outcomes)
  | .removeHome _ => ((), outcomes)

section Polled

variable (s : Session) (name : String)

/-- A look, with what the tool answered. -/
def shown (o : Outcome) : tool.Event :=
  ⟨.run s.home ["deployment", "sub", "show", "--name=" ++ name], o⟩

/-- The time between two looks. -/
def waited : tool.Event := ⟨.wait s.settings.pollInterval, ()⟩

/-- A deployment was looked at until a look was decisive, or none was left; looks are counted from zero,
and `again` more were allowed than one. Behind every look that is not decisive there is a pause. -/
structure Polled (outcomes : Nat → Outcome) (again last : Nat) (l : List tool.Event)
    (r : Except Cause String) : Prop where
  within : last ≤ again
  undecided : ∀ n < last, ¬ Decisive (outcomes n)
  ended : Decisive (outcomes last) ∨ last = again
  history : ∃ pause,
    l = ((List.range last).flatMap fun n => [shown s name (outcomes n), waited s]) ++
      shown s name (outcomes last) :: pause ∧
    (Decisive (outcomes last) → pause = []) ∧ (¬ Decisive (outcomes last) → pause = [waited s])
  result : r = concluded s name (outcomes last)

variable {s name} {outcomes : Nat → Outcome} {again last : Nat} {l : List tool.Event}
  {r : Except Cause String}

theorem polled_decisive (h : Decisive (outcomes 0)) :
    Polled s name outcomes again 0 [shown s name (outcomes 0)]
      (concluded s name (outcomes 0)) where
  within := Nat.zero_le again
  undecided := nofun
  ended := .inl h
  history := ⟨[], rfl, fun _ => rfl, fun hnot => absurd h hnot⟩
  result := rfl

theorem polled_last (h : ¬ Decisive (outcomes 0)) :
    Polled s name outcomes 0 0 [shown s name (outcomes 0), waited s]
      (concluded s name (outcomes 0)) where
  within := Nat.le_refl 0
  undecided := nofun
  ended := .inr rfl
  history := ⟨[waited s], rfl, fun hdecisive => absurd hdecisive h, fun _ => rfl⟩
  result := rfl

/-- A look that is not decisive is followed by the others. -/
theorem Polled.after_first (h : Polled s name (fun n => outcomes (n + 1)) again last l r)
    (hfirst : ¬ Decisive (outcomes 0)) :
    Polled s name outcomes (again + 1) (last + 1)
      (shown s name (outcomes 0) :: waited s :: l) r where
  within := Nat.succ_le_succ h.within
  undecided n hn := by
    cases n with
    | zero => exact hfirst
    | succ n => exact h.undecided n (Nat.lt_of_succ_lt_succ hn)
  ended := h.ended.imp id (congrArg (· + 1))
  history := by
    obtain ⟨pause, hl, hpause⟩ := h.history
    refine ⟨pause, ?_, hpause⟩
    rw [hl, List.range_succ_eq_map, List.flatMap_cons, List.flatMap_map]
    rfl
  result := h.result

theorem history_look (outcomes : Nat → Outcome) :
    (s.look name ()).history playing outcomes = [shown s name (outcomes 0)] := rfl

theorem exec_look (outcomes : Nat → Outcome) :
    (s.look name ()).exec playing outcomes =
      (((), lookedAt s (outcomes 0)), fun n => outcomes (n + 1)) := rfl

/-- What a look comes to goes on with a pause and the looks that are left, if the deployment is under
way, and is the end otherwise. -/
theorem exists_await (s : Session) (name : String) (again : Nat) :
    ∃ onward : Except Cause Status → ToolWork (Except Cause String),
      s.await name (again + 1) = s.look name >>= onward ∧
      (∀ state, onward (.ok (.running state)) =
        askTool (.wait s.settings.pollInterval) >>= fun _ => s.await name again) ∧
      ∀ o, Decisive o → onward (lookedAt s o) = pure (concluded s name o) := by
  refine ⟨_, rfl, fun _ => rfl, fun o ho => ?_⟩
  unfold concluded
  cases hlook : lookedAt s o with
  | error e => rfl
  | ok status =>
    cases status with
    | running state => exact absurd (lookedAt_eq_ok_iff.mp hlook) (decisive_iff.mp ho state)
    | succeeded subscription => rfl
    | failed cause => rfl

/-- A look that is not decisive tells that the deployment is under way. -/
theorem exists_running {o : Outcome} (h : ¬ Decisive o) :
    ∃ state, lookedAt s o = .ok (.running state) := by
  rw [decisive_iff, Classical.not_forall] at h
  obtain ⟨state, h⟩ := h
  exact ⟨state, lookedAt_eq_ok_iff.mpr (Classical.not_not.mp h)⟩

/-- **Whatever the tool answers, a deployment is looked at until a look is decisive, or none is left.** -/
theorem polled_await (again : Nat) (outcomes : Nat → Outcome) : ∃ last,
    Polled s name outcomes again last
      ((s.await name (again + 1) ()).history playing outcomes)
      ((s.await name (again + 1) ()).exec playing outcomes).1.2 := by
  -- what follows the first look and its pause are the looks of the tool as it is then
  induction again generalizing outcomes with
  | zero =>
    obtain ⟨onward, hawait, hrunning, hdecisive⟩ := exists_await s name 0
    rw [hawait, Program.history_bind, Program.exec_bind, history_look, exec_look]
    by_cases hfirst : Decisive (outcomes 0)
    · rw [hdecisive _ hfirst]
      exact ⟨0, polled_decisive hfirst⟩
    · obtain ⟨state, hlook⟩ := exists_running (s := s) hfirst
      have hlast : Polled s name outcomes 0 0 [shown s name (outcomes 0), waited s]
          (concluded s name (outcomes 0)) := polled_last hfirst
      unfold concluded at hlast
      rw [hlook] at hlast
      rw [hlook, hrunning]
      exact ⟨0, hlast⟩
  | succ again ih =>
    obtain ⟨onward, hawait, hrunning, hdecisive⟩ := exists_await s name (again + 1)
    rw [hawait, Program.history_bind, Program.exec_bind, history_look, exec_look]
    by_cases hfirst : Decisive (outcomes 0)
    · rw [hdecisive _ hfirst]
      exact ⟨0, polled_decisive hfirst⟩
    · obtain ⟨state, hlook⟩ := exists_running (s := s) hfirst
      obtain ⟨last, hlater⟩ := ih fun n => outcomes (n + 1)
      rw [hlook, hrunning]
      exact ⟨last + 1, hlater.after_first hfirst⟩

end Polled

/-! ## Deployments -/

/-- The commands that were run. -/
def commands (l : List tool.Event) : List (List String) :=
  l.filterMap fun
    | ⟨.run _ arguments, _⟩ => some arguments
    | _ => none

theorem commands_append (l l' : List tool.Event) :
    commands (l ++ l') = commands l ++ commands l' := List.filterMap_append

/-- Each look runs one command, and a pause none. -/
theorem Polled.commands {s : Session} {name : String} {outcomes : Nat → Outcome} {again last : Nat}
    {l : List tool.Event} {r : Except Cause String} (h : Polled s name outcomes again last l r) :
    commands l = List.replicate (last + 1) ["deployment", "sub", "show", "--name=" ++ name] := by
  obtain ⟨pause, rfl, hnone, hsome⟩ := h.history
  have hlooks : Azure.commands ((List.range last).flatMap fun n =>
      [shown s name (outcomes n), waited s]) =
        List.replicate last ["deployment", "sub", "show", "--name=" ++ name] := by
    clear h hnone hsome
    induction last with
    | zero => rfl
    | succ last ih =>
      rw [List.range_succ, List.flatMap_append, commands_append, ih, List.replicate_succ']
      rfl
  have hend : Azure.commands (shown s name (outcomes last) :: pause) =
      [["deployment", "sub", "show", "--name=" ++ name]] := by
    by_cases hdecisive : Decisive (outcomes last)
    · rw [hnone hdecisive]
      rfl
    · rw [hsome hdecisive]
      rfl
  rw [commands_append, hlooks, hend, List.replicate_succ']

/-- **A deployment is submitted once, and then looked at until the first decisive look or as often as
the settings allow**, but once at least; nothing is run behind that look, and what came of the submission
does not matter. There is a subscription exactly if the last look told that the deployment succeeded with
it. -/
theorem deploy_polled (s : Session) (name template : String) (outcomes : Nat → Outcome) :
    ∃ k r, ((s.deploy name template ()).exec playing outcomes).1.2 = r ∧
      1 ≤ k ∧ k ≤ max s.settings.polls 1 ∧ (∀ n, 1 ≤ n → n < k → ¬ Decisive (outcomes n)) ∧
      (Decisive (outcomes k) ∨ k = max s.settings.polls 1) ∧
      commands ((s.deploy name template ()).history playing outcomes) =
        [ "deployment", "sub", "create", "--no-wait", "--location=" ++ s.settings.location
        , "--name=" ++ name, "--template-file=" ++ template ] ::
          List.replicate k ["deployment", "sub", "show", "--name=" ++ name] ∧
      (∀ subscription, r = .ok subscription ↔ Tells (outcomes k) (.succeeded subscription)) ∧
      (∀ cause, Tells (outcomes k) (.failed cause) →
        r = .error (Cause.of ("error during deployment: " ++ cause))) ∧
      ∀ state, Tells (outcomes k) (.running state) →
        r = .error (Cause.of ("deployment \"" ++ name ++ "\" did not finish after "
          ++ toString (max s.settings.polls 1) ++ " status checks")) := by
  have hlooks : s.looks = max s.settings.polls 1 - 1 + 1 := by
    unfold Session.looks
    omega
  obtain ⟨last, hpolled⟩ := @polled_await s name (max s.settings.polls 1 - 1)
    fun n => outcomes (n + 1)
  have hdeploy : s.deploy name template = s.submit name template >>= fun _ =>
      s.await name (max s.settings.polls 1 - 1 + 1) := by
    unfold Session.deploy
    rw [hlooks]
  have hcommands := hpolled.commands
  obtain ⟨hwithin, hundecided, hended, -, hresult⟩ := hpolled
  refine ⟨last + 1, concluded s name (outcomes (last + 1)), ?_, Nat.succ_pos last, by omega, ?_, ?_,
    ?_, fun _ => concluded_eq_ok_iff, ?_, ?_⟩
  · rw [hdeploy, Program.exec_bind]
    exact hresult
  · intro n hn hlast
    obtain ⟨n, rfl⟩ := Nat.exists_eq_add_of_le' hn
    exact hundecided n (by omega)
  · exact hended.imp id fun h => by omega
  · rw [hdeploy, Program.history_bind, commands_append]
    exact congrArg (_ :: ·) hcommands
  · intro cause htells
    unfold concluded
    rw [lookedAt_eq_ok_iff.mpr htells]
  · intro state htells
    unfold concluded
    rw [lookedAt_eq_ok_iff.mpr htells]
    rfl

end CloudGrant.Azure
