import CloudGrant.Azure.Provision
import CloudGrant.Proofs.Cloud.Blame

/-!
# The course of a deployment

What holds of an Azure deployment and of its deletion wherever they stop: what is asked, what of the
application is left alone, and which failure is returned. A deployment is noted before it starts, so
that it is recorded whenever anything was asked for it (`noted_of_stops`).
-/

namespace CloudGrant.Azure

open Interface

variable {a t : Application} {l : List surroundings.Event}

/-- All of an application but whether a session is open. -/
def apart (a : Application) : Application := { a with inSession := false }

/-! ## Letting go of a session -/

/-- An abandoned run lets go of its session, and of nothing else. -/
theorem stops_release {x : Stop surroundings Unit} (h : (release a).Stops l t x) :
    (∀ e ∈ l, e.1 = .azure .closeSession) ∧ (∀ q, x = .question q → q = .azure .closeSession) ∧
      ∀ b, x = .value b → t = { a with inSession := false } := by
  unfold release at h
  rw [Program.stops_get_bind_iff] at h
  cases hs : a.inSession with
  | false =>
    simp only [hs, Bool.false_eq_true, if_false] at h
    obtain ⟨rfl, rfl, rfl⟩ := Program.stops_pure_iff.mp h
    refine ⟨by simp, by simp, fun _ _ => ?_⟩
    cases t
    cases hs
    rfl
  | true =>
    simp only [hs, if_true] at h
    rcases Run.stops_ask_iff.mp h with ⟨rfl, rfl, rfl⟩ | ⟨r, l', rfl, h'⟩
    · refine ⟨by simp, ?_, by simp⟩
      rintro q hq
      cases hq
      rfl
    · obtain ⟨rfl, rfl, rfl⟩ := Run.stops_done_iff.mp h'
      exact ⟨fun e he => by cases List.mem_singleton.mp he; rfl, by simp, fun _ _ => rfl⟩

/-- Without a session there is nothing to let go of. -/
theorem stops_release_of_closed {x : Stop surroundings Unit} (hs : a.inSession = false)
    (h : (release a).Stops l t x) : l = [] := by
  unfold release at h
  rw [Program.stops_get_bind_iff] at h
  simp only [hs, Bool.false_eq_true, if_false] at h
  exact (Program.stops_pure_iff.mp h).1

/-! ## Sessions -/

variable {α : Type} {P : Question → Prop} {login : Login} {work : Work (Except Cause α)}

theorem asks_release (h : P (.azure .closeSession)) : release.Asks P := by
  intro s l t x hs
  obtain ⟨hl, hx, -⟩ := stops_release hs
  refine ⟨fun e he => ?_, fun q hq => ?_⟩
  · rw [hl e he]
    exact h
  · rw [hx q hq]
    exact h

theorem keeps_release : release.Keeps apart := by
  refine Program.keeps_bind Program.keeps_get fun a => ?_
  split
  · exact Program.keeps_bind (Program.keeps_ask _) fun _ => Program.keeps_modify fun _ => rfl
  · exact Program.keeps_pure _

/-- What is asked between login and logout is what the work asks. -/
theorem asks_loggedIn (hin : P (.azure (.login login))) (hout : P (.azure .logout))
    (hw : work.Asks P) : (loggedIn login work).Asks P := by
  refine Program.asks_bind (Program.asks_ask hin) fun r => ?_
  cases r with
  | error e => exact Program.asks_pure _
  | ok _ =>
    refine Program.asks_bind hw fun result => ?_
    refine Program.asks_bind (Program.asks_ask hout) fun out => ?_
    cases result <;> cases out <;> exact Program.asks_pure _

theorem keeps_loggedIn (hw : work.Keeps apart) : (loggedIn login work).Keeps apart := by
  refine Program.keeps_bind (Program.keeps_ask _) fun r => ?_
  cases r with
  | error e => exact Program.keeps_pure _
  | ok _ =>
    refine Program.keeps_bind hw fun result => ?_
    refine Program.keeps_bind (Program.keeps_ask _) fun out => ?_
    cases result <;> cases out <;> exact Program.keeps_pure _

/-- Commands of a session other than the deletion of a deployment. -/
theorem asks_inSession (hopen : P (.azure .openSession)) (hclose : P (.azure .closeSession))
    (hin : P (.azure (.login login))) (hout : P (.azure .logout)) (hw : work.Asks P) :
    (inSession login work).Asks P := by
  refine Program.asks_bind (Program.asks_ask hopen) fun r => ?_
  cases r with
  | error e => exact Program.asks_pure _
  | ok _ =>
    refine Program.asks_bind (Program.asks_modify _) fun _ => ?_
    refine Program.asks_bind (asks_loggedIn hin hout hw) fun _ => ?_
    exact Program.asks_bind (asks_release hclose) fun _ => Program.asks_pure _

theorem keeps_inSession (hw : work.Keeps apart) : (inSession login work).Keeps apart := by
  refine Program.keeps_bind (Program.keeps_ask _) fun r => ?_
  cases r with
  | error e => exact Program.keeps_pure _
  | ok _ =>
    refine Program.keeps_bind (Program.keeps_modify fun _ => rfl) fun _ => ?_
    refine Program.keeps_bind (keeps_loggedIn hw) fun _ => ?_
    exact Program.keeps_bind keeps_release fun _ => Program.keeps_pure _

/-- What is left to do after the login. -/
def thenLogout (work : Work (Except Cause α)) : Work (Except Cause α) := do
  let result ← work
  let out ← call .logout
  match result, out with
  | .error e, _ => pure (.error e)
  | .ok _, .error e => pure (.error e)
  | .ok a, .ok _ => pure (.ok a)

theorem loggedIn_eq :
    loggedIn login work = Program.andThen (call (.login login)) fun _ => thenLogout work := by
  refine congrArg (call (.login login) >>= ·) (funext fun r => ?_)
  cases r <;> rfl

/-- What is left to do once a session is open. -/
def thenClose (login : Login) (work : Work (Except Cause α)) : Work (Except Cause α) := do
  Program.modify fun a => { a with inSession := true }
  let result ← loggedIn login work
  release
  pure result

theorem inSession_eq :
    inSession login work = Program.andThen (call .openSession) fun _ => thenClose login work := by
  refine congrArg (call .openSession >>= ·) (funext fun r => ?_)
  cases r <;> rfl

/-- What succeeds between login and logout has done its work. -/
theorem worked_of_loggedIn {b : α} (h : (loggedIn login work a).Stops l t (.value (.ok b))) :
    ∃ l' u v, l' <:+: l ∧ (work u).Stops l' v (.value (.ok b)) := by
  rw [loggedIn_eq] at h
  obtain ⟨l₁, k, u, _, rfl, -, h'⟩ := Program.stops_andThen_ok_iff.mp h
  obtain ⟨l₂, k', v, result, rfl, hwork, hout⟩ := Program.stops_bind_value_iff.mp h'
  obtain ⟨k₁, k₂, _, out, rfl, -, hlast⟩ := Program.stops_bind_value_iff.mp hout
  refine ⟨l₂, u, v, ⟨l₁, k₁ ++ k₂, List.append_assoc ..⟩, ?_⟩
  -- neither the work nor the logout has failed
  cases result with
  | error e => cases out <;> cases (Program.stops_pure_value_iff.mp hlast).2.2
  | ok c =>
    cases out with
    | error e => cases (Program.stops_pure_value_iff.mp hlast).2.2
    | ok _ =>
      cases (Program.stops_pure_value_iff.mp hlast).2.2
      exact hwork

/-- A session that succeeds has done its work. -/
theorem worked_of_inSession {b : α} (h : (inSession login work a).Stops l t (.value (.ok b))) :
    ∃ l' u v, l' <:+: l ∧ (work u).Stops l' v (.value (.ok b)) := by
  rw [inSession_eq] at h
  obtain ⟨k₁, k, _, _, rfl, -, h'⟩ := Program.stops_andThen_ok_iff.mp h
  obtain ⟨k₂, k', _, _, rfl, -, hsession⟩ := Program.stops_bind_value_iff.mp h'
  obtain ⟨k₃, k₄, _, result, rfl, hresult, hclose⟩ := Program.stops_bind_value_iff.mp hsession
  obtain ⟨_, _, _, _, rfl, -, hlast⟩ := Program.stops_bind_value_iff.mp hclose
  cases (Program.stops_pure_value_iff.mp hlast).2.2
  obtain ⟨l', u, v, hin, hwork⟩ := worked_of_loggedIn hresult
  refine ⟨l', u, v, hin.trans ?_, hwork⟩
  rw [← List.append_assoc]
  exact ⟨k₁ ++ k₂, _, List.append_assoc ..⟩

/-- The first failure of a session is returned, and not that of the logout after it. -/
theorem accountable_loggedIn
    (hw : Accountable Error.deployment (fun _ => False) work) :
    Accountable Error.deployment (fun _ => False) (loggedIn login work) := by
  rw [loggedIn_eq]
  refine accountable_andThen (accountable_azure (by simp)) fun _ => ?_
  intro s l t r h
  obtain ⟨l₁, l', u, result, rfl, h₁, h'⟩ := Program.stops_bind_value_iff.mp h
  obtain ⟨l₂, l₃, v, out, rfl, h₂, h₃⟩ := Program.stops_bind_value_iff.mp h'
  have hwork := hw h₁
  -- the logout counts only if the work has succeeded
  have hlogout : Accounts Error.deployment (fun _ => False) (l₂.map Event.entry) out :=
    accountable_azure (c := .logout) (by simp) h₂
  rw [List.map_append, List.map_append]
  cases result with
  | error e =>
    have hr : r = .error e := by
      cases out <;> exact (Stop.value.inj (Program.stops_pure_iff.mp h₃).2.2)
    subst hr
    exact Blames.append_right hwork
  | ok b =>
    have hr : l₃ = [] ∧ r = out.map fun _ => b := by
      cases out <;> obtain ⟨rfl, _, hx⟩ := Program.stops_pure_iff.mp h₃ <;>
        exact ⟨rfl, Stop.value.inj hx⟩
    obtain ⟨rfl, rfl⟩ := hr
    refine Accounts.append_left hwork ?_
    rw [List.map_nil, List.append_nil]
    cases out <;> exact hlogout

theorem accountable_inSession
    (hw : Accountable Error.deployment (fun _ => False) work) :
    Accountable Error.deployment (fun _ => False) (inSession login work) := by
  rw [inSession_eq]
  refine accountable_andThen (accountable_azure (by simp)) fun _ => ?_
  refine accountable_bind (Program.asks_modify _) fun _ => ?_
  intro s l t r h
  obtain ⟨l₁, l', u, result, rfl, h₁, h'⟩ := Program.stops_bind_value_iff.mp h
  obtain ⟨l₂, l₃, v, _, rfl, h₂, h₃⟩ := Program.stops_bind_value_iff.mp h'
  obtain ⟨rfl, -, rfl⟩ := Program.stops_pure_value_iff.mp h₃
  have hwork := accountable_loggedIn hw h₁
  -- closing the session has no outcome
  have hclose : Clean (l₂.map Event.entry) := by
    intro e he
    obtain ⟨⟨q, reply⟩, hq, rfl⟩ := List.mem_map.mp he
    cases (stops_release h₂).1 _ hq
    cases reply <;> exact clean_singleton rfl _ List.mem_cons_self
  rw [List.append_nil, List.map_append]
  cases r with
  | error e => exact Blames.append_right hwork
  | ok b => exact clean_append.mpr ⟨hwork, hclose⟩

/-! ## Deploying -/

variable {template : Option String} {x : Stop surroundings (Except Error Unit)}

theorem asks_note {key value : String} : (note key value).Asks P := Program.asks_modify _

/-- What is left to do once a deployment is noted. -/
def thenDeploy (login : Login) (template name : String) : Work (Except Error Unit) := do
  match ← inSession login (call (.deploy name template)) with
  | .error cause => pure (.error (.deployment cause))
  | .ok subscription => do
    note "subscriptionID" subscription
    Program.modify fun a => a.finish subscription
    pure (.ok ())

/-- The application with the name of its deployment. -/
def noted (a : Application) : Application :=
  { a with record := a.record.setOutput stepName "name" (Naming.deployment a.guid) }

theorem stops_provision {template : String}
    (h : (provision login (some template) a).Stops l t x) :
    (thenDeploy login template (Naming.deployment a.guid) (noted a)).Stops l t x := h

theorem asks_thenDeploy {template name : String} (hopen : P (.azure .openSession))
    (hclose : P (.azure .closeSession)) (hin : P (.azure (.login login)))
    (hout : P (.azure .logout)) (hdeploy : P (.azure (.deploy name template))) :
    (thenDeploy login template name).Asks P := by
  refine Program.asks_bind (asks_inSession hopen hclose hin hout (Program.asks_ask hdeploy))
    fun r => ?_
  cases r with
  | error cause => exact Program.asks_pure _
  | ok subscription =>
    refine Program.asks_bind asks_note fun _ => ?_
    exact Program.asks_bind (Program.asks_modify _) fun _ => Program.asks_pure _

/-- What is asked for a deployment: the commands of a session, and to deploy the template. -/
theorem asks_provision_of (hopen : P (.azure .openSession)) (hclose : P (.azure .closeSession))
    (hin : P (.azure (.login login))) (hout : P (.azure .logout))
    (hdeploy : ∀ name t, template = some t → P (.azure (.deploy name t))) :
    (provision login template).Asks P := by
  cases template with
  | none => exact Program.asks_pure _
  | some template =>
    refine Program.asks_bind Program.asks_get fun a => ?_
    refine Program.asks_bind asks_note fun _ => ?_
    exact asks_thenDeploy hopen hclose hin hout (hdeploy _ template rfl)

/-- To deploy, nothing is ever deleted. -/
theorem asks_provision : (provision login template).Asks Question.IsForging :=
  asks_provision_of ⟨rfl, rfl⟩ ⟨rfl, rfl⟩ ⟨rfl, rfl⟩ ⟨rfl, rfl⟩ fun _ _ _ => ⟨rfl, rfl⟩

/-- The failure of a deployment is that of its session. -/
theorem accountable_provision :
    Accountable id
      (fun e => template = none ∧ e = .configuration
        "Azure deployment template is not prepared, resource creation impossible")
      (provision login template) := by
  cases template with
  | none => exact accountable_error ⟨rfl, rfl⟩
  | some template =>
    refine accountable_bind Program.asks_get fun a => ?_
    refine accountable_bind asks_note fun _ => ?_
    intro s l t r h
    obtain ⟨l₁, l₂, u, result, rfl, h₁, h₂⟩ := Program.stops_bind_value_iff.mp h
    have hsession : Accounts Error.deployment (fun _ => False) (l₁.map Event.entry) result :=
      accountable_inSession (accountable_azure (c := .deploy _ template) (by simp)) h₁
    cases result with
    | error cause =>
      obtain ⟨rfl, rfl, rfl⟩ := Program.stops_pure_value_iff.mp h₂
      rw [List.map_append]
      exact Blames.append_right hsession
    | ok subscription =>
      obtain ⟨rfl, rfl, hx⟩ := Run.stops_done_iff.mp h₂
      cases hx
      rw [List.append_nil]
      exact hsession

/-- What an application is, apart from what it has reached. -/
def identity (a : Application) : String × Request.Create × Option Provider :=
  (a.guid, a.request, a.provider)

theorem keeps_provision : (provision login template).Keeps identity := by
  have hsession : ∀ name template,
      (inSession login (call (.deploy name template))).Keeps identity := by
    intro name template s l t x h
    have hk : apart t = apart s := keeps_inSession (Program.keeps_ask _) h
    exact (congrArg identity hk : identity (apart t) = identity (apart s))
  cases template with
  | none => exact Program.keeps_pure _
  | some template =>
    refine Program.keeps_bind Program.keeps_get fun a => ?_
    refine Program.keeps_bind (Program.keeps_modify fun _ => rfl) fun _ => ?_
    refine Program.keeps_bind (hsession _ _) fun r => ?_
    cases r with
    | error cause => exact Program.keeps_pure _
    | ok subscription =>
      refine Program.keeps_bind (Program.keeps_modify fun _ => rfl) fun _ => ?_
      exact Program.keeps_bind (Program.keeps_modify fun _ => rfl) fun _ => Program.keeps_pure _

theorem output?_setOutput_of_ne {record : Record} {step key other value : String}
    (h : other ≠ key) :
    (record.setOutput step key value).output? step other = record.output? step other := by
  unfold Record.setOutput Record.output?
  rw [Record.outputs?_complete_self]
  cases record.outputs? step with
  | none => exact Dict.find?_insert_of_ne _ _ h
  | some o => exact Dict.find?_insert_of_ne o _ h

/-- What neither a session nor its result touches is left alone. -/
theorem keeps_thenDeploy_of {β : Type} {part : Application → β} {template name : String}
    (hsession : ∀ a, part (apart a) = part a)
    (hnote : ∀ a v, part { a with record := a.record.setOutput stepName "subscriptionID" v } = part a)
    (hfinish : ∀ a v, part (a.finish v) = part a) : (thenDeploy login template name).Keeps part := by
  refine Program.keeps_bind (fun s l t x h => ?_) fun r => ?_
  · have hk : apart t = apart s := keeps_inSession (Program.keeps_ask _) h
    rw [← hsession t, hk, hsession s]
  · cases r with
    | error cause => exact Program.keeps_pure _
    | ok subscription =>
      refine Program.keeps_bind (Program.keeps_modify fun s => hnote s _) fun _ => ?_
      exact Program.keeps_bind (Program.keeps_modify fun s => hfinish s _) fun _ =>
        Program.keeps_pure _

theorem keeps_thenDeploy {template name : String} :
    (thenDeploy login template name).Keeps fun a => a.record.output? stepName "name" :=
  keeps_thenDeploy_of (fun _ => rfl) (fun _ _ => output?_setOutput_of_ne (by decide)) fun _ _ => rfl

/-- The other steps are not touched. -/
theorem keeps_outputs {template name : String} :
    (thenDeploy login template name).Keeps fun a (kind : Step.Kind) =>
      a.record.output? kind.name "output" := by
  refine keeps_thenDeploy_of (fun _ => rfl) (fun a v => funext fun kind => ?_) fun _ _ => rfl
  have hne : kind.name ≠ stepName := by cases kind <;> decide
  unfold Record.output? Record.setOutput
  rw [Record.outputs?_complete_of_ne _ _ hne]

/-- **A deployment is either not asked for at all, or noted.** -/
theorem noted_of_stops (h : (provision login template a).Stops l t x) :
    t = a ∨ ∃ name, t.record.output? stepName "name" = some name := by
  cases template with
  | none => exact .inl (Program.stops_pure_iff.mp h).2.1
  | some template =>
    exact .inr ⟨_, (keeps_thenDeploy (stops_provision h)).trans
      (Record.output?_setOutput_self ..)⟩

/-- A deployment that succeeded finishes the product. -/
theorem finished_of_ok (h : (provision login template a).Stops l t (.value (.ok ()))) :
    ∃ username, t.product = some (t.productFor username) := by
  cases template with
  | none =>
    obtain ⟨_, _, hx⟩ := Program.stops_pure_value_iff.mp h
    cases hx
  | some template =>
    obtain ⟨l₁, l₂, u, r, rfl, -, h₂⟩ := Program.stops_bind_value_iff.mp (stops_provision h)
    cases r with
    | error cause =>
      obtain ⟨_, _, hx⟩ := Program.stops_pure_value_iff.mp h₂
      cases hx
    | ok subscription =>
      obtain ⟨_, rfl, _⟩ := Run.stops_done_iff.mp h₂
      exact ⟨subscription, rfl⟩

/-! ## Deleting -/

/-- What is asked for a deletion: the commands of a session, and to delete what is noted. -/
theorem asks_takeDown_of (hopen : P (.azure .openSession)) (hclose : P (.azure .closeSession))
    (hin : P (.azure (.login login))) (hout : P (.azure .logout))
    (hdelete : ∀ name, P (.azure (.delete name))) : (takeDown login).Asks P := by
  refine Program.asks_bind Program.asks_get fun a => ?_
  cases a.record.output? stepName "name" with
  | none => exact Program.asks_pure _
  | some name =>
    refine Program.asks_bind (asks_inSession hopen hclose hin hout
      (Program.asks_ask (hdelete name))) fun r => ?_
    cases r <;> exact Program.asks_pure _

theorem asks_takeDown : (takeDown login).Asks (fun q => Question.isCloud q = true) :=
  asks_takeDown_of rfl rfl rfl rfl fun _ => rfl

theorem keeps_takeDown : (takeDown login).Keeps apart := by
  refine Program.keeps_bind Program.keeps_get fun a => ?_
  cases a.record.output? stepName "name" with
  | none => exact Program.keeps_pure _
  | some name =>
    refine Program.keeps_bind (keeps_inSession (Program.keeps_ask _)) fun r => ?_
    cases r <;> exact Program.keeps_pure _

/-- A deployment that is noted was deleted if nothing failed. -/
theorem deleted_of_takeDown {name : String} (hn : a.record.output? stepName "name" = some name)
    (h : (takeDown login a).Stops l t (.value [])) :
    (⟨.azure (.delete name), .ok ()⟩ : surroundings.Event) ∈ l := by
  unfold takeDown at h
  rw [Program.stops_get_bind_iff] at h
  simp only [hn] at h
  obtain ⟨l₁, l₂, u, r, rfl, h₁, h₂⟩ := Program.stops_bind_value_iff.mp h
  cases r with
  | error cause =>
    obtain ⟨-, -, hx⟩ := Program.stops_pure_value_iff.mp h₂
    cases hx
  | ok _ =>
    obtain ⟨l', v, v', hin, hwork⟩ := worked_of_inSession h₁
    obtain ⟨-, rfl⟩ := Program.stops_ask_value_iff.mp hwork
    exact List.mem_append_left _ (hin.subset List.mem_cons_self)

/-- A deployment that is noted is asked for when it is taken down. -/
theorem takeDown_ne_nil {name : String} {errors : List Error}
    (hn : a.record.output? stepName "name" = some name)
    (h : (takeDown login a).Stops l t (.value errors)) : l ≠ [] := by
  unfold takeDown at h
  rw [Program.stops_get_bind_iff] at h
  simp only [hn] at h
  rcases Run.stops_ask_iff.mp h with ⟨-, -, hx⟩ | ⟨r, l', rfl, -⟩
  · cases hx
  · exact List.cons_ne_nil _ _

end CloudGrant.Azure
