import CloudGrant.Proofs.Azure.Course
import CloudGrant.Proofs.Run.Coupled
import CloudGrant.Proofs.Service.Course
import CloudGrant.Simulation.World

/-!
# What the secret of a credential influences

Two credentials that differ in their secrets alone are twins, and so are the clients that are bound
to them and the applications that hold these. Questions are twins if they are the same but for the
secret of a login. The inventory may answer with credentials that are twins, and everything else that
is asked must be answered the same (`Question.secrets`).

Then a request goes the same way with either credential (`couples_createRun`,
`couples_destroyRun`): no program looks at the secret but to log in with it, so a program that is not
given a login is coupled with itself (`Discreet`), and one that is given a login with the same program
for its twin. A world in memory is an example of surroundings that answer like this
(`World.answer_alike`).
-/

namespace CloudGrant

/-! ## Twins -/

/-- Two credentials that are the same but for their secrets, and of which either both can be used to
log in or none. -/
def Credential.Twin (c c' : Credential) : Prop :=
  ∃ secret, (secret = "" ↔ c.secret = "") ∧ c' = { c with secret := secret }

/-- Two logins that are the same but for their passwords. -/
def Azure.Login.Twin (l l' : Login) : Prop := ∃ password, l' = { l with password := password }

/-- Two clients that are the same but for the secrets that they are bound to. -/
inductive Provider.Twin : Provider → Provider → Prop where
  | amazon (keyId secret secret' : String) : Twin (.amazon keyId secret) (.amazon keyId secret')
  | azure {l l' : Azure.Login} (h : l.Twin l') (template : Option String) :
      Twin (.azure l template) (.azure l' template)

/-- Two applications that are the same but for the secrets that their clients are bound to. -/
def Application.Twin (a a' : Application) : Prop :=
  ∃ p, Option.Rel Provider.Twin a.provider p ∧ a' = { a with provider := p }

namespace Question

/-- Two questions that are the same but for the secret of a login. -/
inductive Twin : Question → Question → Prop where
  | same (q : Question) : Twin q q
  | build (cloud : Cloud) {c c' : Credential} (h : c.Twin c') :
      Twin (.build cloud c) (.build cloud c')
  | login {l l' : Azure.Login} (h : l.Twin l') : Twin (.azure (.login l)) (.azure (.login l'))

/-- The same answer, or credentials that are twins. -/
inductive TwinReply : (q q' : Question) → q.Reply → q'.Reply → Prop where
  | same (q : Question) (r : q.Reply) : TwinReply q q r r
  | credential (caller : Caller) (id : String) {c c' : Credential} (h : c.Twin c') :
      TwinReply (.inventory caller (.credential id)) (.inventory caller (.credential id))
        (.ok c) (.ok c')
  | build (cloud : Cloud) (c c' : Credential) : TwinReply (.build cloud c) (.build cloud c') () ()
  | login (l l' : Azure.Login) (r : Except Cause Unit) :
      TwinReply (.azure (.login l)) (.azure (.login l')) r r

/-- Questions match if they are the same but for the secret of a login; answers if they are the same
but for the secret of a credential. -/
def secrets : Coupling surroundings := ⟨Twin, TwinReply⟩

end Question

theorem Credential.twin_rfl (c : Credential) : c.Twin c := ⟨c.secret, Iff.rfl, rfl⟩

theorem Credential.Twin.isComplete_eq {c c' : Credential} (h : c.Twin c') :
    c'.isComplete = c.isComplete := by
  obtain ⟨secret, hempty, rfl⟩ := h
  simp only [isComplete, ne_eq, hempty]

theorem Provider.twin_rfl (p : Provider) : p.Twin p := by
  cases p with
  | amazon keyId secret => exact .amazon keyId secret secret
  | azure login template => exact .azure ⟨login.password, rfl⟩ template

theorem Application.twin_rfl (a : Application) : a.Twin a := by
  refine ⟨a.provider, ?_, rfl⟩
  cases a.provider with
  | none => exact .none
  | some p => exact .some p.twin_rfl

namespace Question

/-- All but the question for a credential. -/
def IsPlain : Question → Prop
  | inventory _ (.credential _) => False
  | _ => True

/-- Only a fetched credential can differ between answers to the same question. -/
theorem TwinReply.eq {q : Question} {r r' : q.Reply} (h : TwinReply q q r r') (hq : q.IsPlain) :
    r = r' := by
  cases h with
  | same => rfl
  | credential => cases hq
  | build => rfl
  | login => rfl

theorem couples_asking {q q' : Question} (h : q.Twin q') :
    (asking q).Couples secrets Application.Twin (TwinReply q q') (asking q') :=
  Program.couples_ask (C := secrets) h

end Question

/-! ## Programs that are given no login -/

/-- A program goes the same way for applications that are twins. -/
abbrev Discreet {α : Type} (p : Work α) : Prop := p.Steady Question.secrets Application.Twin

theorem discreet_asking {q : Question} (hq : q.IsPlain) : Discreet (asking q) :=
  (Question.couples_asking (.same q)).mono fun _ _ h => h.eq hq

/-- A change of an application is discreet if it leaves the client alone and does not look at it. -/
theorem discreet_modify {f : Application → Application}
    (h : ∀ a p, f { a with provider := p } = { f a with provider := p }) :
    Discreet (Program.modify f) := by
  refine Program.couples_modify fun a a' ht => ?_
  obtain ⟨p, hp, rfl⟩ := ht
  have hkept : (f a).provider = a.provider := (congrArg Application.provider (h a a.provider) :)
  exact ⟨p, hkept ▸ hp, h a p⟩

/-- A look at the application is discreet if the client makes no difference to what comes next. -/
theorem discreet_get_bind {α : Type} {f : Application → Work α} (hf : ∀ a, Discreet (f a))
    (h : ∀ a p, f { a with provider := p } = f a) : Discreet (Program.get >>= f) := by
  refine Program.couples_get_bind fun a a' ht => ?_
  obtain ⟨p, -, rfl⟩ := ht
  exact (h a p).symm ▸ hf a

/-! ## Amazon -/

namespace Amazon

theorem discreet_attempt {kind : Step.Kind} {context : String} {c : Call} :
    Discreet (attempt kind context c) :=
  Program.steady_bind (discreet_asking trivial) fun _ => Program.steady_pure _

theorem discreet_complete {kind : Step.Kind} {outputs : List (String × String)} :
    Discreet (complete kind outputs) :=
  Program.steady_bind (discreet_modify fun _ _ => rfl) fun _ => Program.steady_pure _

/-- Steps are named and filled from the request and the record. -/
theorem discreet_runStep (step : Step) : Discreet (runStep step) := by
  unfold runStep
  cases Step.Kind.ofName? step.name with
  | none => exact Program.steady_pure _
  | some kind =>
    cases kind with
    | bucket =>
      refine discreet_get_bind (fun a => ?_) fun _ _ => rfl
      refine Program.steady_andThen discreet_attempt fun _ => ?_
      refine Program.steady_andThen discreet_complete fun _ => ?_
      split
      · exact discreet_get_bind (fun _ => discreet_attempt) fun _ _ => rfl
      · exact Program.steady_pure _
    | policy =>
      refine discreet_get_bind (fun a => ?_) fun _ _ => rfl
      exact Program.steady_andThen discreet_attempt fun _ => discreet_complete
    | role =>
      refine discreet_get_bind (fun a => ?_) fun _ _ => rfl
      exact Program.steady_andThen discreet_attempt fun _ => discreet_complete
    | binding =>
      refine discreet_get_bind (fun a => ?_) fun _ _ => rfl
      split
      · exact Program.steady_andThen discreet_attempt fun _ => discreet_complete
      · exact Program.steady_pure _
    | costReport =>
      refine discreet_get_bind (fun a => ?_) fun _ _ => rfl
      split
      · exact Program.steady_pure _
      · exact Program.steady_andThen discreet_attempt fun _ => discreet_complete

theorem discreet_runSteps (steps : List Step) : Discreet (runSteps steps) := by
  induction steps with
  | nil => exact Program.steady_pure _
  | cons step steps ih => exact Program.steady_andThen (discreet_runStep step) fun _ => ih

theorem discreet_provision : Discreet provision := by
  refine discreet_get_bind (fun a => ?_) fun _ _ => rfl
  refine Program.steady_andThen (discreet_runSteps _) fun _ => ?_
  exact Program.steady_bind (discreet_modify fun _ _ => rfl) fun _ => Program.steady_pure _

theorem discreet_undoAll (record : Record) (kinds : List Step.Kind) :
    Discreet (undoAll record kinds) := by
  induction kinds with
  | nil => exact Program.steady_pure _
  | cons kind kinds ih =>
    refine Program.steady_bind ?_ fun _ => Program.steady_bind ih fun _ => Program.steady_pure _
    unfold undo
    cases undoing record kind with
    | error e => exact Program.steady_pure _
    | ok u =>
      refine Program.steady_bind (discreet_asking trivial) fun reply => ?_
      cases reply <;> exact Program.steady_pure _

theorem discreet_takeDown : Discreet takeDown :=
  discreet_get_bind (fun a => discreet_undoAll a.record _) fun _ _ => rfl

end Amazon

/-! ## Azure -/

namespace Azure

variable {α : Type} {l l' : Login} {work : Work (Except Cause α)}

theorem discreet_call {c : Call} : Discreet (call c) := discreet_asking trivial

theorem discreet_release : Discreet release := by
  refine discreet_get_bind (fun a => ?_) fun _ _ => rfl
  split
  · exact Program.steady_bind discreet_call fun _ => discreet_modify fun _ _ => rfl
  · exact Program.steady_pure _

theorem discreet_note {key value : String} : Discreet (note key value) :=
  discreet_modify fun _ _ => rfl

theorem discreet_thenLogout (hw : Discreet work) : Discreet (thenLogout work) := by
  refine Program.steady_bind hw fun result => Program.steady_bind discreet_call fun out => ?_
  cases result <;> cases out <;> exact Program.steady_pure _

/-- **The secret is used to log in, and for nothing else in a session.** -/
theorem couples_inSession (hl : l.Twin l') (hw : Discreet work) :
    (inSession l work).Couples Question.secrets Application.Twin Eq (inSession l' work) := by
  have hlogin : (call (.login l)).Couples Question.secrets Application.Twin Eq
      (call (.login l')) := by
    refine (Question.couples_asking (.login hl)).mono fun r r' h => ?_
    cases h <;> rfl
  have hloggedIn : (loggedIn l work).Couples Question.secrets Application.Twin Eq
      (loggedIn l' work) := by
    rw [loggedIn_eq, loggedIn_eq]
    refine Program.couples_bind_eq hlogin fun r => ?_
    cases r with
    | error e => exact Program.steady_pure _
    | ok _ => exact discreet_thenLogout hw
  refine Program.couples_bind_eq discreet_call fun r => ?_
  cases r with
  | error e => exact Program.steady_pure _
  | ok _ =>
    refine Program.couples_bind_eq (discreet_modify fun _ _ => rfl) fun _ => ?_
    refine Program.couples_bind_eq hloggedIn fun result => ?_
    exact Program.steady_bind discreet_release fun _ => Program.steady_pure _

theorem couples_provision (hl : l.Twin l') (template : Option String) :
    (provision l template).Couples Question.secrets Application.Twin Eq
      (provision l' template) := by
  cases template with
  | none => exact Program.steady_pure _
  | some template =>
    refine Program.couples_get_bind fun a a' ht => ?_
    obtain ⟨p, -, rfl⟩ := ht
    refine Program.couples_bind_eq discreet_note fun _ => ?_
    refine Program.couples_bind_eq (couples_inSession hl discreet_call) fun r => ?_
    cases r with
    | error cause => exact Program.steady_pure _
    | ok subscription =>
      refine Program.steady_bind discreet_note fun _ => ?_
      exact Program.steady_bind (discreet_modify fun _ _ => rfl) fun _ => Program.steady_pure _

theorem couples_takeDown (hl : l.Twin l') :
    (takeDown l).Couples Question.secrets Application.Twin Eq (takeDown l') := by
  refine Program.couples_get_bind fun a a' ht => ?_
  obtain ⟨p, -, rfl⟩ := ht
  cases a.record.output? stepName "name" with
  | none => exact Program.steady_pure _
  | some name =>
    refine Program.couples_bind_eq (couples_inSession hl discreet_call) fun r => ?_
    cases r <;> exact Program.steady_pure _

end Azure

/-! ## Clients -/

namespace Provider

variable {p p' : Provider}

/-- Of a failure that sets up no client, the secret is no part. -/
theorem likewise_ofCredential {c c' : Credential} (h : c.Twin c') (cloud : Cloud)
    (template : Option String) :
    Likewise Provider.Twin (ofCredential cloud template c) (ofCredential cloud template c') := by
  obtain ⟨secret, -, rfl⟩ := h
  cases cloud with
  | amazon => exact .ok (.amazon _ _ _)
  | azure =>
    have htenant : { c with secret := secret }.azureTenant? = c.azureTenant? := rfl
    simp only [ofCredential, htenant]
    cases c.azureTenant? with
    | none => exact .error _
    | some tenant => exact .ok (.azure ⟨secret, rfl⟩ template)

theorem couples_provision (hp : p.Twin p') :
    p.provision.Couples Question.secrets Application.Twin Eq p'.provision := by
  refine Program.couples_bind_eq (discreet_asking trivial) fun guid => ?_
  refine Program.couples_bind_eq (discreet_modify fun _ _ => rfl) fun _ => ?_
  cases hp with
  | amazon => exact Amazon.discreet_provision
  | azure hl template => exact Azure.couples_provision hl template

theorem couples_takeDown (hp : p.Twin p') :
    p.takeDown.Couples Question.secrets Application.Twin Eq p'.takeDown := by
  cases hp with
  | amazon => exact Amazon.discreet_takeDown
  | azure hl => exact Azure.couples_takeDown hl

end Provider

/-! ## The inventory -/

namespace Inventory

theorem discreet_announce : Discreet announce := by
  refine discreet_get_bind (fun a => ?_) fun _ _ => rfl
  cases a.product with
  | none => exact Program.steady_pure _
  | some product =>
    refine Program.steady_andThen (discreet_asking trivial) fun _ => ?_
    refine Program.steady_andThen (discreet_asking trivial) fun _ => ?_
    refine Program.steady_andThen (discreet_asking trivial) fun _ => ?_
    exact discreet_asking trivial

theorem discreet_markUnavailable {request : Request.Create} {cause : String}
    {progress : Option Application} : Discreet (markUnavailable request cause progress) :=
  Program.steady_andThen (discreet_asking trivial) fun _ => discreet_asking trivial

end Inventory

/-! ## The service -/

namespace Service

variable {service : Service} {request : Request.Create}

/-- Twin credentials make twin clients, or the same failure. -/
theorem couples_provider (name superKey : String) (caller : Caller) :
    (service.provider name superKey caller).Couples Question.secrets Application.Twin
      (Likewise Provider.Twin) (service.provider name superKey caller) := by
  unfold provider
  cases service.catalog.cloud name with
  | error e => exact Program.couples_pure (.error e)
  | ok cloud =>
    -- both credentials are complete or none is, so a client is set up for both or for none
    have hset : ∀ c c' : Credential, c.Twin c' →
        Program.Couples Question.secrets Application.Twin (Likewise Provider.Twin)
          (if c.isComplete then Provider.build cloud service.template c
            else pure (.error (.missingCredential c.id superKey)))
          (if c'.isComplete then Provider.build cloud service.template c'
            else pure (.error (.missingCredential c'.id superKey))) := by
      intro c c' h
      rw [h.isComplete_eq]
      split
      · refine Program.couples_bind (Question.couples_asking (.build cloud h)) fun _ _ _ => ?_
        exact Program.couples_pure (Provider.likewise_ofCredential h cloud service.template)
      · obtain ⟨secret, -, rfl⟩ := h
        exact Program.couples_pure (.error _)
    have hfetch := Question.couples_asking (.same (.inventory caller (.credential superKey)))
    refine Program.couples_bind hfetch fun r r' h => ?_
    cases h with
    | credential _ _ h => exact hset _ _ h
    | same =>
      cases r with
      | error e => exact Program.couples_pure (.error _)
      | ok c => exact hset c c c.twin_rfl

theorem couples_attach :
    service.attach.Couples Question.secrets Application.Twin (Likewise Provider.Twin)
      service.attach := by
  refine Program.couples_get_bind fun a a' ht => ?_
  obtain ⟨_, -, rfl⟩ := ht
  refine Program.couples_andThen (couples_provider _ _ _) fun p p' hp => ?_
  refine Program.couples_bind (Program.couples_modify fun b b' hb => ?_) fun _ _ _ =>
    Program.couples_pure (.ok hp)
  obtain ⟨_, -, rfl⟩ := hb
  exact ⟨some p', .some hp, rfl⟩

theorem discreet_provisionAndAnnounce : Discreet service.provisionAndAnnounce := by
  have hprovision : Discreet service.provision := by
    refine Program.couples_bind couples_attach fun r r' h => ?_
    cases h with
    | error e => exact Program.steady_pure _
    | ok hp => exact Provider.couples_provision hp
  have hpause : Discreet service.pause := by
    unfold pause
    split
    · exact discreet_asking trivial
    · exact Program.steady_pure _
  rw [provisionAndAnnounce_eq, settleAndAnnounce_eq]
  refine Program.steady_andThen hprovision fun _ => Program.steady_bind hpause fun _ => ?_
  exact Program.steady_bind Inventory.discreet_announce fun _ => Program.steady_pure _

theorem discreet_takeDown : Discreet service.takeDown := by
  refine Program.couples_get_bind fun a a' ht => ?_
  obtain ⟨p', hp, rfl⟩ := ht
  cases ha : a.provider with
  | some p =>
    -- the application was made here, and has a client of its own
    rw [ha] at hp
    cases hp with
    | some hp => exact Provider.couples_takeDown hp
  | none =>
    rw [ha] at hp
    cases hp
    refine Program.couples_bind couples_attach fun r r' h => ?_
    cases h with
    | error e => exact Program.steady_pure _
    | ok hp => exact Provider.couples_takeDown hp

/-- What the application's owner is told is made of the record and the failure. -/
theorem discreet_cleanUp {failure : Error} : Discreet (service.cleanUp request failure) := by
  refine discreet_get_bind (fun a => ?_) fun _ _ => rfl
  split
  · exact Program.steady_bind Inventory.discreet_markUnavailable fun _ => Program.steady_pure _
  · refine Program.steady_bind discreet_takeDown fun _ => ?_
    refine discreet_get_bind (fun b => ?_) fun _ _ => rfl
    exact Program.steady_bind Inventory.discreet_markUnavailable fun _ => Program.steady_pure _

theorem couples_withinDeadline {α : Type} {work : Work α} (h : Discreet work) :
    (service.withinDeadline work).Couples Question.secrets.timed Application.Twin Eq
      (service.withinDeadline work) := by
  refine Program.couples_bind (Program.couples_within Azure.discreet_release h) fun r r' hr => ?_
  cases hr with
  | none => exact Program.steady_pure _
  | some h =>
    cases h
    exact Program.steady_pure _

/-- **A create request goes the same way for twin credentials.** -/
theorem couples_createRun (service : Service) (request : Request.Create) :
    (service.createRun request).Coupled Question.secrets.timed Application.Twin Eq
      (service.createRun request) := by
  refine Program.steady_bind (couples_withinDeadline discreet_provisionAndAnnounce)
    (fun outcome => ?_) (Application.twin_rfl _)
  cases outcome.bind id with
  | ok _ => exact Program.steady_pure _
  | error failure =>
    exact Program.steady_bind (Program.couples_untimed discreet_cleanUp) fun _ =>
      Program.steady_pure _

/-- **A destroy request goes the same way for twin credentials.** -/
theorem couples_destroyRun (service : Service) (request : Request.Destroy) :
    (service.destroyRun request).Coupled Question.secrets.timed Application.Twin Eq
      (service.destroyRun request) := by
  refine Program.steady_bind (couples_withinDeadline discreet_takeDown)
    (fun outcome => ?_) (Application.twin_rfl _)
  cases outcome with
  | error failure => exact Program.steady_pure _
  | ok failures =>
    simp only
    cases Error.ofFailures? failures <;> exact Program.steady_pure _

end Service

/-! ## Worlds in memory -/

namespace Simulation

/-- Two worlds that are the same but for the secret of the stored credential, and for the secrets in
what they have been asked. -/
def World.Twin (w w' : World) : Prop :=
  ∃ credential log, w.credential.Twin credential ∧ List.Forall₂ Question.Twin w.log log ∧
    w' = { w with credential := credential, log := log }

namespace World

variable {w w' : World} {q q' : Question}

/-- What happens to a call is decided by its name. -/
theorem enter_twin (hw : w.Twin w') (hq : q.Twin q') (name : String) :
    (w'.enter name q').1 = (w.enter name q).1 ∧ (w.enter name q).2.Twin (w'.enter name q').2 := by
  obtain ⟨c, log, hc, hlog, rfl⟩ := hw
  have hlog' : List.Forall₂ Question.Twin (w.log ++ [q]) (log ++ [q']) :=
    List.rel_append hlog (.cons hq .nil)
  unfold enter note
  simp only
  cases w.faults.find? _ with
  | none => exact ⟨rfl, c, log ++ [q'], hc, hlog', rfl⟩
  | some f => exact ⟨rfl, c, log ++ [q'], hc, hlog', rfl⟩

theorem note_twin (hw : w.Twin w') (hq : q.Twin q') : (w.note q).Twin (w'.note q') := by
  obtain ⟨c, log, hc, hlog, rfl⟩ := hw
  exact ⟨c, log ++ [q'], hc, List.rel_append hlog (.cons hq .nil), rfl⟩

theorem holdings_twin (hw : w.Twin w') (f : Holdings → Holdings) :
    ({ w with holdings := f w.holdings } : World).Twin { w' with holdings := f w'.holdings } := by
  obtain ⟨c, log, hc, hlog, rfl⟩ := hw
  exact ⟨c, log, hc, hlog, rfl⟩

theorem clock_twin (hw : w.Twin w') (f : Nat → Nat) :
    ({ w with clock := f w.clock } : World).Twin { w' with clock := f w'.clock } := by
  obtain ⟨c, log, hc, hlog, rfl⟩ := hw
  exact ⟨c, log, hc, hlog, rfl⟩

/-- A question is started in the same way but for the secrets in it. -/
theorem start_twin (hw : w.Twin w') (hq : q.Twin q') :
    (w'.start q').1 = (w.start q).1 ∧ (w.start q).2.Twin (w'.start q').2 := by
  cases hq with
  | build cloud h => exact ⟨rfl, note_twin hw (.build cloud h)⟩
  | login h => exact enter_twin hw (.login h) _
  | same q =>
    cases q with
    | amazon c => exact enter_twin hw (.same _) _
    | azure c =>
      cases c with
      | closeSession => exact ⟨rfl, note_twin hw (.same _)⟩
      | openSession =>
        obtain ⟨ht, hw⟩ := enter_twin hw (.same (.azure .openSession)) Azure.Call.openSession.name
        exact ⟨congrArg (fun t : Ticket => { t with delay := 0 }) ht, hw⟩
      | _ => exact enter_twin (holdings_twin hw fun h => h.onAzureStart _) (.same _) _
    | inventory caller c => exact enter_twin hw (.same _) _
    | build cloud c => exact ⟨rfl, note_twin hw (.same _)⟩
    | wait ms => exact ⟨rfl, hw⟩
    | guid => exact ⟨rfl, hw⟩

theorem draw_twin (hw : w.Twin w') : w'.draw.1 = w.draw.1 ∧ w.draw.2.Twin w'.draw.2 := by
  obtain ⟨c, log, hc, hlog, rfl⟩ := hw
  unfold draw
  simp only
  cases w.guids with
  | nil => exact ⟨rfl, c, log, hc, hlog, rfl⟩
  | cons g gs => exact ⟨rfl, c, log, hc, hlog, rfl⟩

/-! Where a question is answered, a failure is that of its ticket, and a success is the same unless it
is the stored credential. -/

theorem finishAmazon_twin (hw : w.Twin w') (c : Amazon.Call) (t : Ticket) :
    Question.TwinReply (.amazon c) (.amazon c) (w.finish t (.amazon c)).1
        (w'.finish t (.amazon c)).1 ∧
      (w.finish t (.amazon c)).2.Twin (w'.finish t (.amazon c)).2 := by
  obtain ⟨delay, failure, n⟩ := t
  cases failure with
  | none => exact ⟨.same (.amazon c) _, holdings_twin hw fun h => h.afterAmazon c⟩
  | some f => exact ⟨.same (.amazon c) _, hw⟩

theorem finishAzure_twin (hw : w.Twin w') (c : Azure.Call) (t : Ticket) :
    Question.TwinReply (.azure c) (.azure c) (w.finish t (.azure c)).1
        (w'.finish t (.azure c)).1 ∧
      (w.finish t (.azure c)).2.Twin (w'.finish t (.azure c)).2 := by
  obtain ⟨delay, failure, n⟩ := t
  cases failure with
  | none =>
    refine ⟨?_, holdings_twin hw fun h => h.afterAzure c⟩
    obtain ⟨_, _, -, -, rfl⟩ := hw
    exact .same (.azure c) (.ok (w.azureResult c))
  | some f => exact ⟨.same (.azure c) _, hw⟩

theorem finishInventory_twin (hw : w.Twin w') (caller : Caller) (c : Inventory.Call) (t : Ticket) :
    Question.TwinReply (.inventory caller c) (.inventory caller c)
        (w.finish t (.inventory caller c)).1 (w'.finish t (.inventory caller c)).1 ∧
      (w.finish t (.inventory caller c)).2.Twin (w'.finish t (.inventory caller c)).2 := by
  obtain ⟨delay, failure, n⟩ := t
  cases failure with
  | some f => exact ⟨.same (.inventory caller c) _, hw⟩
  | none =>
    refine ⟨?_, hw⟩
    cases c with
    | credential id =>
      obtain ⟨_, _, hc, -, rfl⟩ := hw
      exact .credential caller id hc
    | _ => exact .same (.inventory caller _) _

/-- A question is answered in the same way but for the secret of the stored credential. -/
theorem finish_twin (hw : w.Twin w') (hq : q.Twin q') (t : Ticket) :
    Question.TwinReply q q' (w.finish t q).1 (w'.finish t q').1 ∧
      (w.finish t q).2.Twin (w'.finish t q').2 := by
  cases hq with
  | build cloud h => exact ⟨.build cloud _ _, hw⟩
  | login h =>
    obtain ⟨delay, failure, n⟩ := t
    cases failure with
    | none => exact ⟨.login _ _ (.ok ()), hw⟩
    | some f => exact ⟨.login _ _ (.error f.toCause), hw⟩
  | same q =>
    cases q with
    | amazon c => exact finishAmazon_twin hw c t
    | azure c => exact finishAzure_twin hw c t
    | inventory caller c => exact finishInventory_twin hw caller c t
    | build cloud c => exact ⟨.same (.build cloud c) _, hw⟩
    | wait ms => exact ⟨.same (.wait ms) _, hw⟩
    | guid =>
      obtain ⟨hr, hw⟩ := draw_twin hw
      refine ⟨?_, hw⟩
      show Question.TwinReply .guid .guid w.draw.1 w'.draw.1
      rw [hr]
      exact .same .guid _

/-- **Worlds that differ in the secret of the stored credential answer alike**, whatever calls are
delayed or fail. -/
theorem answer_alike : Question.secrets.timed.Alike World.Twin World.answer World.answer := by
  intro w w' hw q q' hq
  cases hq with
  | now =>
    obtain ⟨_, _, hc, hlog, rfl⟩ := hw
    exact ⟨.now _, _, _, hc, hlog, rfl⟩
  | @untimed q q' hq =>
    obtain ⟨ht, hs⟩ := start_twin hw hq
    have hfinish := finish_twin (clock_twin hs fun t => t + (w.start q).1.delay) hq (w.start q).1
    simp only [answer, ht]
    exact ⟨.untimed hfinish.1, hfinish.2⟩
  | @before limit q q' hq =>
    obtain ⟨ht, hs⟩ := start_twin hw hq
    have hfinish := finish_twin (clock_twin hs fun t => t + (w.start q).1.delay) hq (w.start q).1
    have hclock : (w'.start q').2.clock = (w.start q).2.clock := by
      obtain ⟨_, _, -, -, hs⟩ := hs
      rw [hs]
    simp only [answer, ht, hclock]
    split
    · exact ⟨.before limit hfinish.1, hfinish.2⟩
    · have hlate := clock_twin hs fun t => max t limit
      rw [hclock] at hlate
      exact ⟨.late limit _ _, hlate⟩

end World

end Simulation

end CloudGrant
