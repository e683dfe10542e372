import CloudGrant.Proofs.Run.Throughout
import CloudGrant.Proofs.Service.Outcome

/-!
# What a service keeps to

Whatever becomes of a request, the service itself asks the clouds for nothing: it fetches the
credential, announces the application or marks it as unavailable, waits, and lets go of a session that
was cut short. The rest is the work of a provider. So if the work of providers keeps to what may be
asked, and to what has to hold of the application on its way, then so do whole requests: a create
request (`Discipline.createRun`), the preparing of an application (`Discipline.prepareRun`) and a
destroy request (`Discipline.destroyRun`).
-/

namespace CloudGrant

/-- A call to the inventory is made for a caller. -/
def Question.IsFor (caller : Caller) : Question → Prop
  | inventory c _ => c = caller
  | _ => True

/-- What may be asked for a request and what has to hold of its application, such that the service may
do all that is its own and providers keep to it. -/
structure Discipline (request : Request.Create) (P : Question → Prop) (Q : Application → Prop) :
    Prop where
  request_eq : ∀ a, Q a → a.request = request
  attach : ∀ a p, Q a → Q { a with provider := some p }
  release : ∀ a, Q a → Q { a with inSession := false }
  quiet : ∀ q, Question.isCloud q = false → q.IsFor request.caller → P q
  close : P (.azure .closeSession)
  provision : ∀ p : Provider, p.provision.Throughout P Q
  takeDown : ∀ p : Provider, p.takeDown.Throughout P Q

namespace Discipline

open Service (settleAndAnnounce_eq provisionAndAnnounce_eq)

variable {request : Request.Create} {P : Question → Prop} {Q : Application → Prop}
  {service : Service}

/-! ## The parts of a request -/

theorem throughout_call (h : Discipline request P Q) {c : Inventory.Call} :
    (Inventory.call request.caller c).Throughout P Q :=
  Program.throughout_ask (h.quiet _ rfl rfl)

theorem throughout_provider (h : Discipline request P Q) {name superKey : String} :
    (service.provider name superKey request.caller).Throughout P Q := by
  unfold Service.provider
  cases service.catalog.cloud name with
  | error e => exact Program.throughout_pure _
  | ok cloud =>
    refine Program.throughout_bind h.throughout_call fun fetched => ?_
    cases fetched with
    | error e => exact Program.throughout_pure _
    | ok credential =>
      simp only
      split
      · exact Program.throughout_bind (Program.throughout_ask (h.quiet _ rfl trivial)) fun _ =>
          Program.throughout_pure _
      · exact Program.throughout_pure _

theorem throughout_attach (h : Discipline request P Q) : service.attach.Throughout P Q := by
  refine Program.throughout_get_bind fun a ha => ?_
  rw [h.request_eq a ha]
  refine Program.throughout_andThen h.throughout_provider fun p => ?_
  exact Program.throughout_bind (Program.throughout_modify fun a ha => h.attach a p ha) fun _ =>
    Program.throughout_pure _

theorem throughout_provision (h : Discipline request P Q) : service.provision.Throughout P Q :=
  Program.throughout_andThen h.throughout_attach h.provision

theorem throughout_announce (h : Discipline request P Q) : Inventory.announce.Throughout P Q := by
  refine Program.throughout_get_bind fun a ha => ?_
  rw [h.request_eq a ha]
  cases a.product with
  | none => exact Program.throughout_pure _
  | some product =>
    refine Program.throughout_andThen h.throughout_call fun _ => ?_
    refine Program.throughout_andThen h.throughout_call fun _ => ?_
    refine Program.throughout_andThen h.throughout_call fun _ => ?_
    exact h.throughout_call

theorem throughout_provisionAndAnnounce (h : Discipline request P Q) :
    service.provisionAndAnnounce.Throughout P Q := by
  rw [provisionAndAnnounce_eq]
  refine Program.throughout_andThen h.throughout_provision fun _ => ?_
  rw [settleAndAnnounce_eq]
  refine Program.throughout_bind ?_ fun _ => ?_
  · unfold Service.pause
    split
    · exact Program.throughout_ask (h.quiet _ rfl trivial)
    · exact Program.throughout_pure _
  · exact Program.throughout_bind h.throughout_announce fun _ => Program.throughout_pure _

theorem throughout_takeDown (h : Discipline request P Q) : service.takeDown.Throughout P Q := by
  refine Program.throughout_get_bind fun a _ => ?_
  cases a.provider with
  | some p => exact h.takeDown p
  | none =>
    refine Program.throughout_bind h.throughout_attach fun r => ?_
    cases r with
    | error e => exact Program.throughout_pure _
    | ok p => exact h.takeDown p

theorem throughout_release (h : Discipline request P Q) : Azure.release.Throughout P Q := by
  refine Program.throughout_get_bind fun a _ => ?_
  split
  · refine Program.throughout_bind (Program.throughout_ask h.close) fun _ => ?_
    exact Program.throughout_modify h.release
  · exact Program.throughout_pure _

theorem throughout_withinDeadline {α : Type} {work : Work α} (h : Discipline request P Q)
    (hwork : work.Throughout P Q) :
    (service.withinDeadline work).Throughout (Run.Timeless P) Q := by
  refine Program.throughout_bind (Program.throughout_within h.throughout_release hwork) fun r => ?_
  cases r <;> exact Program.throughout_pure _

theorem throughout_markUnavailable (h : Discipline request P Q) {cause : String}
    {progress : Option Application} :
    (Inventory.markUnavailable request cause progress).Throughout P Q :=
  Program.throughout_andThen h.throughout_call fun _ => h.throughout_call

theorem throughout_cleanUp (h : Discipline request P Q) {failure : Error} :
    (service.cleanUp request failure).Throughout P Q := by
  refine Program.throughout_get_bind fun a _ => ?_
  split
  · exact Program.throughout_bind h.throughout_markUnavailable fun _ => Program.throughout_pure _
  · refine Program.throughout_bind h.throughout_takeDown fun _ => ?_
    refine Program.throughout_get_bind fun a _ => ?_
    exact Program.throughout_bind h.throughout_markUnavailable fun _ => Program.throughout_pure _

/-! ## Whole requests -/

/-- **A create request keeps to what providers keep to**, its clean-up included. -/
theorem createRun (h : Discipline request P Q) (service : Service)
    (hnew : Q (Application.new request "")) :
    (service.createRun request).Throughout (Run.Timeless P) Q := by
  refine Program.throughout_bind (h.throughout_withinDeadline h.throughout_provisionAndAnnounce)
    (fun outcome => ?_) _ hnew
  cases outcome.bind id with
  | ok _ => exact Program.throughout_pure _
  | error failure =>
    exact Program.throughout_bind (Program.throughout_untimed h.throughout_cleanUp) fun _ =>
      Program.throughout_pure _

/-- **The preparing of an application keeps to what providers keep to.** -/
theorem prepareRun (h : Discipline request P Q) (service : Service)
    (hnew : Q (Application.new request "")) :
    (service.prepareRun request).Throughout (Run.Timeless P) Q := by
  have hprepare : service.prepare.Throughout P Q := by
    refine Program.throughout_bind h.throughout_provision fun result => ?_
    refine Program.throughout_get_bind fun a _ => ?_
    cases result <;> exact Program.throughout_pure _
  exact Program.throughout_untimed hprepare _ hnew

/-- **A destroy request keeps to what providers keep to.** -/
theorem destroyRun {request : Request.Destroy}
    (h : Discipline (Application.ofDestroy request).request P Q) (service : Service)
    (hnew : Q (Application.ofDestroy request)) :
    (service.destroyRun request).Throughout (Run.Timeless P) Q := by
  refine Program.throughout_bind (h.throughout_withinDeadline h.throughout_takeDown)
    (fun outcome => ?_) _ hnew
  cases outcome with
  | error failure => exact Program.throughout_pure _
  | ok failures =>
    simp only
    cases Error.ofFailures? failures <;> exact Program.throughout_pure _

end Discipline

end CloudGrant
