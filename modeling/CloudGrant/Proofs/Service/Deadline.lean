import CloudGrant.Proofs.Run.Timeline
import CloudGrant.Proofs.Service.Outcome

/-!
# What a deadline does to a request

Each request is compared with the same request carried out without a deadline (`createFreely`,
`destroyFreely`), in any surroundings with a clock. If the work is done by the deadline, nothing is
different. If not, what the work would have asked by the deadline is asked, nothing else; the
application is left as the work had it at that time, and a create request cleans up after it for as
long as that takes (`deadline_only_cuts_short`).
-/

namespace CloudGrant

open Interface Simulation

namespace Service

/-! ## Without a deadline -/

/-- What follows the work of a create request. -/
def conclude (service : Service) (request : Request.Create) (outcome : Except Error Unit) :
    Program surroundings.timed Application (Except Error Unit) := do
  match outcome with
  | .ok _ => pure (.ok ())
  | .error failure => do
    (service.cleanUp request failure).untimed
    pure (.error failure)

/-- A create request without a deadline. -/
def createFreely (service : Service) (request : Request.Create) :
    Program surroundings.timed Application (Except Error Unit) := do
  let outcome ← service.provisionAndAnnounce.untimed
  service.conclude request outcome

/-- A destroy request without a deadline. -/
def destroyFreely (service : Service) :
    Program surroundings.timed Application (Except Error Unit) := do
  let failures ← service.takeDown.untimed
  pure (destroyed (.ok failures))

/-- The failure of a request that was not done by its deadline. -/
def lateness (service : Service) : Error := .deadline (Duration.ofMilliseconds service.deadline)

/-- What a create request that was not done by its deadline does then. -/
def abandon (service : Service) (request : Request.Create) :
    Program surroundings.timed Application (Except Error Unit) := do
  Azure.release.untimed
  (service.cleanUp request service.lateness).untimed
  pure (.error service.lateness)

/-- What a destroy request that was not done by its deadline does then. -/
def desist (service : Service) : Program surroundings.timed Application (Except Error Unit) := do
  Azure.release.untimed
  pure (.error service.lateness)

/-! ## With a deadline -/

/-- What a request makes of the result of its work. -/
def judge {α : Type} (service : Service) : Option α → Except Error α
  | some a => .ok a
  | none => .error service.lateness

variable {service : Service} {ω : Type} {clock : ω → Nat}
  {answer : ω → (q : surroundings.timed.Request) → surroundings.timed.Reply q × ω} {w : ω}

theorem withinDeadline_eq {α : Type} {work : Work α} :
    service.withinDeadline work =
      Program.within service.deadline Azure.release work >>= fun r => pure (service.judge r) := by
  refine congrArg (Program.within service.deadline Azure.release work >>= ·) (funext fun r => ?_)
  cases r <;> rfl

theorem create_eq {request : Request.Create} :
    service.create request =
      Program.within service.deadline Azure.release service.provisionAndAnnounce >>= fun r =>
        service.conclude request ((service.judge r).bind id) := by
  unfold create
  rw [withinDeadline_eq, LawfulMonad.bind_assoc]
  refine congrArg (_ >>= ·) (funext fun r => ?_)
  rw [LawfulMonad.pure_bind]
  cases (service.judge r).bind id <;> rfl

theorem destroy_eq :
    service.destroy =
      Program.within service.deadline Azure.release service.takeDown >>= fun r =>
        pure (destroyed (service.judge r)) := by
  unfold destroy
  rw [withinDeadline_eq, LawfulMonad.bind_assoc]
  refine congrArg (_ >>= ·) (funext fun r => ?_)
  rw [LawfulMonad.pure_bind]
  cases service.judge r with
  | error failure => rfl
  | ok failures =>
    unfold destroyed
    dsimp only
    cases Error.ofFailures? failures <;> rfl

/-! ## What is abandoned -/

/-- What a create request asks that was abandoned in a state: it lets go of a session, and then cleans
up what it has come to by then. -/
inductive LetGo (service : Service) (request : Request.Create) (a t : Application) :
    List surroundings.Entry → Prop where
  | intro {closing l : List surroundings.Event} (hclose : ∀ e ∈ closing, e.1 = .azure .closeSession)
      (hapart : Azure.apart t = Azure.apart a)
      (hc : CleanedUp request service.lateness t l) :
      LetGo service request a t ((closing ++ l).map Event.entry)

/-- To let go of what is held is at most to close a session. -/
theorem stops_release_untimed {a t : Application} {l : List surroundings.timed.Event} {v : Unit}
    (h : (Azure.release.untimed a).Stops l t (.value v)) :
    t = { a with inSession := false } ∧
      ∃ closing : List surroundings.Event, entries l = closing.map Event.entry ∧
        ∀ e ∈ closing, e.1 = .azure .closeSession := by
  obtain ⟨closing, rfl, hrelease⟩ := Run.stops_untimed h
  obtain ⟨hclose, -, ht⟩ := Azure.stops_release hrelease
  exact ⟨ht v rfl, closing, entries_untimed closing, hclose⟩

theorem letGo_of_stops {request : Request.Create} {a t : Application}
    {l : List surroundings.timed.Event} {r : Except Error Unit} (h : Found request a)
    (hs : (service.abandon request a).Stops l t (.value r)) :
    LetGo service request a t (entries l) := by
  obtain ⟨l₁, l₂, u, _, rfl, h₁, h₂⟩ := Program.stops_bind_value_iff.mp hs
  obtain ⟨rfl, closing, hclosing, hclose⟩ := stops_release_untimed h₁
  obtain ⟨l₃, l₄, v, _, rfl, h₃, h₄⟩ := Program.stops_bind_value_iff.mp h₂
  obtain ⟨rfl, rfl, -⟩ := Program.stops_pure_value_iff.mp h₄
  obtain ⟨l', rfl, hclean⟩ := Run.stops_untimed h₃
  have hfound : Found request { a with inSession := false } := ⟨h.request, h.finds⟩
  obtain ⟨hapart, hcleaned⟩ := hfound.cleanedUp hclean
  rw [List.append_nil, entries_append, hclosing, entries_untimed, ← List.map_append]
  exact .intro hclose hapart hcleaned

/-- A destroy request that is abandoned lets go of a session and asks nothing else. -/
theorem closing_of_stops {a t : Application} {l : List surroundings.timed.Event}
    {r : Except Error Unit} (hs : (service.desist a).Stops l t (.value r)) :
    Azure.apart t = Azure.apart a ∧ ∀ e ∈ entries l, e.1 = .azure .closeSession := by
  obtain ⟨l₁, l₂, u, _, rfl, h₁, h₂⟩ := Program.stops_bind_value_iff.mp hs
  obtain ⟨rfl, closing, hclosing, hclose⟩ := stops_release_untimed h₁
  obtain ⟨rfl, rfl, -⟩ := Program.stops_pure_value_iff.mp h₂
  rw [List.append_nil, hclosing]
  exact ⟨rfl, List.forall_mem_map.mpr hclose⟩

/-- **A deadline only cuts a request short** (`Run.Cut`). Work that is done by then is not changed by
it. Of other work exactly the questions are asked that it asks up to the deadline, and it is left in
the state in which it asked the last of them. A create request then lets go of what it holds, takes
down what was recorded by that time and marks the application, with no limit on how long that takes
(`LetGo`); a destroy request only lets go. Either request fails as late. -/
theorem deadline_only_cuts_short (hc : Clocked clock answer) (w : ω) (service : Service) :
    (∀ request,
      Run.Cut clock answer w (clock w + service.deadline)
          (service.provisionAndAnnounce (Application.new request ""))
          (service.createFreely request (Application.new request ""))
          (service.abandon request) (service.createRun request) ∧
        (∀ a w', ((service.abandon request a).exec answer w').1.2 = .error service.lateness) ∧
        ∀ x ∈ (service.provisionAndAnnounce (Application.new request "")).moments clock answer w,
          ∀ w', LetGo service request x.state
            ((service.abandon request x.state).exec answer w').1.1
            ((service.abandon request x.state).log answer w')) ∧
    ∀ request,
      Run.Cut clock answer w (clock w + service.deadline)
          (service.takeDown (Application.ofDestroy request))
          (service.destroyFreely (Application.ofDestroy request))
          service.desist (service.destroyRun request) ∧
        (∀ a w', ((service.desist a).exec answer w').1.2 = .error service.lateness) ∧
        ∀ a w', Azure.apart ((service.desist a).exec answer w').1.1 = Azure.apart a ∧
          ∀ e ∈ (service.desist a).log answer w', e.1 = .azure .closeSession := by
  refine ⟨fun request => ⟨?_, fun a w' => ?_, fun x hx w' => ?_⟩,
    fun request => ⟨?_, fun a w' => ?_, fun a w' => ?_⟩⟩
  · unfold createRun
    rw [create_eq]
    exact Program.cut_within_bind hc fun r => service.conclude request ((service.judge r).bind id)
  · unfold abandon
    rw [Program.exec_bind, Program.exec_bind]
    rfl
  · obtain ⟨l, hstops⟩ := Run.stops_of_mem_moments hx
    exact letGo_of_stops (working_of_stops hstops).found (Run.stops_exec answer w' _)
  · unfold destroyRun
    rw [destroy_eq]
    exact Program.cut_within_bind hc fun r => pure (destroyed (service.judge r))
  · unfold desist
    rw [Program.exec_bind]
    rfl
  · exact closing_of_stops (Run.stops_exec answer w' _)

/-! ## A run -/

theorem clock_enter (w : World) (name : String) (q : Question) :
    (w.enter name q).2.clock = w.clock := by
  unfold World.enter
  dsimp only
  split <;> rfl

/-- No time passes before a call is delayed. -/
theorem clock_start (w : World) (q : Question) : (w.start q).2.clock = w.clock := by
  cases q with
  | amazon c => exact clock_enter w _ _
  | azure c => cases c <;> first | rfl | exact clock_enter _ _ _
  | inventory via c => exact clock_enter w _ _
  | build => rfl
  | wait ms => rfl
  | guid => rfl

/-- No time passes after a call was delayed. -/
theorem clock_finish (w : World) (t : Ticket) (q : Question) :
    (w.finish t q).2.clock = w.clock := by
  unfold World.finish
  cases q with
  | guid =>
    unfold World.draw
    cases w.guids <;> rfl
  | build => rfl
  | wait ms => rfl
  | _ => cases t.failure <;> rfl

/-- A question is answered after its delay. -/
theorem clock_freely (w : World) (q : Question) :
    (freely (I := surroundings) World.answer w q).2.clock = w.clock + (w.start q).1.delay := by
  show (((w.start q).2.pass (w.start q).1.delay).finish (w.start q).1 q).2.clock = _
  rw [clock_finish, World.pass, clock_start]

/-- In a world in memory a deadline takes nothing but the answer, and the rest of the delay. -/
theorem upTo_eq (w : World) (limit : Nat) (q : Question) :
    upTo (I := surroundings) World.answer w limit q =
      if (freely (I := surroundings) World.answer w q).2.clock ≤ limit then
        (some (freely (I := surroundings) World.answer w q).1,
          (freely (I := surroundings) World.answer w q).2)
      else (none, { (w.start q).2 with clock := max (w.start q).2.clock limit }) := by
  rw [clock_freely, ← clock_start w q]
  rfl

theorem clocked_world : Clocked (I := surroundings) World.clock World.answer where
  told w := rfl
  forward w q := Nat.le.intro (clock_freely w q).symm
  inTime w limit q h := (upTo_eq w limit q).trans (if_pos h)
  late w limit q hw h := by
    have hcut := (upTo_eq w limit q).trans (if_neg (Nat.not_le.mpr h))
    refine ⟨congrArg Prod.fst hcut, (congrArg (World.clock ∘ Prod.snd) hcut).trans ?_⟩
    exact (congrArg (max · limit) (clock_start w q)).trans (Nat.max_eq_right hw)

/-- An account in which a bucket is made at once, and where it takes a minute and more to set its
policy. -/
def dawdling : World := { refusing "" with faults := [⟨"put_bucket_policy", none, 60001, none⟩] }

/-- A bucket with a policy. -/
def storage : Request.Create :=
  { Request.Create.blank with
    applicationType := "/apps/billing"
    provider := "amazon"
    steps := [.plain 1 "s3" Amazon.reportingPayload] }

/-- The moments of the work on that request in the first minute. -/
def dawdled : List (Moment surroundings Application) :=
  (trial.provisionAndAnnounce (Application.new storage "")).momentsBy World.clock World.answer
    dawdling 60000

/-- The request is cut short between the bucket, which is recorded, and its policy. -/
theorem cut_within_bucket_step :
    (∃ last w', dawdled.getLast? = some last ∧
        last.state.record.output? Step.Kind.bucket.name "output" =
          some "redhat-billing-bucket-0f1e2d3c" ∧
        (trial.createRun storage).exec World.answer dawdling =
          (trial.abandon storage last.state).exec World.answer w' ∧
        LetGo trial storage last.state ((trial.abandon storage last.state).exec World.answer w').1.1
          ((trial.abandon storage last.state).log World.answer w')) ∧
      ((trial.createRun storage).exec World.answer dawdling).1.2 = .error trial.lateness := by
  obtain ⟨hcut, hlate, hgone⟩ :=
    (deadline_only_cuts_short clocked_world dawdling trial).1 storage
  obtain ⟨last, w', hlast, -, hexec, -⟩ := hcut.late (by decide +kernel)
  have hbucket : (dawdled.getLast?.bind fun x =>
      x.state.record.output? Step.Kind.bucket.name "output") =
        some "redhat-billing-bucket-0f1e2d3c" := by decide +kernel
  have hlast : dawdled.getLast? = some last := hlast
  have hmoment := (List.mem_filter.mp (List.mem_of_getLast? hlast)).1
  rw [hlast] at hbucket
  exact ⟨⟨last, w', hlast, hbucket, hexec, hgone last hmoment w'⟩,
    hexec ▸ hlate last.state w'⟩

end Service

end CloudGrant
