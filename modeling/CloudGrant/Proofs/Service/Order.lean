import CloudGrant.Proofs.Amazon.Order
import CloudGrant.Proofs.Service.Unwinding

/-!
# Taking down from a guarded account

A guarded account refuses to delete what is still attached. In whatever order a request has its steps,
and wherever its work stops, what is recorded by then can be taken down from such an account: no call
is refused, and the account is as it was before (`takeDown_in_order`).
-/

namespace CloudGrant.Service

open Interface Simulation

variable {ω : Type} {service : Service} {request : Request.Create} {arnOf : String → String}
  {contents : ω → Holdings}
  {answer : ω → (q : surroundings.timed.Request) → surroundings.timed.Reply q × ω}

/-- The work of a create request under its deadline, from the start. -/
def workRun (service : Service) (request : Request.Create) :
    Run surroundings.timed Application (Except Error (Except Error Unit)) :=
  service.withinDeadline service.provisionAndAnnounce (Application.new request "")

/-- What is recorded can be taken down from the account that it keeps track of. -/
theorem Followed.taken_down {before now : Holdings} {a t : Application}
    {l : List surroundings.Event} {errors : List Error}
    (h : Followed arnOf before now request a) (hs : (Amazon.takeDown a).Stops l t (.value errors))
    (ho : OnlyObstructed arnOf now (l.map Event.entry)) :
    errors = [] ∧ now.after (l.map Event.entry) = before := by
  have hundone := (Amazon.undone_of_takeDown hs).2
  have hl : ∀ e ∈ l.map Event.entry, ¬ Failed e := by
    rcases h.armed with hnone | ⟨-, hfresh⟩
    · have hnames : ∀ x, ¬ Amazon.Names a.record x := by
        rintro x ⟨kind, _, hkind, -⟩
        cases (hnone kind.name).symm.trans hkind
      exact hundone.not_failed (fun _ hkind => Amazon.mem_toUndo_iff.mp hkind)
        (fun _ _ hx => (hx.elim (hnames _) (hnames _)).elim) ho
    · exact h.tracked.not_failed hfresh hundone ho
  exact h.tracked.restored h.new hundone hl

/-- **What was made can be taken down from a guarded account**, in whatever order it was made and
wherever that stopped: nothing is refused for being in use, and the account is as it was before. -/
theorem takeDown_in_order (hg : Guarded arnOf contents answer)
    (hcloud : service.catalog.cloud request.provider = .ok .amazon)
    (hd : (request.steps.map Step.name).Nodup) (w : ω)
    (hf : ∀ guid, (⟨.guid, some guid⟩ : surroundings.Entry) ∈ (service.workRun request).log answer w →
      (contents w).Fresh arnOf guid)
    {made : Application} {r : Except Error (Except Error Unit)} {w₁ : ω}
    (hmade : (service.workRun request).exec answer w = ((made, r), w₁))
    (ho : OnlyObstructed arnOf (contents w₁) ((Amazon.takeDown.untimed made).log answer w₁)) :
    ((Amazon.takeDown.untimed made).exec answer w₁).1.2 = [] ∧
      contents ((Amazon.takeDown.untimed made).exec answer w₁).2 = contents w ∧
      ∀ guid, (⟨.guid, some guid⟩ : surroundings.Entry) ∈ (service.workRun request).log answer w →
        (contents ((Amazon.takeDown.untimed made).exec answer w₁).2).Fresh arnOf guid := by
  have hnow : contents w₁ = (contents w).after ((service.workRun request).log answer w) := by
    rw [← hg.atomic.exec, hmade]
  have hfollowed : Followed arnOf (contents w) (contents w₁) request made := by
    have hstops := Run.stops_exec answer w (service.workRun request)
    rw [hmade] at hstops
    rw [hnow]
    exact followed_ended (ended_of_stops hstops) hcloud hd (hg.reliable hf) fun _ he => he
  -- the teardown, on the contents that the work has left
  obtain ⟨l, hl, hdown⟩ := Run.stops_untimed
    (Run.stops_exec answer w₁ (Amazon.takeDown.untimed made))
  have hlog : (Amazon.takeDown.untimed made).log answer w₁ = l.map Event.entry := by
    rw [Run.log, hl, entries_untimed]
  rw [hlog] at ho
  obtain ⟨herrors, hafter⟩ := hfollowed.taken_down hdown ho
  have hcontents : contents ((Amazon.takeDown.untimed made).exec answer w₁).2 = contents w := by
    rw [hg.atomic.exec, hlog, hafter]
  refine ⟨herrors, hcontents, fun guid hguid => ?_⟩
  rw [hcontents]
  exact hf guid hguid

/-- A role that is bound to a policy before there is a bucket. -/
def boundFirst : Request.Create :=
  { grant with
    steps :=
      [.plain 1 "role" "", .plain 2 "policy" "", .plain 3 "bind_role" "", .plain 4 "s3" ""] }

/-- The bucket is refused after the role was bound; a guarded account lets all be taken down. -/
theorem taken_down_after_refused_bucket :
    ((trial.workRun boundFirst).exec World.guarded (refusing "create_bucket")).1.1.record.has
        Step.Kind.binding.name = true ∧
      ((Amazon.takeDown.untimed
            ((trial.workRun boundFirst).exec World.guarded (refusing "create_bucket")).1.1).exec
          World.guarded
          ((trial.workRun boundFirst).exec World.guarded (refusing "create_bucket")).2).1.2 = [] := by
  have hguids : ((trial.workRun boundFirst).log World.guarded (refusing "create_bucket")).filterMap
      drawn? = ["0f1e2d3c"] := by decide +kernel
  refine ⟨by decide +kernel, (takeDown_in_order guarded_world rfl (by decide)
    (refusing "create_bucket") (fun guid hg => ?_) rfl
    (onlyObstructed_of_not_failed (by decide +kernel))).1⟩
  have hmem := List.mem_filterMap.mpr ⟨_, hg, (rfl : drawn? ⟨.guid, some guid⟩ = some guid)⟩
  rw [hguids] at hmem
  cases List.mem_singleton.mp hmem
  exact fresh_refusing _

end CloudGrant.Service
