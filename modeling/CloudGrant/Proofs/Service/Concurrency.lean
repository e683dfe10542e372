import CloudGrant.Proofs.Run.Sharing
import CloudGrant.Proofs.Service.Unwinding
import CloudGrant.Proofs.Service.Zone

/-!
# Create requests that are carried out at once

Create requests share the clouds, and take turns in asking them in any order. Each has a guid of its
own and keeps to that guid's zone, so it does not notice the others (`createRuns_apart`): it asks and
records what it would alone, comes to the same end, and leaves its zone as it would leave it alone.
In particular, what one of them takes down after a failure is never what another one has made.
-/

namespace CloudGrant

open Interface Simulation

/-! ## Clouds that are shared -/

/-- A question to surroundings with a clock is about a resource. -/
def About (arnOf : String → String) (q : surroundings.timed.Request) (x : Resource) : Prop :=
  ∃ p, subject? q = some p ∧ x ∈ concerned arnOf p

variable {S ω ι : Type} {arnOf : String → String}
  {answer : (Resource → S) × ω → (q : surroundings.timed.Request) →
    surroundings.timed.Reply q × ((Resource → S) × ω)}

/-- Clouds whose contents requests share, while the rest of the surroundings is a request's own. A
call sees and changes only the resources that it is about, and an ARN is determined by the name that
it was made for, and tells it. -/
structure ActsLocally (arnOf : String → String)
    (answer : (Resource → S) × ω → (q : surroundings.timed.Request) →
      surroundings.timed.Reply q × ((Resource → S) × ω)) : Prop
    extends Local (About arnOf) answer where
  arn (w : (Resource → S) × ω) (q : surroundings.timed.Request) (name document arn : String)
    (h : entry? ⟨q, (answer w q).1⟩ =
      some ⟨.amazon (.createPolicy name document), some (.ok arn)⟩) : arn = arnOf name
  injective (name name' : String) (h : arnOf name = arnOf name') : name = name'

/-- A run in such clouds is named for a guid if it draws no other. -/
theorem ActsLocally.namedFor (hl : ActsLocally arnOf answer) {σ α : Type} {guid : String}
    {m : Run surroundings.timed σ α} {w : (Resource → S) × ω}
    (hg : ∀ drawn, (⟨.guid, some drawn⟩ : surroundings.Entry) ∈ m.log answer w → drawn = guid) :
    NamedFor arnOf guid (m.log answer w) where
  arn name document arn h := by
    obtain ⟨e, he, hentry⟩ := List.mem_filterMap.mp h
    obtain ⟨w', hw'⟩ := Run.exists_answer_of_mem_history he
    rw [hw'] at hentry
    exact hl.arn w' e.1 name document arn hentry
  guid := hg

namespace Service

variable [DecidableEq ι]

/-- **Create requests with different guids do not interfere**, in whatever order their questions are
answered.

* A request was asked and answered what it would be alone, up to as many questions as it had turns;
  when it had enough of them, it is done, with the result and the record that it would have alone,
  and the resources of its zone are what it would have made of them alone.
* It asks about its zone only, and alone it changes nothing outside.
* What is in no zone is as it was in the beginning.
* No turn of another request changes anything in its zone. -/
theorem createRuns_apart (hl : ActsLocally arnOf answer) (service : Service)
    (requests : ι → Request.Create) (cloud : Resource → S) (owns : ι → ω) (guids : ι → String)
    (hshape : ∀ i, ∃ bytes : List UInt8, bytes.length = Guid.size ∧ guids i = Guid.ofBytes bytes)
    (hdistinct : ∀ i j, guids i = guids j → i = j)
    (hdrawn : ∀ i (drawn : String), (⟨.guid, some drawn⟩ : surroundings.Entry) ∈
      (service.createRun (requests i)).log answer (cloud, owns i) → drawn = guids i)
    (schedule : List ι) :
    let run (i : ι) := service.createRun (requests i)
    let alone (i : ι) := (run i).exec answer (cloud, owns i)
    let start : Fleet surroundings.timed ι Application (Except Error Unit)
      ((Resource → S) × (ι → ω)) := ⟨run, (cloud, owns)⟩
    let later := start.after (Fleet.sharing answer) schedule
    (∀ i,
      Fleet.own i (start.history (Fleet.sharing answer) schedule) =
          ((run i).history answer (cloud, owns i)).take (schedule.count i) ∧
        later.runs i = (Run.advance answer (schedule.count i) (run i, (cloud, owns i))).1 ∧
        (((run i).history answer (cloud, owns i)).length ≤ schedule.count i →
          later.runs i = .done (alone i).1.1 (alone i).1.2 ∧
            ∀ x, Zone arnOf (guids i) x → later.world.1 x = (alone i).2.1 x)) ∧
      (∀ i, (∀ e ∈ (run i).history answer (cloud, owns i), ∀ x, About arnOf e.1 x →
          Zone arnOf (guids i) x) ∧
        ∀ x, ¬ Zone arnOf (guids i) x → (alone i).2.1 x = cloud x) ∧
      (∀ x, (∀ i, ¬ Zone arnOf (guids i) x) → later.world.1 x = cloud x) ∧
      ∀ i j x, i ≠ j → Zone arnOf (guids i) x →
        (later.turn (Fleet.sharing answer) j).world.1 x = later.world.1 x := by
  intro run alone start later
  have hlength : ∀ i j, (guids i).length = (guids j).length := by
    intro i j
    obtain ⟨bytes, hbytes, hi⟩ := hshape i
    obtain ⟨bytes', hbytes', hj⟩ := hshape j
    rw [hi, hj, Guid.length_ofBytes, Guid.length_ofBytes, hbytes, hbytes']
  have hz : ∀ i j x, Zone arnOf (guids i) x → Zone arnOf (guids j) x → i = j := fun i j x hi hj =>
    hdistinct i j (zone_disjoint hl.injective (hlength i j) hi hj)
  have hs : ∀ i, ∀ e ∈ (run i).history answer (cloud, owns i), ∀ x, About arnOf e.1 x →
      Zone arnOf (guids i) x := by
    rintro i e he x ⟨q, hq, hx⟩
    obtain ⟨r, hr⟩ := entry?_of_subject? hq
    have hend : CreateEnds service (requests i) _ _ _ :=
      createRun_ends answer (cloud, owns i) (requests i)
    exact hend.inZone (hl.namedFor (hdrawn i)) _ (List.mem_filterMap.mpr ⟨e, he, hr⟩) x hx
  have hstart : Fleet.Apart answer (fun i => Zone arnOf (guids i)) run cloud owns (fun _ => 0)
      start := Fleet.apart_start
  obtain ⟨hapart, hown⟩ := hstart.after hl.toLocal hz hs schedule
  simp only [Nat.zero_add] at hapart
  refine ⟨fun i => ⟨hown i, hapart.run i, fun hdone => ?_⟩,
    fun i => ⟨hs i, fun x hx => hl.toLocal.outside (hs i) hx⟩, hapart.outside,
    fun i j x hij hx => ?_⟩
  · have hend := Run.advance_of_length_le (p := (run i, (cloud, owns i))) hdone
    have hrun := hapart.run i
    have hinside := hapart.inside i
    rw [hend] at hrun hinside
    exact ⟨hrun, hinside⟩
  · exact (hapart.turn hl.toLocal hz hs j).2.2 x fun hj => hij (hz i j x hx hj)

end Service

/-! ## A run -/

namespace Simulation

/-- What exists after an entry, of contents that are given resource by resource. -/
def present (contents : Resource → Bool) (e : surroundings.Entry) (x : Resource) : Bool :=
  ((if contents x then Holdings.empty.add x else Holdings.empty).afterEntry e).has x

/-- The contents are shared, and the rest is answered from a world of one's own. -/
def alongside (w : (Resource → Bool) × World) (q : Timed Question) :
    surroundings.timed.Reply q × ((Resource → Bool) × World) :=
  ((w.2.answer q).1,
    (entries (I := surroundings) [⟨q, (w.2.answer q).1⟩]).foldl present w.1, (w.2.answer q).2)

/-- What exists of a resource depends on what existed of it, and on nothing else. -/
theorem present_congr {contents contents' : Resource → Bool} {x : Resource}
    (h : contents x = contents' x) (e : surroundings.Entry) :
    present contents e x = present contents' e x := by
  unfold present
  rw [h]

theorem present_of_not_concerned {contents : Resource → Bool} {e : surroundings.Entry}
    {x : Resource}
    (harn : ∀ name document arn', e = ⟨.amazon (.createPolicy name document), some (.ok arn')⟩ →
      arn' = arn "policy" name)
    (hx : x ∉ concerned (arn "policy") e.1) : present contents e x = contents x := by
  unfold present
  rw [has_afterEntry_of_not_concerned harn hx]
  cases contents x with
  | false => rfl
  | true => exact (Holdings.has_add ..).trans (by rw [decide_eq_true rfl, Bool.true_or])

/-- **Simulated contents are shared like those of real clouds.** -/
theorem actsLocally_alongside : ActsLocally (arn "policy") alongside where
  frame c o q x h := by
    cases q with
    | now => rfl
    | untimed p =>
      refine present_of_not_concerned (fun name document arn' he => ?_) fun hx => h ⟨p, rfl, hx⟩
      exact arn_of_mem_entries (w := o) (q := .untimed p) (List.mem_singleton.mpr he.symm)
    | before limit p =>
      refine present_of_not_concerned (fun name document arn' he => ?_) fun hx => h ⟨p, rfl, hx⟩
      exact arn_of_mem_entries (w := o) (q := .before limit p) (List.mem_singleton.mpr he.symm)
  agree c c' o q h := by
    refine ⟨rfl, rfl, fun x hx => ?_⟩
    cases q with
    | now => exact h x hx
    | untimed p => exact present_congr (h x hx) _
    | before limit p => exact present_congr (h x hx) _
  arn w q name document arn' h :=
    arn_of_mem_entries (List.mem_filterMap.mpr ⟨_, List.mem_cons_self, h⟩)
  injective name name' h := (String.append_right_inj _).mp h

end Simulation

namespace Service

/-- Two guids. -/
def pairGuids : Bool → String
  | true => "0123456789abcdef"
  | false => "fedcba9876543210"

/-- Two requests; the one has the guid of the other in its application's type. -/
def pair : Bool → Request.Create
  | true => { grant with applicationType := "/apps/billing-bucket-fedcba9876543210" }
  | false => grant

/-- The one is refused a binding, the other nothing. -/
def pairOwns : Bool → World
  | true => { refusing "attach_role_policy" with guids := [pairGuids true] }
  | false => { refusing "" with guids := [pairGuids false] }

/-- An account with a bucket in it. -/
def pairContents (x : Resource) : Bool := decide (x = .bucket "kept")

/-- They take turns. -/
def pairTurns : List Bool := (List.replicate 20 [true, false]).flatten

/-- Both requests at the start. -/
def pairStart : Fleet surroundings.timed Bool Application (Except Error Unit)
    ((Resource → Bool) × (Bool → World)) :=
  ⟨fun i => trial.createRun (pair i), (pairContents, pairOwns)⟩

/-- The one takes down what it has made while the other goes on. -/
theorem bucket_kept_beside_teardown :
    let later := pairStart.after (Fleet.sharing alongside) pairTurns
    (∃ t failure, later.runs true = .done t (.error failure)) ∧
      (∃ t, later.runs false = .done t (.ok ())) ∧
      later.world.1 (.bucket "redhat-billing-bucket-fedcba9876543210") = true := by
  have hshape : ∀ i, ∃ bytes : List UInt8, bytes.length = Guid.size ∧
      pairGuids i = Guid.ofBytes bytes := by
    intro i
    cases i with
    | true => exact ⟨[0x01, 0x23, 0x45, 0x67, 0x89, 0xab, 0xcd, 0xef], rfl, by decide +kernel⟩
    | false => exact ⟨[0xfe, 0xdc, 0xba, 0x98, 0x76, 0x54, 0x32, 0x10], rfl, by decide +kernel⟩
  have hdrawn : ∀ i (drawn : String), (⟨.guid, some drawn⟩ : surroundings.Entry) ∈
      (trial.createRun (pair i)).log alongside (pairContents, pairOwns i) →
        drawn = pairGuids i := by
    intro i drawn h
    have hguids : ((trial.createRun (pair i)).log alongside
        (pairContents, pairOwns i)).filterMap drawn? = [pairGuids i] := by
      cases i <;> decide +kernel
    have hmem : drawn ∈ [pairGuids i] := hguids ▸ List.mem_filterMap.mpr ⟨_, h, rfl⟩
    exact List.mem_singleton.mp hmem
  obtain ⟨hrequests, -⟩ := createRuns_apart actsLocally_alongside trial pair pairContents pairOwns
    pairGuids hshape (by decide +kernel) hdrawn pairTurns
  dsimp only [pairStart] at hrequests ⊢
  generalize Fleet.after (Fleet.sharing (I := surroundings.timed) alongside) _ pairTurns = later
    at hrequests ⊢
  -- both have had enough turns
  have henough : ∀ i, ((trial.createRun (pair i)).history alongside
      (pairContents, pairOwns i)).length ≤ pairTurns.count i := by
    intro i
    cases i <;> decide +kernel
  obtain ⟨-, -, hone⟩ := hrequests true
  obtain ⟨hone, -⟩ := hone (henough true)
  obtain ⟨-, -, hother⟩ := hrequests false
  obtain ⟨hother, hzone⟩ := hother (henough false)
  have hends : EndsWith (pairGuids false) "redhat-billing-bucket-fedcba9876543210" :=
    endsWith_append "redhat-billing-bucket-" _
  have hfails : ((trial.createRun (pair true)).exec alongside
      (pairContents, pairOwns true)).1.2.isOk = false := by decide +kernel
  have hsucceeds : ((trial.createRun (pair false)).exec alongside
      (pairContents, pairOwns false)).1.2.isOk = true := by decide +kernel
  refine ⟨?_, ?_, (hzone (.bucket _) hends).trans (by decide +kernel)⟩
  · generalize ((trial.createRun (pair true)).exec alongside
      (pairContents, pairOwns true)).1.2 = r at hone hfails
    cases r with
    | ok _ => cases hfails
    | error failure => exact ⟨_, failure, hone⟩
  · generalize ((trial.createRun (pair false)).exec alongside
      (pairContents, pairOwns false)).1.2 = r at hother hsucceeds
    cases r with
    | ok _ => exact ⟨_, hother⟩
    | error failure => cases hsucceeds

end Service

end CloudGrant
