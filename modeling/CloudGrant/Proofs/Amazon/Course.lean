import CloudGrant.Amazon.Provision
import CloudGrant.Proofs.Cloud.Blame

/-!
# The course of a step

Everything that carrying out one step can come to, at every point where it can stop: `Course` has
one constructor for each way, and `course_of_stops` says that there are no others. Proofs about
steps take a course apart and never look at the programs again.

A step makes one call, which its kind determines (`Making`), and what is answered is noted at once
(`outputs`). Only a bucket that asks for the reporting policy makes a second call, after it was
noted.
-/

namespace CloudGrant.Amazon

open Interface

/-- The call that makes the resource of a step of a kind. -/
inductive Making (step : Step) (a : Application) : Step.Kind → Call → Prop where
  | bucket : Making step a .bucket (.createBucket (nameOf a "bucket"))
  | policy :
      Making step a .policy (.createPolicy (nameOf a "policy") (filled step.payload step a))
  | role : Making step a .role (.createRole (nameOf a "role") (filled step.payload step a))
  | binding {role arn : String} (hr : a.record.output? Step.Kind.role.name "output" = some role)
      (hp : a.record.output? Step.Kind.policy.name "output" = some arn) :
      Making step a .binding (.attachRolePolicy role arn)
  | costReport {report : Report} (h : reportOf (filled step.payload step a) a.guid = .ok report) :
      Making step a .costReport (.putReport report)

/-- What is noted of a step once its call was answered. -/
def outputs : (c : Call) → c.Result → List (String × String)
  | .createBucket name, _ => [("output", name)]
  | .createPolicy .., arn => [("output", arn)]
  | .createRole name _, arn => [("output", name), ("arn", arn)]
  | .putReport report, _ => [("output", report.name)]
  | _, _ => []

/-- The application with a step noted as completed. -/
def noting (a : Application) (kind : Step.Kind) (c : Call) (r : c.Result) : Application :=
  { a with record := a.record.complete kind.name (Dict.ofList (outputs c r)) }

/-- The application once the bucket of a step was made. -/
def withBucket (a : Application) : Application :=
  noting a .bucket (.createBucket (nameOf a "bucket")) ()

/-- The call that attaches the reporting policy to the bucket that a step has made. -/
def attaching (step : Step) (a : Application) : Call :=
  .putBucketPolicy (nameOf a "bucket") (filled reportingPolicy step (withBucket a))

/-- Why a step is refused before it makes a call. -/
inductive Refuses (step : Step) (a : Application) : Error → Prop where
  | unknown (h : Step.Kind.ofName? step.name = none) : Refuses step a (.unknownStep step.name)
  | unbound (hn : Step.Kind.binding.name = step.name)
      (h : a.record.output? Step.Kind.role.name "output" = none ∨
        a.record.output? Step.Kind.policy.name "output" = none) :
      Refuses step a (.stepFailed Step.Kind.binding.name
        (Cause.of "binding requires completed \"role\" and \"policy\" steps"))
  | report {e : Error} (hn : Step.Kind.costReport.name = step.name)
      (h : reportOf (filled step.payload step a) a.guid = .error e) : Refuses step a e

/-- Where carrying out a step can stop: what was answered, the application then, and the stop. -/
inductive Course (step : Step) (a : Application) :
    List surroundings.Event → Application → Stop surroundings (Except Error Unit) → Prop where
  | refused {e : Error} (h : Refuses step a e) : Course step a [] a (.value (.error e))
  | asking {kind : Step.Kind} {c : Call} (hn : kind.name = step.name) (hc : Making step a kind c) :
      Course step a [] a (.question (.amazon c))
  | failed {kind : Step.Kind} {c : Call} (hn : kind.name = step.name) (hc : Making step a kind c)
      (cause : Cause) (context : String) :
      Course step a [⟨.amazon c, .error cause⟩] a
        (.value (.error (.stepFailed kind.name (cause.within context))))
  | made {kind : Step.Kind} {c : Call} (hn : kind.name = step.name) (hc : Making step a kind c)
      (r : c.Result) :
      Course step a [⟨.amazon c, .ok r⟩] (noting a kind c r) (.value (.ok ()))
  | attaching (hn : Step.Kind.bucket.name = step.name) (hp : step.payload = reportingPayload) :
      Course step a [⟨.amazon (.createBucket (nameOf a "bucket")), .ok ()⟩] (withBucket a)
        (.question (.amazon (attaching step a)))
  | unattached (hn : Step.Kind.bucket.name = step.name) (hp : step.payload = reportingPayload)
      (cause : Cause) (context : String) :
      Course step a
        [⟨.amazon (.createBucket (nameOf a "bucket")), .ok ()⟩,
          ⟨.amazon (attaching step a), .error cause⟩]
        (withBucket a) (.value (.error (.stepFailed Step.Kind.bucket.name (cause.within context))))
  | attached (hn : Step.Kind.bucket.name = step.name) (hp : step.payload = reportingPayload) :
      Course step a
        [ ⟨.amazon (.createBucket (nameOf a "bucket")), .ok ()⟩
        , ⟨.amazon (attaching step a), .ok ()⟩ ]
        (withBucket a) (.value (.ok ()))

variable {step : Step} {a t : Application} {l : List surroundings.Event}
  {x : Stop surroundings (Except Error Unit)}

/-! ## The course of each kind -/

theorem stops_attempt {kind : Step.Kind} {context : String} {c : Call}
    {x : Stop surroundings (Except Error c.Result)} (h : (attempt kind context c a).Stops l t x) :
    t = a ∧ ((l = [] ∧ x = .question (.amazon c)) ∨
      (∃ cause, l = [⟨.amazon c, .error cause⟩] ∧
        x = .value (.error (.stepFailed kind.name (cause.within context)))) ∨
      ∃ r, l = [⟨.amazon c, .ok r⟩] ∧ x = .value (.ok r)) := by
  rcases Program.stops_bind_iff.mp h with ⟨q, rfl, hq⟩ | ⟨l₁, l₂, u, reply, rfl, h₁, h₂⟩
  · obtain ⟨rfl, ⟨rfl, hx⟩ | ⟨r, rfl, hx⟩⟩ := Program.stops_ask_iff.mp hq
    · cases hx
      exact ⟨rfl, .inl ⟨rfl, rfl⟩⟩
    · cases hx
  · obtain ⟨rfl, ⟨rfl, hx⟩ | ⟨r, rfl, hx⟩⟩ := Program.stops_ask_iff.mp h₁
    · cases hx
    cases hx
    obtain ⟨rfl, rfl, rfl⟩ := Program.stops_pure_iff.mp h₂
    refine ⟨rfl, .inr ?_⟩
    cases reply with
    | error cause => exact .inl ⟨cause, rfl, rfl⟩
    | ok r => exact .inr ⟨r, rfl, rfl⟩

/-- A call fails, or its result is gone on with. -/
theorem stops_attempt_andThen {kind : Step.Kind} {context : String} {c : Call}
    {f : c.Result → Work (Except Error Unit)}
    (h : ((attempt kind context c).andThen f a).Stops l t x) :
    (l = [] ∧ t = a ∧ x = .question (.amazon c)) ∨
      (∃ cause, l = [⟨.amazon c, .error cause⟩] ∧ t = a ∧
        x = .value (.error (.stepFailed kind.name (cause.within context)))) ∨
      ∃ r l', l = ⟨.amazon c, .ok r⟩ :: l' ∧ (f r a).Stops l' t x := by
  rcases Program.stops_andThen_iff.mp h with
    ⟨q, rfl, hq⟩ | ⟨e, rfl, he⟩ | ⟨l₁, l₂, u, r, rfl, h₁, h₂⟩
  · obtain ⟨rfl, ⟨rfl, hx⟩ | ⟨_, _, hx⟩ | ⟨_, _, hx⟩⟩ := stops_attempt hq <;> cases hx
    exact .inl ⟨rfl, rfl, rfl⟩
  · obtain ⟨rfl, ⟨_, hx⟩ | ⟨cause, rfl, hx⟩ | ⟨_, _, hx⟩⟩ := stops_attempt he <;> cases hx
    exact .inr (.inl ⟨cause, rfl, rfl, rfl⟩)
  · obtain ⟨rfl, ⟨_, hx⟩ | ⟨_, _, hx⟩ | ⟨r', rfl, hx⟩⟩ := stops_attempt h₁ <;> cases hx
    exact .inr (.inr ⟨r, l₂, rfl, h₂⟩)

theorem stops_complete {kind : Step.Kind} {out : List (String × String)}
    (h : (complete kind out a).Stops l t x) :
    l = [] ∧ t = { a with record := a.record.complete kind.name (Dict.ofList out) } ∧
      x = .value (.ok ()) :=
  Run.stops_done_iff.mp h

/-- What is gone on with after a step is noted. -/
theorem stops_complete_andThen {kind : Step.Kind} {out : List (String × String)}
    {f : Unit → Work (Except Error Unit)} (h : ((complete kind out).andThen f a).Stops l t x) :
    (f () { a with record := a.record.complete kind.name (Dict.ofList out) }).Stops l t x := by
  rcases Program.stops_andThen_iff.mp h with
    ⟨q, rfl, hq⟩ | ⟨e, rfl, he⟩ | ⟨l₁, l₂, u, _, rfl, h₁, h₂⟩
  · obtain ⟨_, _, hx⟩ := stops_complete hq
    cases hx
  · obtain ⟨_, _, hx⟩ := stops_complete he
    cases hx
  · obtain ⟨rfl, rfl, -⟩ := stops_complete h₁
    exact h₂

/-- A call of a kind is attempted, and noted if it succeeds. -/
theorem course_of_attempt_complete {kind : Step.Kind} {context : String} {c : Call}
    (hn : kind.name = step.name) (hc : Making step a kind c)
    (h : ((attempt kind context c).andThen (fun r => complete kind (outputs c r)) a).Stops l t x) :
    Course step a l t x := by
  rcases stops_attempt_andThen h with ⟨rfl, rfl, rfl⟩ | ⟨cause, rfl, rfl, rfl⟩ | ⟨r, l', rfl, hnote⟩
  · exact .asking hn hc
  · exact .failed hn hc cause context
  · obtain ⟨rfl, rfl, rfl⟩ := stops_complete hnote
    exact .made hn hc r

theorem course_of_makeBucket (hn : Step.Kind.bucket.name = step.name)
    (h : (makeBucket step a).Stops l t x) : Course step a l t x := by
  rcases stops_attempt_andThen h with ⟨rfl, rfl, rfl⟩ | ⟨cause, rfl, rfl, rfl⟩ | ⟨_, l', rfl, hnote⟩
  · exact .asking hn .bucket
  · exact .failed hn .bucket cause _
  -- the bucket is noted before its policy is attached
  have hattach := stops_complete_andThen hnote
  by_cases hp : step.payload = reportingPayload
  · rw [if_pos hp] at hattach
    obtain ⟨rfl, ⟨rfl, rfl⟩ | ⟨cause, rfl, rfl⟩ | ⟨_, rfl, rfl⟩⟩ := stops_attempt hattach
    · exact .attaching hn hp
    · exact .unattached hn hp cause _
    · exact .attached hn hp
  · rw [if_neg hp] at hattach
    obtain ⟨rfl, rfl, rfl⟩ := Program.stops_pure_iff.mp hattach
    exact .made hn .bucket ()

theorem course_of_bindRole (hn : Step.Kind.binding.name = step.name)
    (h : (bindRole a).Stops l t x) : Course step a l t x := by
  unfold bindRole at h
  rw [Program.stops_get_bind_iff] at h
  cases hr : a.record.output? Step.Kind.role.name "output" with
  | none =>
    simp only [hr] at h
    obtain ⟨rfl, rfl, rfl⟩ := Program.stops_pure_iff.mp h
    exact .refused (.unbound hn (.inl hr))
  | some role =>
    cases hp : a.record.output? Step.Kind.policy.name "output" with
    | none =>
      simp only [hr, hp] at h
      obtain ⟨rfl, rfl, rfl⟩ := Program.stops_pure_iff.mp h
      exact .refused (.unbound hn (.inr hp))
    | some arn =>
      simp only [hr, hp] at h
      exact course_of_attempt_complete hn (.binding hr hp) h

theorem course_of_makeReport (hn : Step.Kind.costReport.name = step.name)
    (h : (makeReport step a).Stops l t x) : Course step a l t x := by
  unfold makeReport at h
  rw [Program.stops_get_bind_iff] at h
  cases hr : reportOf (filled step.payload step a) a.guid with
  | error e =>
    simp only [hr] at h
    obtain ⟨rfl, rfl, rfl⟩ := Program.stops_pure_iff.mp h
    exact .refused (.report hn hr)
  | ok report =>
    simp only [hr] at h
    exact course_of_attempt_complete hn (.costReport hr) h

/-- **A step can stop in no other way than its courses.** -/
theorem course_of_stops (h : (runStep step a).Stops l t x) : Course step a l t x := by
  unfold runStep at h
  cases hk : Step.Kind.ofName? step.name with
  | none =>
    simp only [hk] at h
    obtain ⟨rfl, rfl, rfl⟩ := Program.stops_pure_iff.mp h
    exact .refused (.unknown hk)
  | some kind =>
    have hn : kind.name = step.name := Step.Kind.ofName?_eq_some_iff.mp hk
    simp only [hk] at h
    cases kind with
    | bucket => exact course_of_makeBucket hn h
    | policy => exact course_of_attempt_complete hn .policy h
    | role => exact course_of_attempt_complete hn .role h
    | binding => exact course_of_bindRole hn h
    | costReport => exact course_of_makeReport hn h

/-- A step touches nothing of the application but its record. -/
theorem Course.frame (h : Course step a l t x) : t = { a with record := t.record } := by
  cases h <;> rfl

theorem frame_runSteps {steps : List Step} (h : (runSteps steps a).Stops l t x) :
    t = { a with record := t.record } := by
  induction steps generalizing a l with
  | nil =>
    obtain ⟨-, rfl, -⟩ := Program.stops_pure_iff.mp h
    rfl
  | cons step steps ih =>
    rcases Program.stops_andThen_iff.mp h with
      ⟨q, rfl, hq⟩ | ⟨e, rfl, he⟩ | ⟨l₁, l₂, u, _, rfl, h₁, h₂⟩
    · exact (course_of_stops hq).frame
    · exact (course_of_stops he).frame
    · rw [ih h₂, (course_of_stops h₁).frame]

/-- A call that makes something, or attaches something to it. -/
def IsMaking (q : Question) : Prop := ∃ c : Call, q = .amazon c ∧ c.removes = false

theorem IsMaking.isForging {q : Question} (h : IsMaking q) : q.IsForging := by
  obtain ⟨c, rfl, hc⟩ := h
  exact ⟨rfl, hc⟩

theorem Making.isMaking {kind : Step.Kind} {c : Call} (h : Making step a kind c) :
    IsMaking (.amazon c) := by
  cases h <;> exact ⟨_, rfl, rfl⟩

theorem Course.isMaking (h : Course step a l t x) :
    (∀ e ∈ l, IsMaking e.1) ∧ ∀ q, x = .question q → IsMaking q := by
  have hmake : IsMaking (.amazon (.createBucket (nameOf a "bucket"))) := ⟨_, rfl, rfl⟩
  have hattach : IsMaking (.amazon (Amazon.attaching step a)) := ⟨_, rfl, rfl⟩
  cases h with
  | refused _ => exact ⟨by simp, by simp⟩
  | asking _ hc => exact ⟨by simp, fun q hq => by cases hq; exact hc.isMaking⟩
  | failed _ hc _ _ => exact ⟨by simpa using hc.isMaking, by simp⟩
  | made _ hc _ => exact ⟨by simpa using hc.isMaking, by simp⟩
  | attaching _ _ => exact ⟨by simpa using hmake, fun q hq => by cases hq; exact hattach⟩
  | unattached _ _ _ _ => exact ⟨by simpa using ⟨hmake, hattach⟩, by simp⟩
  | attached _ _ => exact ⟨by simpa using ⟨hmake, hattach⟩, by simp⟩

theorem asks_runStep : (runStep step).Asks IsMaking := fun _ _ _ _ h =>
  (course_of_stops h).isMaking

theorem asks_runSteps {steps : List Step} : (runSteps steps).Asks IsMaking := by
  induction steps with
  | nil => exact Program.asks_pure _
  | cons step steps ih => exact Program.asks_andThen asks_runStep fun _ => ih

/-- To make resources nothing is ever removed. -/
theorem asks_provision : provision.Asks IsMaking := by
  refine Program.asks_bind Program.asks_get fun a => ?_
  refine Program.asks_andThen asks_runSteps fun _ => ?_
  exact Program.asks_bind (Program.asks_modify _) fun _ => Program.asks_pure _

/-- A step returns what its call was answered, or a refusal. -/
theorem Course.accounts {r : Except Error Unit} (h : Course step a l t (.value r)) :
    Accounts id (Refuses step a) (l.map Event.entry) r := by
  have hbucket : Clean [Event.entry ⟨.amazon (.createBucket (nameOf a "bucket")), .ok ()⟩] :=
    clean_singleton rfl
  cases h with
  | refused h => exact .refused clean_nil h
  | failed hn hc cause context => exact .failed clean_nil (.amazon _ cause _ context)
  | made hn hc r => exact clean_singleton rfl
  | unattached hn hp cause context => exact .failed hbucket (.amazon _ cause .bucket context)
  | attached hn hp => exact clean_append.mpr ⟨hbucket, clean_singleton rfl⟩

/-- Carrying out steps returns the first failure, or the first refusal. -/
theorem accounts_runSteps {steps : List Step} {r : Except Error Unit}
    (h : (runSteps steps a).Stops l t (.value r)) :
    Accounts id
      (fun e => ∃ step ∈ steps, ∃ b : Application, b.request = a.request ∧ Refuses step b e)
      (l.map Event.entry) r := by
  induction steps generalizing a l with
  | nil =>
    obtain ⟨rfl, -, rfl⟩ := Program.stops_pure_value_iff.mp h
    exact clean_nil
  | cons step steps ih =>
    rcases Program.stops_andThen_iff.mp h with
      ⟨_, hx, -⟩ | ⟨e, hx, he⟩ | ⟨l₁, l₂, u, _, rfl, h₁, h₂⟩
    · cases hx
    · cases hx
      refine Blames.mono (course_of_stops he).accounts fun e' he' => ?_
      exact ⟨step, List.mem_cons_self, a, rfl, he'⟩
    · have hu : u.request = a.request := by rw [(course_of_stops h₁).frame]
      have hrest := ih h₂
      rw [List.map_append]
      refine Accounts.append_left (course_of_stops h₁).accounts (hrest.mono ?_)
      rintro e ⟨step', hs, b, hb, hr⟩
      exact ⟨step', List.mem_cons_of_mem _ hs, b, hb.trans hu, hr⟩

/-- All steps of the request are carried out, and then the product is finished. -/
theorem stops_provision (h : (provision a).Stops l t x) :
    ((runSteps a.request.steps a).Stops l t x ∧ x ≠ .value (.ok ())) ∨
      x = .value (.ok ()) ∧ ∃ u, (runSteps a.request.steps a).Stops l u (.value (.ok ())) ∧
        t = u.finish ((u.record.output? Step.Kind.role.name "arn").getD "") := by
  unfold provision at h
  rw [Program.stops_get_bind_iff] at h
  rcases Program.stops_andThen_iff.mp h with
    ⟨q, rfl, hq⟩ | ⟨e, rfl, he⟩ | ⟨l₁, l₂, u, _, rfl, h₁, h₂⟩
  · exact .inl ⟨hq, by simp⟩
  · exact .inl ⟨he, by simp⟩
  · obtain ⟨rfl, rfl, rfl⟩ := Run.stops_done_iff.mp h₂
    rw [List.append_nil]
    exact .inr ⟨rfl, u, h₁, rfl⟩

/-- Making resources touches nothing of the application but its record and its product. -/
theorem frame_provision (h : (provision a).Stops l t x) :
    t = { a with record := t.record, product := t.product } := by
  rcases stops_provision h with ⟨hs, -⟩ | ⟨-, u, hs, rfl⟩
  · rw [frame_runSteps hs]
  · rw [frame_runSteps hs]
    rfl

theorem accounts_provision {r : Except Error Unit} (h : (provision a).Stops l t (.value r)) :
    Accounts id
      (fun e => ∃ step ∈ a.request.steps, ∃ b : Application,
        b.request = a.request ∧ Refuses step b e)
      (l.map Event.entry) r := by
  rcases stops_provision h with ⟨hs, -⟩ | ⟨hx, u, hs, -⟩
  · exact accounts_runSteps hs
  · cases hx
    exact accounts_runSteps hs

/-- When all steps are done the product is finished. -/
theorem finished_of_ok (h : (provision a).Stops l t (.value (.ok ()))) :
    ∃ username, t.product = some (t.productFor username) := by
  rcases stops_provision h with ⟨-, hx⟩ | ⟨-, u, -, rfl⟩
  · exact absurd rfl hx
  · exact ⟨_, rfl⟩

end CloudGrant.Amazon
