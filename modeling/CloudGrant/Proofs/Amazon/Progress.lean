import CloudGrant.Proofs.Amazon.Ledger
import CloudGrant.Proofs.Run.Ignoring

/-!
# How far the steps of a request get

The calls of a step are known before the first of them is made (`callsOf`): they depend on what is
recorded of the steps before it and on nothing else that has happened. They are made one after another
until one fails (`Made`), and each that succeeds is recorded at once (`noted`), so that the record can
be read off what was answered.

One step makes its calls and fails with the first that fails (`carried_of_stops`). By induction a list
of steps makes the calls of all steps before the first that fails, and those of that step up to the one
that failed (`carried_of_runSteps`). The numbers of the steps play no part (`provision_renumbered`).
-/

namespace CloudGrant.Amazon

open Interface

/-! ## The calls of a step -/

/-- The calls of a step, or why it makes none. Only names and texts of the request matter, and what is
recorded of earlier steps; the policy of a bucket may name the bucket that was just made. -/
def callsOf (request : Request.Create) (guid : String) (record : Record) (step : Step) :
    Except Error (List Call) :=
  let named (kind : String) : String := Naming.resource request.applicationType kind guid
  let filled (template : String) (record : Record) : String :=
    substitute template step.substitutions request record
  match step.name with
  | "s3" =>
    .ok (.createBucket (named "bucket") ::
      if step.payload = reportingPayload then
        [.putBucketPolicy (named "bucket")
          (filled reportingPolicy
            (record.complete "s3" (Dict.ofList [("output", named "bucket")])))]
      else [])
  | "policy" => .ok [.createPolicy (named "policy") (filled step.payload record)]
  | "role" => .ok [.createRole (named "role") (filled step.payload record)]
  | "bind_role" =>
    match record.output? "role" "output", record.output? "policy" "output" with
    | some role, some arn => .ok [.attachRolePolicy role arn]
    | _, _ =>
      .error (.stepFailed "bind_role"
        (Cause.of "binding requires completed \"role\" and \"policy\" steps"))
  | "cost_report" =>
    match Json.decode Wire.report (Text.Utf8.encode (filled step.payload record)) with
    | .ok report => .ok [.putReport { report with name := report.name ++ "-" ++ guid }]
    | .error e =>
      .error (.stepFailed "cost_report" ((Cause.of e.message).within
        ("failed to build cost report with payload \"" ++ filled step.payload record ++ "\"")))
  | name => .error (.unknownStep name)

/-- What a call was made for, as its failure says; to remove something is no part of a step. -/
def purpose : Call → String
  | .createBucket name => "failed to create S3 bucket \"" ++ name ++ "\""
  | .putBucketPolicy name _ => "failed to attach bucket policy to S3 bucket \"" ++ name ++ "\""
  | .createPolicy name _ => "failed to create policy \"" ++ name ++ "\""
  | .createRole name _ => "failed to create role \"" ++ name ++ "\""
  | .attachRolePolicy role arn =>
    "failed to bind policy \"" ++ arn ++ "\" to role \"" ++ role ++ "\""
  | .putReport report => "failed to create cost and usage report \"" ++ report.name ++ "\""
  | _ => ""

/-- The record after one more event: what a call has made is recorded under the name of its step. -/
def noted (record : Record) : surroundings.Event → Record
  | ⟨.amazon (.createBucket name), .ok _⟩ =>
    record.complete "s3" (Dict.ofList [("output", name)])
  | ⟨.amazon (.createPolicy ..), .ok arn⟩ =>
    record.complete "policy" (Dict.ofList [("output", arn)])
  | ⟨.amazon (.createRole name _), .ok arn⟩ =>
    record.complete "role" (Dict.ofList [("output", name), ("arn", arn)])
  | ⟨.amazon (.attachRolePolicy ..), .ok _⟩ => record.complete "bind_role" Dict.empty
  | ⟨.amazon (.putReport report), .ok _⟩ =>
    record.complete "cost_report" (Dict.ofList [("output", report.name)])
  | _ => record

/-- Calls that are made one after another until one fails, with that call and its cause. -/
inductive Made : List Call → List surroundings.Event → Option (Call × Cause) → Prop where
  | nil : Made [] [] none
  | failed (c : Call) (calls : List Call) (cause : Cause) :
      Made (c :: calls) [⟨.amazon c, .error cause⟩] (some (c, cause))
  | succeeded {c : Call} {calls : List Call} {l : List surroundings.Event}
      {x : Option (Call × Cause)} (r : c.Result) (h : Made calls l x) :
      Made (c :: calls) (⟨.amazon c, .ok r⟩ :: l) x

/-- What carrying out a step comes to. -/
inductive Carried (request : Request.Create) (guid : String) (record : Record) (step : Step) :
    List surroundings.Event → Except Error Unit → Prop where
  | refused {e : Error} (h : callsOf request guid record step = .error e) :
      Carried request guid record step [] (.error e)
  | failed {calls : List Call} {l : List surroundings.Event} {c : Call} {cause : Cause}
      (h : callsOf request guid record step = .ok calls) (hm : Made calls l (some (c, cause))) :
      Carried request guid record step l
        (.error (.stepFailed step.name (cause.within (purpose c))))
  | completed {calls : List Call} {l : List surroundings.Event}
      (h : callsOf request guid record step = .ok calls) (hm : Made calls l none) :
      Carried request guid record step l (.ok ())

/-- Steps that were all carried out, each with the record that those before it have left. -/
inductive Completed (request : Request.Create) (guid : String) :
    List Step → Record → List surroundings.Event → Prop where
  | nil (record : Record) : Completed request guid [] record []
  | cons {step : Step} {steps : List Step} {record : Record} {l l' : List surroundings.Event}
      (h : Carried request guid record step l (.ok ()))
      (hs : Completed request guid steps (l.foldl noted record) l') :
      Completed request guid (step :: steps) record (l ++ l')

variable {step : Step} {steps : List Step} {a t : Application} {l : List surroundings.Event}
  {r : Except Error Unit} {kind : Step.Kind} {c : Call}

/-! ## One step -/

/-- A call that failed leaves nothing to record. -/
theorem noted_error {record : Record} {cause : Cause} :
    noted record ⟨.amazon c, .error cause⟩ = record := by
  cases c <;> rfl

/-- A call that is made for a step alone, and is recorded if it succeeds. -/
theorem carried_of_attempt (hn : kind.name = step.name)
    (hc : callsOf a.request a.guid a.record step = .ok [c]) {out : c.Result → List (String × String)}
    (hout : ∀ r, noted a.record ⟨.amazon c, .ok r⟩ = a.record.complete kind.name (Dict.ofList (out r)))
    (h : ((attempt kind (purpose c) c).andThen (fun r => complete kind (out r)) a).Stops l t
      (.value r)) :
    Carried a.request a.guid a.record step l r ∧ t = { a with record := l.foldl noted a.record } := by
  rcases stops_attempt_andThen h with ⟨-, -, hx⟩ | ⟨cause, rfl, rfl, hx⟩ | ⟨reply, l', rfl, hnote⟩
  · cases hx
  · cases hx
    rw [hn, List.foldl_cons, List.foldl_nil, noted_error]
    exact ⟨.failed hc (.failed c [] cause), rfl⟩
  · obtain ⟨rfl, rfl, hx⟩ := stops_complete hnote
    cases hx
    rw [List.foldl_cons, List.foldl_nil, hout reply]
    exact ⟨.completed hc (.succeeded reply .nil), rfl⟩

theorem carried_of_makeBucket (hn : Step.Kind.bucket.name = step.name)
    (h : (makeBucket step a).Stops l t (.value r)) :
    Carried a.request a.guid a.record step l r ∧ t = { a with record := l.foldl noted a.record } := by
  have hc : callsOf a.request a.guid a.record step = .ok (.createBucket (nameOf a "bucket") ::
      if step.payload = reportingPayload then [attaching step a] else []) := by
    unfold callsOf
    rw [← hn]
    rfl
  rcases stops_attempt_andThen h with ⟨-, -, hx⟩ | ⟨cause, rfl, rfl, hx⟩ | ⟨made, l', rfl, hnote⟩
  · cases hx
  · cases hx
    rw [hn]
    exact ⟨.failed hc (.failed _ _ cause), rfl⟩
  -- the bucket is recorded, whether or not its policy can be attached
  have hattach := stops_complete_andThen hnote
  by_cases hp : step.payload = reportingPayload
  · rw [if_pos hp] at hattach hc
    obtain ⟨rfl, ⟨-, hx⟩ | ⟨cause, rfl, hx⟩ | ⟨attached, rfl, hx⟩⟩ := stops_attempt hattach
    · cases hx
    · cases hx
      have hfailed := Carried.failed hc (.succeeded made (.failed (attaching step a) [] cause))
      rw [← hn] at hfailed
      exact ⟨hfailed, rfl⟩
    · cases hx
      exact ⟨.completed hc (.succeeded made (.succeeded attached .nil)), rfl⟩
  · rw [if_neg hp] at hattach hc
    obtain ⟨rfl, rfl, hx⟩ := Program.stops_pure_iff.mp hattach
    cases hx
    exact ⟨.completed hc (.succeeded made .nil), rfl⟩

theorem carried_of_bindRole (hn : Step.Kind.binding.name = step.name)
    (h : (bindRole a).Stops l t (.value r)) :
    Carried a.request a.guid a.record step l r ∧ t = { a with record := l.foldl noted a.record } := by
  have hc : callsOf a.request a.guid a.record step =
      match a.record.output? Step.Kind.role.name "output",
        a.record.output? Step.Kind.policy.name "output" with
      | some role, some arn => .ok [.attachRolePolicy role arn]
      | _, _ => .error (.stepFailed Step.Kind.binding.name
          (Cause.of "binding requires completed \"role\" and \"policy\" steps")) := by
    unfold callsOf
    rw [← hn]
    rfl
  unfold bindRole at h
  rw [Program.stops_get_bind_iff] at h
  cases hr : a.record.output? Step.Kind.role.name "output" with
  | none =>
    simp only [hr] at h hc
    obtain ⟨rfl, rfl, hx⟩ := Program.stops_pure_iff.mp h
    cases hx
    exact ⟨.refused hc, rfl⟩
  | some role =>
    cases hp : a.record.output? Step.Kind.policy.name "output" with
    | none =>
      simp only [hr, hp] at h hc
      obtain ⟨rfl, rfl, hx⟩ := Program.stops_pure_iff.mp h
      cases hx
      exact ⟨.refused hc, rfl⟩
    | some arn =>
      simp only [hr, hp] at h hc
      exact carried_of_attempt hn hc (fun _ => rfl) h

theorem carried_of_makeReport (hn : Step.Kind.costReport.name = step.name)
    (h : (makeReport step a).Stops l t (.value r)) :
    Carried a.request a.guid a.record step l r ∧ t = { a with record := l.foldl noted a.record } := by
  have hc : callsOf a.request a.guid a.record step =
      (reportOf (filled step.payload step a) a.guid).map fun report => [.putReport report] := by
    unfold callsOf reportOf filled
    rw [← hn]
    dsimp only [Step.Kind.name]
    cases Json.decode Wire.report
      (Text.Utf8.encode (substitute step.payload step.substitutions a.request a.record)) <;> rfl
  unfold makeReport at h
  rw [Program.stops_get_bind_iff] at h
  cases hr : reportOf (filled step.payload step a) a.guid with
  | error e =>
    simp only [hr] at h hc
    obtain ⟨rfl, rfl, hx⟩ := Program.stops_pure_iff.mp h
    cases hx
    exact ⟨.refused hc, rfl⟩
  | ok report =>
    simp only [hr] at h hc
    exact carried_of_attempt hn hc (fun _ => rfl) h

/-- A step of another name is refused. -/
theorem callsOf_of_unknown {request : Request.Create} {guid : String} {record : Record}
    (h : Step.Kind.ofName? step.name = none) :
    callsOf request guid record step = .error (.unknownStep step.name) := by
  have hne : ∀ k : Step.Kind, step.name ≠ k.name := by
    intro k hk
    rw [hk, Step.Kind.ofName?_name] at h
    cases h
  unfold callsOf
  split
  · next hn => exact absurd hn (hne .bucket)
  · next hn => exact absurd hn (hne .policy)
  · next hn => exact absurd hn (hne .role)
  · next hn => exact absurd hn (hne .binding)
  · next hn => exact absurd hn (hne .costReport)
  · rfl

/-- **A step makes its calls until one fails**, and records what they have made. -/
theorem carried_of_stops (h : (runStep step a).Stops l t (.value r)) :
    Carried a.request a.guid a.record step l r ∧ t = { a with record := l.foldl noted a.record } := by
  unfold runStep at h
  cases hk : Step.Kind.ofName? step.name with
  | none =>
    simp only [hk] at h
    obtain ⟨rfl, rfl, hx⟩ := Program.stops_pure_iff.mp h
    cases hx
    exact ⟨.refused (callsOf_of_unknown hk), rfl⟩
  | some kind =>
    have hn : kind.name = step.name := Step.Kind.ofName?_eq_some_iff.mp hk
    simp only [hk] at h
    cases kind with
    | bucket => exact carried_of_makeBucket hn h
    | policy | role =>
      refine carried_of_attempt hn ?_ (fun _ => rfl) h
      unfold callsOf
      rw [← hn]
      rfl
    | binding => exact carried_of_bindRole hn h
    | costReport => exact carried_of_makeReport hn h

/-! ## What a step leaves in the record -/

/-- The bucket of an application was made. -/
def MadeBucket (request : Request.Create) (guid : String) (l : List surroundings.Event) : Prop :=
  ⟨.amazon (.createBucket (Naming.resource request.applicationType "bucket" guid)), .ok ()⟩ ∈ l

/-- The step that a call is recorded under. -/
def recordedUnder? : Call → Option String
  | .createBucket _ => some "s3"
  | .createPolicy .. => some "policy"
  | .createRole .. => some "role"
  | .attachRolePolicy .. => some "bind_role"
  | .putReport _ => some "cost_report"
  | _ => none

theorem has_noted {record : Record} {answered : c.Result} {name : String} :
    (noted record ⟨.amazon c, .ok answered⟩).has name = true ↔
      recordedUnder? c = some name ∨ record.has name = true := by
  have hcomplete : ∀ {step : String} {o : Outputs}, (record.complete step o).has name = true ↔
      some step = some name ∨ record.has name = true := by
    intro step o
    rw [has_complete, Bool.or_eq_true, decide_eq_true_iff, Option.some.injEq, eq_comm]
  cases c with
  | createBucket _ | createPolicy _ _ | createRole _ _ | attachRolePolicy _ _ | putReport _ =>
    exact hcomplete
  | _ => exact (or_iff_right nofun).symm

variable {request : Request.Create} {guid : String} {record : Record} {calls : List Call}

/-- Of which form the calls of a step are: one that is recorded under its name, or two for a bucket and
its policy, of which the first is. -/
inductive Fitting (request : Request.Create) (guid : String) (step : Step) : List Call → Prop where
  | single {c : Call} (h : recordedUnder? c = some step.name) : Fitting request guid step [c]
  | bucket (bucket document : String) (hn : step.name = "s3") :
      Fitting request guid step
        [ .createBucket (Naming.resource request.applicationType "bucket" guid)
        , .putBucketPolicy bucket document ]

theorem fitting_of_callsOf (h : callsOf request guid record step = .ok calls) :
    Fitting request guid step calls := by
  unfold callsOf at h
  dsimp only at h
  split at h
  · next hn =>
    cases h
    by_cases hp : step.payload = reportingPayload
    · rw [if_pos hp]
      exact .bucket _ _ hn
    · rw [if_neg hp]
      exact .single (congrArg some hn.symm)
  · next hn =>
    cases h
    exact .single (congrArg some hn.symm)
  · next hn =>
    cases h
    exact .single (congrArg some hn.symm)
  · next hn =>
    split at h
    · cases h
      exact .single (congrArg some hn.symm)
    · cases h
  · next hn =>
    split at h
    · cases h
      exact .single (congrArg some hn.symm)
    · cases h
  · cases h

/-- A call that is recorded under the name of a step adds that name. -/
theorem has_noted_of_step (h : recordedUnder? c = some step.name) (answered : c.Result)
    {name : String} :
    (noted record ⟨.amazon c, .ok answered⟩).has name = true ↔
      record.has name = true ∨ name = step.name := by
  rw [has_noted, h, Option.some.injEq, eq_comm, or_comm]

theorem recordedUnder?_createBucket {bucket : String} (hn : step.name = "s3") :
    recordedUnder? (.createBucket bucket) = some step.name := congrArg some hn.symm

/-- A step that was carried out is in the record, beside what was there before. -/
theorem Carried.has_of_ok (h : Carried request guid record step l (.ok ())) {name : String} :
    (l.foldl noted record).has name = true ↔ record.has name = true ∨ name = step.name := by
  cases h with
  | completed hc hm =>
    cases fitting_of_callsOf hc with
    | single hstep =>
      obtain _ | _ | ⟨answered, ⟨⟩⟩ := hm
      exact has_noted_of_step hstep answered
    | bucket bucket document hn =>
      -- that its policy was attached is not recorded
      obtain _ | _ | ⟨made, _ | _ | ⟨_, ⟨⟩⟩⟩ := hm
      exact has_noted_of_step (recordedUnder?_createBucket hn) made

/-- Of a step that failed nothing is in the record but a bucket that was made. -/
theorem Carried.has_of_error {e : Error} (h : Carried request guid record step l (.error e))
    {name : String} :
    (l.foldl noted record).has name = true ↔ record.has name = true ∨
      name = "s3" ∧ step.name = "s3" ∧ MadeBucket request guid l := by
  have hfailed : ∀ (c : Call) (cause : Cause),
      ([⟨.amazon c, .error cause⟩].foldl noted record).has name = true ↔ record.has name = true ∨
        name = "s3" ∧ step.name = "s3" ∧ MadeBucket request guid [⟨.amazon c, .error cause⟩] := by
    intro c cause
    rw [List.foldl_cons, List.foldl_nil, noted_error]
    refine ⟨.inl, ?_⟩
    rintro (hrecord | ⟨-, -, hmade⟩)
    · exact hrecord
    · cases List.mem_singleton.mp hmade
  cases h with
  | refused _ => simp [MadeBucket]
  | failed hc hm =>
    cases fitting_of_callsOf hc with
    | single hstep =>
      cases hm with
      | failed _ _ _ => exact hfailed _ _
      | succeeded _ hm => cases hm
    | bucket bucket document hn =>
      cases hm with
      | failed _ _ _ => exact hfailed _ _
      | succeeded answered hm =>
        cases hm with
        | failed _ _ cause =>
          rw [List.foldl_cons, List.foldl_cons, List.foldl_nil, noted_error,
            has_noted_of_step (recordedUnder?_createBucket hn), hn]
          simp [MadeBucket]
        | succeeded _ hm => cases hm

/-- The steps that were carried out are in the record, beside what was there before. -/
theorem Completed.has_iff (h : Completed request guid steps record l) {name : String} :
    (l.foldl noted record).has name = true ↔
      record.has name = true ∨ name ∈ steps.map Step.name := by
  induction h with
  | nil record => simp
  | cons hfirst _ ih =>
    rw [List.foldl_append, ih, hfirst.has_of_ok, List.map_cons, List.mem_cons, or_assoc]

/-! ## A list of steps -/

/-- **Steps are carried out up to the first that fails**, and what they made is recorded. -/
theorem carried_of_runSteps (h : (runSteps steps a).Stops l t (.value r)) :
    t = { a with record := l.foldl noted a.record } ∧
      (r = .ok () ∧ Completed a.request a.guid steps a.record l ∨
        ∃ before step after l₁ l₂ e, steps = before ++ step :: after ∧ l = l₁ ++ l₂ ∧
          r = .error e ∧ Completed a.request a.guid before a.record l₁ ∧
          Carried a.request a.guid (l₁.foldl noted a.record) step l₂ (.error e)) := by
  induction steps generalizing a l with
  | nil =>
    obtain ⟨rfl, rfl, rfl⟩ := Program.stops_pure_value_iff.mp h
    exact ⟨rfl, .inl ⟨rfl, .nil _⟩⟩
  | cons step steps ih =>
    rcases Program.stops_andThen_iff.mp h with
      ⟨_, hx, -⟩ | ⟨e, hx, he⟩ | ⟨l₁, l₂, u, _, rfl, h₁, h₂⟩
    · cases hx
    · cases hx
      obtain ⟨hcarried, ht⟩ := carried_of_stops he
      exact ⟨ht, .inr ⟨[], step, steps, [], l, e, rfl, rfl, rfl, .nil _, hcarried⟩⟩
    · obtain ⟨hfirst, rfl⟩ := carried_of_stops h₁
      obtain ⟨rfl, hrest⟩ := ih h₂
      rw [List.foldl_append]
      refine ⟨rfl, ?_⟩
      rcases hrest with ⟨rfl, hall⟩ | ⟨before, failing, after, m₁, m₂, e, rfl, rfl, rfl, hb, hf⟩
      · exact .inl ⟨rfl, .cons hfirst hall⟩
      · refine .inr ⟨step :: before, failing, after, l₁ ++ m₁, m₂, e, rfl,
          (List.append_assoc ..).symm, rfl, .cons hfirst hb, ?_⟩
        rw [List.foldl_append]
        exact hf

/-! ## The numbers of steps -/

/-- A step without its number. -/
def unnumbered (step : Step) : Step := { step with order := 0 }

/-- An application whose request lists other steps. -/
def withSteps (steps : List Step) (a : Application) : Application :=
  { a with request := { a.request with steps := steps } }

/-- Steps that differ in their numbers alone are carried out alike. -/
theorem runSteps_unnumbered : runSteps (steps.map unnumbered) = runSteps steps := by
  induction steps with
  | nil => rfl
  | cons step steps ih =>
    have hstep : runStep (unnumbered step) = runStep step := rfl
    rw [List.map_cons, runSteps, runSteps, hstep, ih]

variable {f : Application → Application}

theorem ignores_attempt {context : String} : (attempt kind context c).Ignores f :=
  Program.ignores_bind (Program.ignores_ask _) fun _ => Program.ignores_pure _

/-- To carry out a step its request is not asked for the list of all steps. -/
theorem ignores_runStep {others : List Step} : (runStep step).Ignores (withSteps others) := by
  have hcomplete : ∀ kind out, (complete kind out).Ignores (withSteps others) := fun kind out =>
    Program.ignores_bind (Program.ignores_modify fun _ => rfl) fun _ => Program.ignores_pure _
  unfold runStep
  cases Step.Kind.ofName? step.name with
  | none => exact Program.ignores_pure _
  | some kind =>
    cases kind with
    | bucket =>
      refine Program.ignores_get_bind (fun a => ?_) fun _ => rfl
      refine Program.ignores_andThen ignores_attempt fun _ => ?_
      refine Program.ignores_andThen (hcomplete _ _) fun _ => ?_
      split
      · exact Program.ignores_get_bind (fun _ => ignores_attempt) fun _ => rfl
      · exact Program.ignores_pure _
    | policy | role =>
      refine Program.ignores_get_bind (fun a => ?_) fun _ => rfl
      exact Program.ignores_andThen ignores_attempt fun _ => hcomplete _ _
    | binding =>
      refine Program.ignores_get_bind (fun a => ?_) fun _ => rfl
      split
      · exact Program.ignores_andThen ignores_attempt fun _ => hcomplete _ _
      · exact Program.ignores_pure _
    | costReport =>
      refine Program.ignores_get_bind (fun a => ?_) fun _ => rfl
      split
      · exact Program.ignores_pure _
      · exact Program.ignores_andThen ignores_attempt fun _ => hcomplete _ _

theorem ignores_runSteps {others : List Step} : (runSteps steps).Ignores (withSteps others) := by
  induction steps with
  | nil => exact Program.ignores_pure _
  | cons step steps ih => exact Program.ignores_andThen ignores_runStep fun _ => ih

/-- Renumbering the steps of a request changes nothing about how they are carried out. -/
theorem provision_renumbered {others : List Step}
    (h : others.map unnumbered = a.request.steps.map unnumbered) :
    provision (withSteps others a) = (provision a).mapState (withSteps others) := by
  have hsteps : runSteps others = runSteps a.request.steps := by
    rw [← runSteps_unnumbered, h, runSteps_unnumbered]
  have hfinish : Program.Ignores (withSteps others)
      (Program.andThen (runSteps a.request.steps) fun _ => do
        Program.modify fun a => a.finish ((a.record.output? Step.Kind.role.name "arn").getD "")
        pure (.ok ())) := by
    refine Program.ignores_andThen ignores_runSteps fun _ => ?_
    exact Program.ignores_bind (Program.ignores_modify fun _ => rfl) fun _ => Program.ignores_pure _
  unfold provision
  rw [Program.get_bind, Program.get_bind]
  show Program.andThen (runSteps others) _ _ = _
  rw [hsteps]
  exact hfinish a

/-! ## Making the resources of a request -/

/-- How far an application got with the steps of its request. Either all were carried out, and it has
its product; or the first that failed ended it, of which nothing is recorded but a bucket that was made
before its policy could not be attached. -/
inductive Reached (a t : Application) : List surroundings.Event → Except Error Unit → Prop where
  | finished {l : List surroundings.Event}
      (completed : Completed a.request a.guid a.request.steps a.record l)
      (names : ∀ name, t.record.has name = true ↔
        a.record.has name = true ∨ name ∈ a.request.steps.map Step.name)
      (product : t.product = some (t.productFor ((t.record.output? "role" "arn").getD ""))) :
      Reached a t l (.ok ())
  | failed {before after : List Step} {step : Step} {l₁ l₂ : List surroundings.Event} {e : Error}
      (steps : a.request.steps = before ++ step :: after)
      (completed : Completed a.request a.guid before a.record l₁)
      (carried : Carried a.request a.guid (l₁.foldl noted a.record) step l₂ (.error e))
      (names : ∀ name, t.record.has name = true ↔
        a.record.has name = true ∨ name ∈ before.map Step.name ∨
          name = "s3" ∧ step.name = "s3" ∧ MadeBucket a.request a.guid l₂)
      (product : t.product = a.product) :
      Reached a t (l₁ ++ l₂) (.error e)

theorem reached_of_stops (h : (provision a).Stops l t (.value r)) :
    t = { a with record := l.foldl noted a.record, product := t.product } ∧ Reached a t l r := by
  rcases stops_provision h with ⟨hs, hx⟩ | ⟨hx, u, hs, rfl⟩
  · obtain ⟨rfl, ⟨rfl, -⟩ | ⟨before, step, after, l₁, l₂, e, hsteps, rfl, rfl, hb, hf⟩⟩ :=
      carried_of_runSteps hs
    · exact absurd rfl hx
    refine ⟨rfl, .failed hsteps hb hf (fun name => ?_) rfl⟩
    show ((l₁ ++ l₂).foldl noted a.record).has name = true ↔ _
    rw [List.foldl_append, hf.has_of_error, hb.has_iff, or_assoc]
  · cases hx
    obtain ⟨rfl, ⟨-, hall⟩ | ⟨_, _, _, _, _, _, _, _, he, _⟩⟩ := carried_of_runSteps hs
    · exact ⟨rfl, .finished hall (fun _ => hall.has_iff) rfl⟩
    · cases he

/-- **The steps of a request are carried out in their order, up to the first that fails**: the calls of
all steps before it are made, and its own up to the one that failed. All that was made is recorded, and
nothing else of the application has changed but its product. Other numbers of the steps would not have
made a difference. -/
theorem provision_stops_at_first_failure {ω : Type} (a : Application)
    (answer : ω → (q : surroundings.Request) → surroundings.Reply q × ω) (w : ω) :
    ∃ t r l, ((provision a).exec answer w).1 = (t, r) ∧ (provision a).history answer w = l ∧
      t = { a with record := l.foldl noted a.record, product := t.product } ∧ Reached a t l r ∧
      ∀ steps, steps.map unnumbered = a.request.steps.map unnumbered →
        (provision (withSteps steps a)).history answer w = l ∧
          ((provision (withSteps steps a)).exec answer w).1 = (withSteps steps t, r) := by
  obtain ⟨hframe, hreached⟩ := reached_of_stops (Run.stops_exec answer w (provision a))
  refine ⟨_, _, _, rfl, rfl, hframe, hreached, fun steps hsteps => ?_⟩
  rw [provision_renumbered hsteps, Run.history_mapState, Run.exec_mapState]
  exact ⟨rfl, rfl⟩

/-- A bucket, a policy for it, and a role that is bound to the policy, numbered the other way round. -/
def backwards : Application :=
  Application.new
    { Request.Create.blank with
      applicationType := "/apps/billing"
      provider := "amazon"
      steps :=
        [ .plain 4 "s3" ""
        , ⟨3, "policy", "read S3BUCKET", Dict.ofList [("S3BUCKET", "s3")]⟩
        , .plain 2 "role" ""
        , .plain 1 "bind_role" "" ] } "0f1e2d3c"

/-- An account in which no roles may be made. -/
def withoutRoles (_ : Unit) : (q : surroundings.Request) → surroundings.Reply q × Unit
  | .amazon (.createRole ..) => (.error (Cause.of "denied"), ())
  | .amazon c => (.ok (Simulation.amazonResult c), ())
  | .azure _ => (.error (Cause.of "denied"), ())
  | .inventory _ c => (.error ⟨c.operation, none, "denied"⟩, ())
  | .build .. => ((), ())
  | .wait _ => ((), ())
  | .guid => ("", ())

/-- The bucket and its policy are made, the role is refused, and nothing is asked after that. -/
theorem backwards_stops_at_role :
    ∃ t e l, ((provision backwards).exec withoutRoles ()).1 = (t, .error e) ∧
      Reached backwards t l (.error e) ∧
      l.map Sigma.fst =
        [ .amazon (.createBucket "redhat-billing-bucket-0f1e2d3c")
        , .amazon (.createPolicy "redhat-billing-policy-0f1e2d3c"
            "read redhat-billing-bucket-0f1e2d3c")
        , .amazon (.createRole "redhat-billing-role-0f1e2d3c" "") ] ∧
      t.record.steps.keys = ["policy", "s3"] := by
  obtain ⟨t, r, l, hexec, hhistory, -, hreached, -⟩ :=
    provision_stops_at_first_failure backwards withoutRoles ()
  have hfailed : ((provision backwards).exec withoutRoles ()).1.2.isOk = false := by
    decide +kernel
  have hkeys : ((provision backwards).exec withoutRoles ()).1.1.record.steps.keys =
      ["policy", "s3"] := by decide +kernel
  rw [hexec] at hfailed hkeys
  cases r with
  | ok _ => cases hfailed
  | error e =>
    refine ⟨t, e, l, hexec, hreached, ?_, hkeys⟩
    rw [← hhistory]
    with_unfolding_all rfl

end CloudGrant.Amazon
