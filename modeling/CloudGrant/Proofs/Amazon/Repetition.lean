import CloudGrant.Proofs.Amazon.Ledger

/-!
# Steps that are repeated

A step that is carried out again is noted in place of what was noted for it before. So of each kind the
record holds the last thing that was made (`Recalls`, which one step preserves and so does a run, at
every point where it can stop), and taking down the record removes that (`removes_made_iff`).

A second bucket or role of an application has the name of the first, so none is forgotten. A second
policy is forgotten if it got an ARN of its own, and of several reports only the last is known
(`first_report_left`).
-/

namespace CloudGrant.Amazon

open CloudGrant.Simulation
open Interface

variable {step : Step} {a t u : Application} {l l' : List surroundings.Event}

/-- The output of a kind that an event has made. -/
def made? : Step.Kind → surroundings.Event → Option String
  | .bucket, ⟨.amazon (.createBucket name), .ok _⟩ => some name
  | .policy, ⟨.amazon (.createPolicy ..), .ok arn⟩ => some arn
  | .role, ⟨.amazon (.createRole name _), .ok _⟩ => some name
  | .costReport, ⟨.amazon (.putReport report), .ok _⟩ => some report.name
  | _, _ => none

/-- The last output of a kind that was made. -/
def last? (kind : Step.Kind) (l : List surroundings.Event) : Option String :=
  (l.filterMap (made? kind)).getLast?

theorem last?_append {kind : Step.Kind} :
    last? kind (l ++ l') = (last? kind l').or (last? kind l) := by
  rw [last?, List.filterMap_append, List.getLast?_append]
  rfl

theorem last?_eq_none {kind : Step.Kind} (h : ∀ e ∈ l, made? kind e = none) :
    last? kind l = none := by
  rw [last?, List.filterMap_eq_nil_iff.mpr h]
  rfl

/-- What was made last was made. -/
theorem exists_made_of_last? {kind : Step.Kind} {v : String} (h : last? kind l = some v) :
    ∃ e ∈ l, made? kind e = some v :=
  List.mem_filterMap.mp (List.mem_of_getLast? h)

/-- If something was made then something was made last. -/
theorem exists_last?_of_made {kind : Step.Kind} {v : String} {e : surroundings.Event} (he : e ∈ l)
    (hv : made? kind e = some v) : ∃ w, last? kind l = some w := by
  have hne : l.filterMap (made? kind) ≠ [] :=
    List.ne_nil_of_mem (List.mem_filterMap.mpr ⟨e, he, hv⟩)
  exact ⟨_, List.getLast?_eq_some_getLast hne⟩

/-- Only calls that succeeded make anything. -/
theorem made?_eq_none {kind : Step.Kind} {e : surroundings.Event}
    (h : ∀ c r, e = ⟨.amazon c, .ok r⟩ → ∃ bucket document, c = .putBucketPolicy bucket document) :
    made? kind e = none := by
  obtain ⟨q, reply⟩ := e
  cases q with
  | amazon c =>
    cases reply with
    | error cause => cases c <;> cases kind <;> rfl
    | ok r =>
      obtain ⟨bucket, document, rfl⟩ := h c r rfl
      cases kind <;> rfl
  | _ => cases kind <;> rfl

/-! ## What one step notes -/

/-- A step notes nothing, or what its first call has made; any other call attaches a policy to a
bucket. -/
theorem Course.noted {x : Stop surroundings (Except Error Unit)} (h : Course step a l t x) :
    (t = a ∧ ∀ c r, (⟨.amazon c, .ok r⟩ : surroundings.Event) ∉ l) ∨
      ∃ kind c r rest, Making step a kind c ∧ t = noting a kind c r ∧ l = ⟨.amazon c, .ok r⟩ :: rest ∧
        ∀ c' r', (⟨.amazon c', .ok r'⟩ : surroundings.Event) ∈ rest →
          ∃ bucket document, c' = .putBucketPolicy bucket document := by
  cases h with
  | refused _ => exact .inl ⟨rfl, by simp⟩
  | asking _ _ => exact .inl ⟨rfl, by simp⟩
  | failed _ _ cause _ =>
    refine .inl ⟨rfl, fun c r hmem => ?_⟩
    cases List.mem_singleton.mp hmem
  | made _ hc r => exact .inr ⟨_, _, r, [], hc, rfl, rfl, by simp⟩
  | attaching _ _ => exact .inr ⟨_, _, (), [], .bucket, rfl, rfl, by simp⟩
  | unattached _ _ cause _ =>
    refine .inr ⟨_, _, (), _, .bucket, rfl, rfl, fun c r hmem => ?_⟩
    cases List.mem_singleton.mp hmem
  | attached _ _ =>
    refine .inr ⟨_, _, (), _, .bucket, rfl, rfl, fun c r hmem => ?_⟩
    cases List.mem_singleton.mp hmem
    exact ⟨_, _, rfl⟩

/-- What is noted of a step is what its call has made. -/
theorem Making.output?_noting {kind j : Step.Kind} {c : Call} (h : Making step a kind c)
    (r : c.Result) (hj : j ≠ .binding) : (noting a kind c r).record.output? j.name "output" =
      (made? j ⟨.amazon c, .ok r⟩).or (a.record.output? j.name "output") := by
  by_cases hjk : j = kind
  · subst hjk
    rw [noting, output?_complete_self]
    cases h with
    | binding _ _ => exact absurd rfl hj
    | _ => simp [outputs, made?, Dict.ofList, Dict.insertAll, Dict.find?_insert]
  · have hnone : made? j ⟨.amazon c, .ok r⟩ = none := by
      cases h <;> cases j <;> first | rfl | exact absurd rfl hjk
    rw [noting, output?_complete_of_ne (hjk ∘ Step.Kind.name_injective), hnone]
    rfl

/-- The resource that a step makes is known by its output, or is an attachment. -/
theorem Making.added_cases {kind : Step.Kind} {c : Call} (h : Making step a kind c) {r : c.Result}
    {x : Resource} (hx : added? c r = some x) :
    (∃ v, made? kind ⟨.amazon c, .ok r⟩ = some v ∧ resource? kind v = some x) ∨
      ∃ role arn, c = .attachRolePolicy role arn ∧ x = .attachment role arn := by
  cases h with
  | binding _ _ =>
    cases hx
    exact .inr ⟨_, _, rfl, rfl⟩
  | _ =>
    cases hx
    exact .inl ⟨_, rfl, rfl⟩

/-! ## What a run recalls -/

/-- What an application recalls of a run that started without a record: of each kind the last output,
and that a role was bound. -/
structure Recalls (a : Application) (l : List surroundings.Event) (t : Application) : Prop where
  same : t.guid = a.guid ∧ t.request = a.request
  outputs : ∀ kind, kind ≠ .binding → t.record.output? kind.name "output" = last? kind l
  made : ∀ c r, (⟨.amazon c, .ok r⟩ : surroundings.Event) ∈ l →
    (∃ bucket document, c = .putBucketPolicy bucket document) ∨
      ∃ step kind b, Making step b kind c ∧ b.guid = a.guid ∧ b.request = a.request
  bound : ∀ role arn r, (⟨.amazon (.attachRolePolicy role arn), .ok r⟩ : surroundings.Event) ∈ l →
    t.record.has Step.Kind.binding.name = true ∧
      (∃ e ∈ l, made? .role e = some role) ∧ ∃ e ∈ l, made? .policy e = some arn

theorem recalls_empty (h : a.record = Record.empty) : Recalls a [] a where
  same := ⟨rfl, rfl⟩
  outputs kind _ := by
    rw [h]
    rfl
  made _ _ hm := nomatch hm
  bound _ _ _ hm := nomatch hm

/-- **One more step is recalled**, wherever it stops. -/
theorem Recalls.course {x : Stop surroundings (Except Error Unit)} (h : Recalls a l u)
    (hc : Course step u l' t x) : Recalls a (l ++ l') t := by
  rcases hc.noted with ⟨rfl, hnone⟩ | ⟨kind, c, r, rest, hmaking, rfl, rfl, hrest⟩
  · have hmade : ∀ j, last? j l' = none := fun j => last?_eq_none fun e he =>
      made?_eq_none fun c r hcr => absurd (hcr ▸ he) (hnone c r)
    refine ⟨h.same, fun j hj => ?_, fun c r hm => ?_, fun role arn r hm => ?_⟩
    · rw [last?_append, hmade j]
      exact h.outputs j hj
    · exact (List.mem_append.mp hm).elim (h.made c r) fun hm => absurd hm (hnone c r)
    · rcases List.mem_append.mp hm with hm | hm
      · obtain ⟨hb, ⟨e, he, hr⟩, e', he', hp⟩ := h.bound role arn r hm
        exact ⟨hb, ⟨e, List.mem_append_left _ he, hr⟩, e', List.mem_append_left _ he', hp⟩
      · exact absurd hm (hnone _ r)
  · have hlast : ∀ j, last? j (⟨.amazon c, .ok r⟩ :: rest) = made? j ⟨.amazon c, .ok r⟩ := by
      intro j
      have hnone : rest.filterMap (made? j) = [] := List.filterMap_eq_nil_iff.mpr fun e he =>
        made?_eq_none fun c' r' hcr => hrest c' r' (hcr ▸ he)
      cases hm : made? j ⟨.amazon c, .ok r⟩ with
      | none => rw [last?, List.filterMap_cons_none hm, hnone]; rfl
      | some v => rw [last?, List.filterMap_cons_some hm, hnone]; rfl
    have hhas : ∀ name, u.record.has name = true → (noting u kind c r).record.has name = true := by
      intro name hn
      rw [noting, has_complete, hn, Bool.or_true]
    refine ⟨h.same, fun j hj => ?_, fun c' r' hm => ?_, fun role arn r' hm => ?_⟩
    · rw [last?_append, hlast j, hmaking.output?_noting r hj, h.outputs j hj]
    · rcases List.mem_append.mp hm with hm | hm
      · exact h.made c' r' hm
      rcases List.mem_cons.mp hm with hm | hm
      · cases hm
        exact .inr ⟨step, kind, u, hmaking, h.same⟩
      · exact .inl (hrest c' r' hm)
    · rcases List.mem_append.mp hm with hm | hm
      · obtain ⟨hb, ⟨e, he, hr⟩, e', he', hp⟩ := h.bound role arn r' hm
        exact ⟨hhas _ hb, ⟨e, List.mem_append_left _ he, hr⟩, e', List.mem_append_left _ he', hp⟩
      rcases List.mem_cons.mp hm with hm | hm
      · cases hm
        cases hmaking with
        | binding hr hp =>
          -- what is bound is what was made last
          rw [h.outputs _ (by simp)] at hr hp
          obtain ⟨e, he, hrole⟩ := exists_made_of_last? hr
          obtain ⟨e', he', harn⟩ := exists_made_of_last? hp
          refine ⟨?_, ⟨e, List.mem_append_left _ he, hrole⟩, e', List.mem_append_left _ he', harn⟩
          simp [noting, has_complete]
      · obtain ⟨_, _, hc'⟩ := hrest _ r' hm
        cases hc'

theorem Recalls.runSteps {steps : List Step} {x : Stop surroundings (Except Error Unit)}
    (h : Recalls a l u) (hs : (runSteps steps u).Stops l' t x) : Recalls a (l ++ l') t := by
  induction steps generalizing u l l' with
  | nil =>
    obtain ⟨rfl, rfl, -⟩ := Program.stops_pure_iff.mp hs
    rw [List.append_nil]
    exact h
  | cons step steps ih =>
    rcases Program.stops_andThen_iff.mp hs with
      ⟨q, rfl, hq⟩ | ⟨e, rfl, he⟩ | ⟨l₁, l₂, v, _, rfl, h₁, h₂⟩
    · exact h.course (course_of_stops hq)
    · exact h.course (course_of_stops he)
    · rw [← List.append_assoc]
      exact ih (h.course (course_of_stops h₁)) h₂

/-- **A run recalls what it has made last**, wherever it stops. -/
theorem recalls_provision {x : Stop surroundings (Except Error Unit)} (ha : a.record = Record.empty)
    (h : (provision a).Stops l t x) : Recalls a l t := by
  have hrun : ∀ {v y}, (Amazon.runSteps a.request.steps a).Stops l v y → Recalls a l v := by
    intro v y hs
    exact (recalls_empty ha).runSteps hs
  rcases stops_provision h with ⟨hs, -⟩ | ⟨-, v, hs, rfl⟩
  · exact hrun hs
  · obtain ⟨hsame, houtputs, hmade, hbound⟩ := hrun hs
    exact ⟨hsame, houtputs, hmade, hbound⟩

/-! ## What is taken down -/

variable {kind : Step.Kind} {v : String} {e : surroundings.Event}

theorem nameOf_congr {b : Application} (hg : b.guid = a.guid) (hr : b.request = a.request)
    {name : String} : nameOf b name = nameOf a name := by
  unfold nameOf
  rw [hg, hr]

/-- What was made was made by a step of its kind. -/
theorem Recalls.exists_making (h : Recalls a l t) (he : e ∈ l) (hv : made? kind e = some v) :
    ∃ step b c r, e = ⟨.amazon c, .ok r⟩ ∧ Making step b kind c ∧
      ∀ name, nameOf b name = nameOf a name := by
  have hok : ∃ c r, e = ⟨.amazon c, .ok r⟩ := by
    refine Classical.byContradiction fun hnot => ?_
    have hnone : made? kind e = none := made?_eq_none fun c r hcr => absurd ⟨c, r, hcr⟩ hnot
    cases hnone.symm.trans hv
  obtain ⟨c, r, rfl⟩ := hok
  rcases h.made c r he with ⟨bucket, document, rfl⟩ | ⟨step, j, b, hmaking, hg, hr⟩
  · cases kind <;> cases hv
  · refine ⟨step, b, c, r, rfl, ?_, fun name => nameOf_congr hg hr⟩
    cases hmaking with
    | bucket => cases kind <;> cases hv; exact .bucket
    | policy => cases kind <;> cases hv; exact .policy
    | role => cases kind <;> cases hv; exact .role
    | binding _ _ => cases kind <;> cases hv
    | costReport hreport => cases kind <;> cases hv; exact .costReport hreport

/-- All buckets of an application have one name. -/
theorem Recalls.bucket_eq (h : Recalls a l t) (he : e ∈ l) (hv : made? .bucket e = some v) :
    v = nameOf a "bucket" := by
  obtain ⟨step, b, c, r, rfl, hmaking, hname⟩ := h.exists_making he hv
  cases hmaking
  cases hv
  exact hname _

/-- All roles of an application have one name. -/
theorem Recalls.role_eq (h : Recalls a l t) (he : e ∈ l) (hv : made? .role e = some v) :
    v = nameOf a "role" := by
  obtain ⟨step, b, c, r, rfl, hmaking, hname⟩ := h.exists_making he hv
  cases hmaking
  cases hv
  exact hname _

/-- If the ARN of a policy is determined by its name then an application has one policy. -/
theorem Recalls.policy_eq (h : Recalls a l t) {arnOf : String → String} (harn : NamesPolicies arnOf l)
    (he : e ∈ l) (hv : made? .policy e = some v) : v = arnOf (nameOf a "policy") := by
  obtain ⟨step, b, c, r, rfl, hmaking, hname⟩ := h.exists_making he hv
  cases hmaking
  cases hv
  rw [← hname]
  exact harn _ _ _ he

/-- What was made of a kind that has one output for all steps was made last. -/
theorem last?_eq_of_made {w : String} (he : e ∈ l) (hv : made? kind e = some v)
    (hall : ∀ e' ∈ l, ∀ v', made? kind e' = some v' → v' = w) : last? kind l = some w := by
  obtain ⟨v', hlast⟩ := exists_last?_of_made he hv
  obtain ⟨e', he', hv'⟩ := exists_made_of_last? hlast
  rw [hlast, hall e' he' v' hv']

/-- The run has made nothing later in place of a resource: no policy with another ARN, and no report
with another name. -/
def Latest (l : List surroundings.Event) : Resource → Prop
  | .policy arn => last? .policy l = some arn
  | .attachment _ arn => last? .policy l = some arn
  | .report name => last? .costReport l = some name
  | _ => True

/-- **What is named of all that was made is what nothing was made in place of.** -/
theorem Recalls.names_iff (h : Recalls a l t) {c : Call} {r : c.Result} {x : Resource}
    (hc : (⟨.amazon c, .ok r⟩ : surroundings.Event) ∈ l) (hx : added? c r = some x) :
    Names t.record x ↔ Latest l x := by
  rcases h.made c r hc with ⟨bucket, document, rfl⟩ | ⟨step, kind, b, hmaking, -, -⟩
  · cases hx
  rcases hmaking.added_cases hx with ⟨v, hv, hresource⟩ | ⟨role, arn, rfl, rfl⟩
  · have hkind : kind ≠ .binding := by
      rintro rfl
      cases hresource
    rw [names_resource_iff hresource, h.outputs kind hkind]
    cases kind with
    | bucket =>
      cases hresource
      rw [last?_eq_of_made hc hv fun e he w hw => (h.bucket_eq he hw).trans (h.bucket_eq hc hv).symm]
      exact iff_of_true rfl trivial
    | role =>
      cases hresource
      rw [last?_eq_of_made hc hv fun e he w hw => (h.role_eq he hw).trans (h.role_eq hc hv).symm]
      exact iff_of_true rfl trivial
    | policy =>
      cases hresource
      exact Iff.rfl
    | costReport =>
      cases hresource
      exact Iff.rfl
    | binding => exact absurd rfl hkind
  · obtain ⟨hbound, ⟨e, he, hrole⟩, -⟩ := h.bound role arn r hc
    have hlast : last? .role l = some role :=
      last?_eq_of_made he hrole fun e' he' w hw => (h.role_eq he' hw).trans (h.role_eq he hrole).symm
    rw [names_attachment_iff, h.outputs .policy (by simp), h.outputs .role (by simp), hlast]
    exact ⟨fun hnames => hnames.2.1, fun hlatest => ⟨hbound, hlatest, rfl⟩⟩

/-- If the ARN of a policy is determined by its name then only a report can be made in place of
another. -/
theorem Recalls.latest (h : Recalls a l t) {arnOf : String → String} (harn : NamesPolicies arnOf l)
    {c : Call} {r : c.Result} {x : Resource} (hc : (⟨.amazon c, .ok r⟩ : surroundings.Event) ∈ l)
    (hx : added? c r = some x) (hreport : ∀ name, x ≠ .report name) : Latest l x := by
  have hpolicy : ∀ {e v}, e ∈ l → made? .policy e = some v → last? .policy l = some v :=
    fun he hv => last?_eq_of_made he hv fun e' he' w hw =>
      (h.policy_eq harn he' hw).trans (h.policy_eq harn he hv).symm
  cases c with
  | createPolicy name document =>
    cases hx
    exact hpolicy hc rfl
  | attachRolePolicy role arn =>
    cases hx
    obtain ⟨-, -, e, he, harn'⟩ := h.bound role arn r hc
    exact hpolicy he harn'
  | putReport report =>
    cases hx
    exact absurd rfl (hreport report.name)
  | _ => cases hx <;> trivial

/-- **Of all that was made, taking down removes what nothing was made in place of**: every bucket and
every role, of the policies and attachments those of the last ARN, and of the reports the last one.
Where the ARN of a policy is determined by its name, these are all policies and all attachments. -/
theorem removes_made_iff {x : Stop surroundings (Except Error Unit)} {k : List surroundings.Event}
    {errors : List Error} (ha : a.record = Record.empty) (hmake : (provision a).Stops l t x)
    (hdown : (takeDown t).Stops k u (.value errors))
    (hfault : ∀ e ∈ k.map Event.entry, ¬ Failed e) {c : Call} {r : c.Result}
    (hc : (⟨.amazon c, .ok r⟩ : surroundings.Event) ∈ l) {y : Resource} (hy : added? c r = some y) :
    ((∃ e ∈ k.map Event.entry, Removes y e) ↔ Latest l y) ∧
      ∀ arnOf, NamesPolicies arnOf l → (∀ name, y ≠ .report name) →
        ∃ e ∈ k.map Event.entry, Removes y e := by
  have hrecalls := recalls_provision ha hmake
  have hiff : (∃ e ∈ k.map Event.entry, Removes y e) ↔ Latest l y := by
    rw [(undone_of_takeDown hdown).2.exists_removes_iff hfault, ← Amazon.names_iff]
    exact hrecalls.names_iff hc hy
  exact ⟨hiff, fun arnOf harn hreport => hiff.mpr (hrecalls.latest harn hc hy hreport)⟩

/-! ## Two reports -/

/-- A cost report of a name. -/
def reportStep (order : Int) (name : String) : Step :=
  .plain order "cost_report"
    ("\x7b\"ReportName\": \"" ++ name ++ "\", \"TimeUnit\": \"HOURLY\", \"Format\": \"textORcsv\", "
      ++ "\"Compression\": \"GZIP\", \"S3Bucket\": \"b\", \"S3Region\": \"us-east-1\"\x7d")

/-- The report that such a step makes. -/
def reportNamed (name : String) : Report :=
  ⟨name ++ "-0f1e2d3c", "HOURLY", "textORcsv", "GZIP", [], "b", "", "us-east-1", []⟩

/-- An application with two cost reports of different names. -/
def twoReports : Application :=
  Application.new
    { Request.Create.blank with
      provider := "amazon"
      steps := [reportStep 1 "costs", reportStep 2 "usage"] } "0f1e2d3c"

/-- The application after a report. -/
def withReport (a : Application) (name : String) : Application :=
  noting a .costReport (.putReport (reportNamed name)) ()

/-- The events by which the reports are made. -/
def reporting : List surroundings.Event :=
  [ ⟨.amazon (.putReport (reportNamed "costs")), .ok ()⟩
  , ⟨.amazon (.putReport (reportNamed "usage")), .ok ()⟩ ]

/-- The application with both reports. -/
def reported : Application := (withReport (withReport twoReports "costs") "usage").finish ""

theorem stops_reportStep (order : Int) (name : String)
    (h : (reportOf (filled (reportStep order name).payload (reportStep order name) a)
        a.guid).toOption = some (reportNamed name)) :
    (runStep (reportStep order name) a).Stops [⟨.amazon (.putReport (reportNamed name)), .ok ()⟩]
      (withReport a name) (.value (.ok ())) := by
  have hkind : Step.Kind.ofName? (reportStep order name).name = some .costReport :=
    Step.Kind.ofName?_name .costReport
  unfold runStep makeReport
  simp only [hkind]
  rw [Program.stops_get_bind_iff]
  cases hr : reportOf (filled (reportStep order name).payload (reportStep order name) a) a.guid with
  | error e =>
    rw [hr] at h
    cases h
  | ok report =>
    rw [hr] at h
    cases h
    exact .answered (I := surroundings) (q := .amazon (.putReport (reportNamed name)))
      (Except.ok ()) (.done _ _)

theorem stops_reporting : (provision twoReports).Stops reporting reported (.value (.ok ())) := by
  have hfirst := stops_reportStep (a := twoReports) 1 "costs" (by decide +kernel)
  have hsecond := stops_reportStep (a := withReport twoReports "costs") 2 "usage"
    (by decide +kernel)
  refine Program.stops_get_bind_iff.mpr (Program.stops_andThen_ok_iff.mpr
    ⟨reporting, [], _, (), rfl, ?_, .done _ _⟩)
  refine Program.stops_andThen_ok_iff.mpr ⟨_, _, _, (), rfl, hfirst, ?_⟩
  exact Program.stops_andThen_ok_iff.mpr ⟨_, [], _, (), rfl, hsecond, .done _ _⟩

/-- The events by which what is recorded of them is taken down. -/
def removal : List surroundings.Event := [⟨.amazon (.deleteReport "usage-0f1e2d3c"), .ok ()⟩]

theorem stops_removal : (takeDown reported).Stops removal reported (.value []) := by
  have hundo : toUndo reported.record = [.costReport] := by decide +kernel
  have hu : undoing reported.record .costReport =
      .ok ⟨.deleteReport "usage-0f1e2d3c", "usage-0f1e2d3c"⟩ :=
    undoing_eq_ok_iff.mpr ⟨_, by decide +kernel, rfl⟩
  refine Program.stops_get_bind_iff.mpr ?_
  rw [hundo]
  unfold undoAll undo
  rw [hu]
  exact .answered (I := surroundings) (q := .amazon (.deleteReport "usage-0f1e2d3c"))
    (Except.ok ()) (.done _ _)

/-- The second of the two reports is taken down. -/
theorem second_report_removed :
    ∃ e ∈ removal.map Event.entry, Removes (.report "usage-0f1e2d3c") e :=
  (removes_made_iff (y := .report "usage-0f1e2d3c") (c := .putReport (reportNamed "usage")) (r := ())
    rfl stops_reporting stops_removal (by decide) (List.mem_cons_of_mem _ List.mem_cons_self)
    rfl).1.mpr (by unfold Latest; decide)

/-- **A report that another was made in place of stays**, though it was made and nothing failed. -/
theorem first_report_left :
    (provision twoReports).Stops reporting reported (.value (.ok ())) ∧
      (takeDown reported).Stops removal reported (.value []) ∧
      (∀ e ∈ removal.map Event.entry, ¬ Failed e) ∧
      (⟨.amazon (.putReport (reportNamed "costs")), .ok ()⟩ : surroundings.Event) ∈ reporting ∧
      ¬ ∃ e ∈ removal.map Event.entry, Removes (.report "costs-0f1e2d3c") e :=
  ⟨stops_reporting, stops_removal, by decide, List.mem_cons_self, by decide⟩

end CloudGrant.Amazon
