import CloudGrant.Proofs.Amazon.Reversal
import CloudGrant.Proofs.Naming
import CloudGrant.Proofs.Service.Discipline

/-!
# What resources are named after

The buckets, policies and roles of a request are named after the type of its application: all their names
start with the stem of the type, in every call that is made for the request, and in every state of its
record. So it is with what a step makes (`Making.isNamedAfter`), with what is undone from a record, and by
the discipline of the service with whole requests.

The stem itself is the base name of the type (`Naming.base_of_name`), or the whole type
(`Naming.base_of_no_name`).
-/

namespace CloudGrant

open Naming (stem)

/-- A name starts with a text. -/
def StartsWith (start name : String) : Prop := start.toList <+: name.toList

/-- The names of buckets, policies and roles in a question. A policy that was made goes by its ARN. -/
def Question.resourceNames : Question → List String
  | amazon (.createBucket name) => [name]
  | amazon (.putBucketPolicy bucket _) => [bucket]
  | amazon (.deleteBucket name) => [name]
  | amazon (.createPolicy name _) => [name]
  | amazon (.createRole name _) => [name]
  | amazon (.deleteRole name) => [name]
  | amazon (.attachRolePolicy role _) => [role]
  | amazon (.detachRolePolicy role _) => [role]
  | _ => []

/-- The resources of a question are named after an application type. -/
def Question.IsNamedAfter (applicationType : String) (q : Question) : Prop :=
  ∀ name ∈ q.resourceNames, StartsWith (stem applicationType) name

/-- The buckets and roles in a record are named after an application type. -/
def Record.IsNamedAfter (applicationType : String) (record : Record) : Prop :=
  ∀ kind ∈ [Step.Kind.bucket, .role], ∀ name,
    record.output? kind.name "output" = some name → StartsWith (stem applicationType) name

/-- An application is that of a request, and what it has is named after the request's type. -/
structure Application.IsNamedAfter (request : Request.Create) (a : Application) : Prop where
  request_eq : a.request = request
  record : a.record.IsNamedAfter request.applicationType

theorem Record.isNamedAfter_empty {applicationType : String} :
    Record.empty.IsNamedAfter applicationType := fun _ _ _ h => nomatch h

theorem Question.isNamedAfter_of_no_names {applicationType : String} {q : Question}
    (h : q.resourceNames = []) : q.IsNamedAfter applicationType := by
  rw [IsNamedAfter, h]
  exact List.forall_mem_nil _

variable {request : Request.Create} {a t : Application} {l : List surroundings.Event}

/-! ## Amazon -/

namespace Amazon

variable {step : Step} {kind : Step.Kind} {c : Call}

theorem startsWith_nameOf (a : Application) (kind : String) :
    StartsWith (stem a.request.applicationType) (nameOf a kind) := by
  refine ⟨("-" ++ kind ++ "-" ++ a.guid).toList, ?_⟩
  simp [nameOf, Naming.resource]

/-- What a step makes is named after the type, and so is the role that it binds. -/
theorem Making.isNamedAfter (h : Making step a kind c) (ha : a.IsNamedAfter request) :
    Question.IsNamedAfter request.applicationType (.amazon c) := by
  have hname : ∀ kind, StartsWith (stem request.applicationType) (nameOf a kind) :=
    ha.request_eq ▸ startsWith_nameOf a
  cases h with
  | bucket => exact List.forall_mem_singleton.mpr (hname _)
  | policy => exact List.forall_mem_singleton.mpr (hname _)
  | role => exact List.forall_mem_singleton.mpr (hname _)
  | binding hr _ => exact List.forall_mem_singleton.mpr (ha.record .role (by simp) _ hr)
  | costReport _ => exact Question.isNamedAfter_of_no_names rfl

/-- What is noted of a bucket or a role is its name. -/
theorem isNamedAfter_noting (h : Making step a kind c) (ha : a.IsNamedAfter request)
    (r : c.Result) : (noting a kind c r).IsNamedAfter request where
  request_eq := ha.request_eq
  record j hj name hname := by
    have hmaking := h.isNamedAfter ha
    have hne : j ≠ .binding := by
      rintro rfl
      simp at hj
    rw [h.output?_noting r hne, Option.or_eq_some_iff] at hname
    rcases hname with hmade | ⟨-, hname⟩
    · -- the output of a bucket or a role is the name in its call
      simp only [List.mem_cons, List.not_mem_nil, or_false] at hj
      rcases hj with rfl | rfl
      · cases h <;> cases hmade
        exact hmaking _ List.mem_cons_self
      · cases h <;> cases hmade
        exact hmaking _ List.mem_cons_self
    · exact ha.record j hj name hname

/-- **A step names what it makes after the type**, wherever it stops. -/
theorem Course.isNamedAfter {x : Stop surroundings (Except Error Unit)} (h : Course step a l t x)
    (ha : a.IsNamedAfter request) :
    t.IsNamedAfter request ∧
      ∀ q, x = .question q → q.IsNamedAfter request.applicationType := by
  have hmaking : Making step a .bucket (.createBucket (nameOf a "bucket")) := .bucket
  have hmake : Question.IsNamedAfter request.applicationType
      (.amazon (.createBucket (nameOf a "bucket"))) := hmaking.isNamedAfter ha
  have hattach : Question.IsNamedAfter request.applicationType
      (.amazon (Amazon.attaching step a)) := hmake
  have hbucket : (withBucket a).IsNamedAfter request := isNamedAfter_noting hmaking ha ()
  cases h with
  | refused _ => exact ⟨ha, by simp⟩
  | asking _ hc =>
    refine ⟨ha, fun q hq => ?_⟩
    cases hq
    exact hc.isNamedAfter ha
  | failed _ _ _ _ => exact ⟨ha, by simp⟩
  | made _ hc r => exact ⟨isNamedAfter_noting hc ha r, by simp⟩
  | attaching _ _ =>
    refine ⟨hbucket, fun q hq => ?_⟩
    cases hq
    exact hattach
  | unattached _ _ _ _ => exact ⟨hbucket, by simp⟩
  | attached _ _ => exact ⟨hbucket, by simp⟩

theorem isNamedAfter_runStep :
    (runStep step).Throughout (Question.IsNamedAfter request.applicationType)
      (Application.IsNamedAfter request) := by
  intro a ha
  refine Run.throughout_of_stops (fun l t q h => ?_) fun l t x h => ?_
  · exact ((course_of_stops h).isNamedAfter ha).2 q rfl
  · exact ((course_of_stops h).isNamedAfter ha).1

theorem isNamedAfter_runSteps {steps : List Step} :
    (runSteps steps).Throughout (Question.IsNamedAfter request.applicationType)
      (Application.IsNamedAfter request) := by
  induction steps with
  | nil => exact Program.throughout_pure _
  | cons step steps ih => exact Program.throughout_andThen isNamedAfter_runStep fun _ => ih

theorem isNamedAfter_provision :
    provision.Throughout (Question.IsNamedAfter request.applicationType)
      (Application.IsNamedAfter request) := by
  refine Program.throughout_get_bind fun a _ => ?_
  refine Program.throughout_andThen isNamedAfter_runSteps fun _ => ?_
  refine Program.throughout_bind (Program.throughout_modify fun a ha => ?_) fun _ =>
    Program.throughout_pure _
  exact ⟨ha.request_eq, ha.record⟩

/-- What is undone has the names that were recorded. -/
theorem isNamedAfter_of_undoing {record : Record} {u : Undoing}
    (hr : record.IsNamedAfter request.applicationType) (hu : undoing record kind = .ok u) :
    Question.IsNamedAfter request.applicationType (.amazon u.call) := by
  rw [undoing_eq_ok_iff] at hu
  cases kind with
  | binding =>
    obtain ⟨arn, -, role, hrole, rfl⟩ := hu
    exact List.forall_mem_singleton.mpr (hr .role (by simp) _ hrole)
  | bucket =>
    obtain ⟨name, hname, rfl⟩ := hu
    exact List.forall_mem_singleton.mpr (hr .bucket (by simp) _ hname)
  | role =>
    obtain ⟨name, hname, rfl⟩ := hu
    exact List.forall_mem_singleton.mpr (hr .role (by simp) _ hname)
  | policy | costReport =>
    obtain ⟨v, -, rfl⟩ := hu
    exact Question.isNamedAfter_of_no_names rfl

theorem isNamedAfter_takeDown :
    takeDown.Throughout (Question.IsNamedAfter request.applicationType)
      (Application.IsNamedAfter request) := by
  refine Program.throughout_get_bind fun a ha => ?_
  intro b hb
  have hasks : (undoAll a.record (toUndo a.record)).Asks
      (Question.IsNamedAfter request.applicationType) :=
    asks_undoAll fun _ _ _ hu => isNamedAfter_of_undoing ha.record hu
  refine Run.throughout_of_stops (fun l t q h => (hasks h).2 q rfl) fun l t x h => ?_
  have ht : t = b := keeps_undoAll h
  exact ht ▸ hb

end Amazon

/-! ## Azure -/

namespace Azure

variable {login : Login} {template : Option String}

/-- A session names no bucket, policy or role. -/
theorem isNamedAfter_call {applicationType : String} {c : Call} :
    Question.IsNamedAfter applicationType (.azure c) := Question.isNamedAfter_of_no_names rfl

theorem isNamedAfter_provision :
    (provision login template).Throughout (Question.IsNamedAfter request.applicationType)
      (Application.IsNamedAfter request) := by
  have hasks : (provision login template).Asks (Question.IsNamedAfter request.applicationType) :=
    asks_provision_of isNamedAfter_call isNamedAfter_call isNamedAfter_call isNamedAfter_call
      fun _ _ _ => isNamedAfter_call
  intro a ha
  refine Run.throughout_of_stops (fun l t q h => (hasks h).2 q rfl) fun l t x h => ⟨?_, ?_⟩
  · exact (congrArg (·.2.1) (keeps_provision h) : t.request = a.request).trans ha.request_eq
  · cases template with
    | none =>
      obtain ⟨-, rfl, -⟩ := Program.stops_pure_iff.mp h
      exact ha.record
    | some template =>
      intro kind hk name hname
      have hne : kind.name ≠ stepName := by cases kind <;> decide
      have hkept : t.record.output? kind.name "output" = a.record.output? kind.name "output" :=
        (congrFun (keeps_outputs (stops_provision h)) kind).trans
          (Amazon.output?_complete_of_ne hne)
      exact ha.record kind hk name (hkept.symm.trans hname)

theorem isNamedAfter_takeDown :
    (takeDown login).Throughout (Question.IsNamedAfter request.applicationType)
      (Application.IsNamedAfter request) := by
  have hasks : (takeDown login).Asks (Question.IsNamedAfter request.applicationType) :=
    asks_takeDown_of isNamedAfter_call isNamedAfter_call isNamedAfter_call isNamedAfter_call
      fun _ => isNamedAfter_call
  intro a ha
  refine Run.throughout_of_stops (fun l t q h => (hasks h).2 q rfl) fun l t x h => ?_
  have hkept : apart t = apart a := keeps_takeDown h
  have hrecord : t.record = a.record := congrArg (fun b => b.record) hkept
  exact ⟨(congrArg (fun b => b.request) hkept :).trans ha.request_eq, hrecord ▸ ha.record⟩

end Azure

/-! ## Whole requests -/

/-- The service keeps to names after the type of the request. -/
theorem naming_discipline (request : Request.Create) :
    Discipline request (Question.IsNamedAfter request.applicationType)
      (Application.IsNamedAfter request) where
  request_eq _ ha := ha.request_eq
  attach _ _ ha := ⟨ha.request_eq, ha.record⟩
  release _ ha := ⟨ha.request_eq, ha.record⟩
  quiet q hq _ := by
    refine Question.isNamedAfter_of_no_names ?_
    cases q <;> first | rfl | cases hq
  close := Azure.isNamedAfter_call
  provision p := by
    refine Program.throughout_bind
      (Program.throughout_ask (Question.isNamedAfter_of_no_names rfl)) fun guid => ?_
    refine Program.throughout_bind
      (Program.throughout_modify fun a ha => ⟨ha.request_eq, ha.record⟩) fun _ => ?_
    cases p with
    | amazon keyId secret => exact Amazon.isNamedAfter_provision
    | azure login template => exact Azure.isNamedAfter_provision
  takeDown p := by
    cases p with
    | amazon keyId secret => exact Amazon.isNamedAfter_takeDown
    | azure login template => exact Azure.isNamedAfter_takeDown

namespace Service

/-- **Resources are named after the base name of the application type.** The last component of the type
is the base name, whatever slashes and `.` follow it; a type without one, or whose last is `..`, stands
for itself. All names of buckets, policies and roles start with that stem, those that are asked for and
those that are recorded, while a request is carried out or an application is prepared. -/
theorem resources_named_after_base (applicationType : String) :
    (∀ c, Naming.lastComponent? applicationType.toList = some c → c ≠ ['.', '.'] →
      stem applicationType = "redhat-" ++ String.ofList c ∧ '/' ∉ (stem applicationType).toList ∧
        ∀ marks : List String, (∀ mark ∈ marks, mark = "/" ∨ mark = "/.") →
          stem (applicationType ++ String.join marks) = stem applicationType) ∧
    ((∀ c, Naming.lastComponent? applicationType.toList = some c → c = ['.', '.']) →
      stem applicationType = "redhat-" ++ applicationType) ∧
    ∀ (service : Service) (request : Request.Create), request.applicationType = applicationType →
      (service.createRun request).Throughout
          (Run.Timeless (Question.IsNamedAfter applicationType)) (Application.IsNamedAfter request) ∧
        (service.prepareRun request).Throughout
          (Run.Timeless (Question.IsNamedAfter applicationType))
          (Application.IsNamedAfter request) := by
  refine ⟨fun c hlast hc => ⟨?_, ?_, fun marks hmarks => ?_⟩, fun h => ?_, ?_⟩
  · rw [stem, Naming.base_of_name hlast hc]
  · rw [stem, Naming.base_of_name hlast hc, String.toList_append, String.toList_ofList]
    simpa using Naming.notMem_of_lastComponent? hlast
  · have hpadded := Naming.lastComponent?_append_join hmarks applicationType
    rw [stem, stem, Naming.base_of_name hlast hc, Naming.base_of_name (hpadded.trans hlast) hc]
  · rw [stem, Naming.base_of_no_name h]
  · rintro service request rfl
    have hnew : (Application.new request "").IsNamedAfter request :=
      ⟨rfl, Record.isNamedAfter_empty⟩
    exact ⟨(naming_discipline request).createRun service hnew,
      (naming_discipline request).prepareRun service hnew⟩

/-- A type is named after its last component, or stands for itself. -/
theorem named_after_billing :
    Naming.lastComponent? "/apps//billing/./".toList = some "billing".toList ∧
      stem "/apps//billing/./" = "redhat-billing" ∧
      stem ("/apps//billing/./" ++ String.join ["/.", "/"]) = "redhat-billing" ∧
      stem "billing/.." = "redhat-billing/.." ∧
      Run.Throughout (Run.Timeless (Question.IsNamedAfter "/apps/billing"))
        (Application.IsNamedAfter Amazon.boundRole.request)
        (createRun ⟨Catalog.standard, none, 0, 900000⟩ Amazon.boundRole.request) := by
  have hlast : Naming.lastComponent? "/apps//billing/./".toList = some "billing".toList := by decide
  obtain ⟨hstem, -, hpadded⟩ :=
    (resources_named_after_base "/apps//billing/./").1 _ hlast (by decide)
  have hparent : ∀ c, Naming.lastComponent? "billing/..".toList = some c → c = ['.', '.'] := by
    rintro c ⟨⟩
    rfl
  exact ⟨hlast, hstem, (hpadded ["/.", "/"] (by simp)).trans hstem,
    (resources_named_after_base "billing/..").2.1 hparent,
    ((resources_named_after_base "/apps/billing").2.2 _ Amazon.boundRole.request rfl).1⟩

end Service

end CloudGrant
