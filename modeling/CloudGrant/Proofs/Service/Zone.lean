import CloudGrant.Proofs.Amazon.Ledger
import CloudGrant.Proofs.Cloud.Zone
import CloudGrant.Proofs.Service.Course

/-!
# A create request keeps to the zone of its guid

Every question of a create request is about the zone of the guid that it draws
(`CreateEnds.inZone`): what it makes is named for the guid, and what it takes away again was recorded
by itself. So the record is followed from step to step (`Owned`), also where a step is noted anew.
-/

namespace CloudGrant

open Interface Simulation

/-- All that a record finds again is in the zone of a guid. -/
structure Owned (arnOf : String → String) (guid : String) (record : Record) : Prop where
  output (kind : Step.Kind) (v : String) (h : record.output? kind.name "output" = some v) :
    Yields arnOf guid kind v
  deployment (v : String) (h : record.output? Azure.stepName "name" = some v) : EndsWith guid v

/-- Where a run stops that keeps to the zone of a guid. -/
structure StaysIn {α : Type} (arnOf : String → String) (guid : String)
    (l : List surroundings.Event) (t : Application) (x : Stop surroundings α) : Prop where
  record : Owned arnOf guid t.record
  answered : ∀ e ∈ l, InZone arnOf guid e.1
  asked : ∀ q, x = .question q → InZone arnOf guid q

variable {arnOf : String → String} {guid : String} {a t : Application}
  {l : List surroundings.Event}

theorem owned_empty : Owned arnOf guid Record.empty where
  output _ _ h := nomatch h
  deployment _ h := nomatch h

theorem StaysIn.append {α : Type} {l' : List surroundings.Event} {x : Stop surroundings α}
    (h : StaysIn arnOf guid l' t x) (hl : ∀ e ∈ l, InZone arnOf guid e.1) :
    StaysIn arnOf guid (l ++ l') t x where
  record := h.record
  answered e he := (List.mem_append.mp he).elim (hl e) (h.answered e)
  asked := h.asked

/-! ## Amazon -/

namespace Amazon

variable {step : Step} {kind : Step.Kind} {c : Call}

/-- What a step makes is in the zone of its application, and what it is bound to was recorded. -/
theorem Making.inZone (h : Making step a kind c) (ho : Owned arnOf a.guid a.record) :
    InZone arnOf a.guid (.amazon c) := by
  have hname : ∀ kind, EndsWith a.guid (nameOf a kind) := fun _ => endsWith_append _ _
  intro x hx
  cases h with
  | bucket =>
    cases List.mem_singleton.mp hx
    exact hname _
  | policy =>
    cases List.mem_singleton.mp hx
    exact ⟨_, hname _, rfl⟩
  | role =>
    cases List.mem_singleton.mp hx
    exact hname _
  | binding hr hp => exact zone_attached (ho.output .role _ hr) (ho.output .policy _ hp) x hx
  | costReport hrep =>
    cases List.mem_singleton.mp hx
    unfold reportOf at hrep
    split at hrep
    · cases hrep
      exact endsWith_append _ _
    · cases hrep

/-- What is noted of a step finds what was made. -/
theorem Making.yields (h : Making step a kind c) (ho : Owned arnOf a.guid a.record) (r : c.Result)
    (harn : NamesPolicies arnOf [⟨.amazon c, .ok r⟩]) {v : String}
    (hv : (Dict.ofList (outputs c r)).find? "output" = some v) : Yields arnOf a.guid kind v := by
  have hzone := h.inZone ho
  cases h with
  | bucket =>
    cases (Dict.find?_insert_self ..).symm.trans hv
    exact hzone _ List.mem_cons_self
  | policy =>
    cases (Dict.find?_insert_self ..).symm.trans hv
    exact ⟨_, endsWith_append _ _, harn _ _ _ List.mem_cons_self⟩
  | role =>
    have hfirst : (Dict.ofList [("output", nameOf a "role"), ("arn", r)]).find? "output" =
        some (nameOf a "role") := by simp [Dict.ofList, Dict.insertAll, Dict.find?_insert]
    cases hfirst.symm.trans hv
    exact hzone _ List.mem_cons_self
  | binding _ _ => cases hv
  | costReport _ =>
    cases (Dict.find?_insert_self ..).symm.trans hv
    exact hzone _ List.mem_cons_self

theorem owned_noting (h : Making step a kind c) (ho : Owned arnOf a.guid a.record) (r : c.Result)
    (harn : NamesPolicies arnOf [⟨.amazon c, .ok r⟩]) :
    Owned arnOf a.guid (noting a kind c r).record where
  output j v hv := by
    by_cases hj : j = kind
    · subst hj
      exact h.yields ho r harn (output?_complete_self.symm.trans hv)
    · exact ho.output j v
        ((output?_complete_of_ne (hj ∘ Step.Kind.name_injective)).symm.trans hv)
  deployment v hv := by
    have hne : Azure.stepName ≠ kind.name := by cases kind <;> decide
    exact ho.deployment v ((output?_complete_of_ne hne).symm.trans hv)

/-- **A step keeps to the zone of its application.** -/
theorem Course.staysIn {x : Stop surroundings (Except Error Unit)} (h : Course step a l t x)
    (ho : Owned arnOf a.guid a.record) (harn : NamesPolicies arnOf l) :
    StaysIn arnOf a.guid l t x := by
  have hmaking : Making step a .bucket (.createBucket (nameOf a "bucket")) := .bucket
  have hmake : InZone arnOf a.guid (.amazon (.createBucket (nameOf a "bucket"))) :=
    hmaking.inZone ho
  have hattach : InZone arnOf a.guid (.amazon (Amazon.attaching step a)) := hmake
  have hbucket : Owned arnOf a.guid (withBucket a).record := by
    refine owned_noting hmaking ho () fun name document arn hmem => ?_
    cases List.mem_singleton.mp hmem
  cases h with
  | refused _ => exact ⟨ho, by simp, by simp⟩
  | asking _ hc => exact ⟨ho, by simp, fun q hq => by cases hq; exact hc.inZone ho⟩
  | failed _ hc _ _ => exact ⟨ho, by simpa using hc.inZone ho, by simp⟩
  | made _ hc r => exact ⟨owned_noting hc ho r harn, by simpa using hc.inZone ho, by simp⟩
  | attaching _ _ => exact ⟨hbucket, by simpa using hmake, fun q hq => by cases hq; exact hattach⟩
  | unattached _ _ _ _ => exact ⟨hbucket, by simpa using ⟨hmake, hattach⟩, by simp⟩
  | attached _ _ => exact ⟨hbucket, by simpa using ⟨hmake, hattach⟩, by simp⟩

theorem NamesPolicies.mono {l' : List surroundings.Event} (h : NamesPolicies arnOf l')
    (hl : ∀ e ∈ l, e ∈ l') : NamesPolicies arnOf l :=
  fun name document arn hmem => h name document arn (hl _ hmem)

theorem staysIn_runSteps {steps : List Step} {x : Stop surroundings (Except Error Unit)}
    (h : (runSteps steps a).Stops l t x) (ho : Owned arnOf a.guid a.record)
    (harn : NamesPolicies arnOf l) : StaysIn arnOf a.guid l t x := by
  induction steps generalizing a l with
  | nil =>
    obtain ⟨rfl, rfl, rfl⟩ := Program.stops_pure_iff.mp h
    exact ⟨ho, by simp, by simp⟩
  | cons step steps ih =>
    rcases Program.stops_andThen_iff.mp h with
      ⟨q, rfl, hq⟩ | ⟨e, rfl, he⟩ | ⟨l₁, l₂, u, _, rfl, h₁, h₂⟩
    · have hstep := (course_of_stops hq).staysIn ho harn
      exact ⟨hstep.record, hstep.answered, fun q' hq' => by cases hq'; exact hstep.asked q rfl⟩
    · have hstep := (course_of_stops he).staysIn ho harn
      exact ⟨hstep.record, hstep.answered, by simp⟩
    · -- the guid stays the same from step to step
      have hcourse := course_of_stops h₁
      have hstep := hcourse.staysIn ho (harn.mono fun _ => List.mem_append_left _)
      have hguid : u.guid = a.guid := by rw [hcourse.frame]
      rw [← hguid] at hstep ⊢
      exact (ih h₂ hstep.record (harn.mono fun _ => List.mem_append_right _)).append hstep.answered

theorem staysIn_provision {x : Stop surroundings (Except Error Unit)}
    (h : (provision a).Stops l t x) (ho : Owned arnOf a.guid a.record)
    (harn : NamesPolicies arnOf l) : StaysIn arnOf a.guid l t x := by
  rcases stops_provision h with ⟨h₁, -⟩ | ⟨rfl, u, h₁, rfl⟩
  · exact staysIn_runSteps h₁ ho harn
  · have hsteps := staysIn_runSteps h₁ ho harn
    exact ⟨hsteps.record, hsteps.answered, by simp⟩

/-- What a record finds again is all that is undone. -/
theorem Undone.inZone {record : Record} {kinds : List Step.Kind} {errors : List Error}
    (h : Undone record kinds l errors) (ho : Owned arnOf guid record) :
    ∀ e ∈ l, InZone arnOf guid e.1 := by
  have hcall : ∀ {kind u}, undoing record kind = .ok u → InZone arnOf guid (.amazon u.call) := by
    intro kind u hu x hx
    rw [undoing_eq_ok_iff] at hu
    cases kind with
    | binding =>
      obtain ⟨arn, hp, role, hr, rfl⟩ := hu
      exact zone_attached (ho.output .role _ hr) (ho.output .policy _ hp) x hx
    | _ =>
      obtain ⟨v, hv, rfl⟩ := hu
      cases List.mem_singleton.mp hx
      exact ho.output _ _ hv
  induction h with
  | nil => exact List.forall_mem_nil _
  | impossible _ _ ih => exact ih
  | done hu _ _ ih => exact List.forall_mem_cons.mpr ⟨hcall hu, ih⟩
  | failed hu _ _ ih => exact List.forall_mem_cons.mpr ⟨hcall hu, ih⟩

end Amazon

/-! ## Azure -/

namespace Azure

variable {login : Login} {template : Option String}

/-- A session is about what is done in it. -/
theorem asks_inSession_inZone {α : Type} {work : Work (Except Cause α)}
    (h : work.Asks (InZone arnOf guid)) : (inSession login work).Asks (InZone arnOf guid) :=
  asks_inSession (List.forall_mem_nil _) (List.forall_mem_nil _) (List.forall_mem_nil _)
    (List.forall_mem_nil _) h

theorem asks_thenDeploy_inZone (arnOf : String → String) {template name : String}
    (h : EndsWith guid name) : (thenDeploy login template name).Asks (InZone arnOf guid) := by
  have hdeploy : InZone arnOf guid (.azure (.deploy name template)) := by
    intro x hx
    cases List.mem_singleton.mp hx
    exact h
  exact asks_thenDeploy (List.forall_mem_nil _) (List.forall_mem_nil _) (List.forall_mem_nil _)
    (List.forall_mem_nil _) hdeploy

/-- **A deployment keeps to the zone of its application.** -/
theorem staysIn_provision {x : Stop surroundings (Except Error Unit)}
    (h : (provision login template a).Stops l t x) (ho : Owned arnOf a.guid a.record) :
    StaysIn arnOf a.guid l t x := by
  cases template with
  | none =>
    obtain ⟨rfl, rfl, rfl⟩ := Program.stops_pure_iff.mp h
    exact ⟨ho, by simp, by simp⟩
  | some template =>
    have hname : EndsWith a.guid (Naming.deployment a.guid) := endsWith_append _ _
    have hrest := stops_provision h
    obtain ⟨hanswered, hasked⟩ := asks_thenDeploy_inZone arnOf hname hrest
    refine ⟨⟨fun kind v hv => ?_, fun v hv => ?_⟩, hanswered, hasked⟩
    · have hne : kind.name ≠ stepName := by cases kind <;> decide
      have hkept := congrFun (keeps_outputs hrest) kind
      exact ho.output kind v ((Amazon.output?_complete_of_ne hne).symm.trans (hkept.symm.trans hv))
    · have hkept := (keeps_thenDeploy hrest).trans (Record.output?_setOutput_self ..)
      cases hkept.symm.trans hv
      exact hname

theorem inZone_takeDown {errors : List Error} (h : (takeDown login a).Stops l t (.value errors))
    (ho : Owned arnOf guid a.record) : ∀ e ∈ l, InZone arnOf guid e.1 := by
  unfold takeDown at h
  rw [Program.stops_get_bind_iff] at h
  cases hn : a.record.output? stepName "name" with
  | none =>
    simp only [hn] at h
    obtain ⟨rfl, rfl, -⟩ := Program.stops_pure_iff.mp h
    exact List.forall_mem_nil _
  | some name =>
    simp only [hn] at h
    have hdelete : InZone arnOf guid (.azure (.delete name)) := by
      intro x hx
      cases List.mem_singleton.mp hx
      exact ho.deployment name hn
    obtain ⟨l₁, l₂, u, r, rfl, h₁, h₂⟩ := Program.stops_bind_value_iff.mp h
    have hl₂ : l₂ = [] := by
      cases r <;> exact (Program.stops_pure_iff.mp h₂).1
    rw [hl₂, List.append_nil]
    exact (asks_inSession_inZone (Program.asks_ask hdelete) h₁).1

end Azure

/-! ## The whole request -/

/-- A log in which the guid was drawn, and the ARN of a policy is determined by its name. -/
structure NamedFor (arnOf : String → String) (guid : String) (log : List surroundings.Entry) :
    Prop where
  arn (name document arn : String)
    (h : (⟨.amazon (.createPolicy name document), some (.ok arn)⟩ : surroundings.Entry) ∈ log) :
    arn = arnOf name
  guid (drawn : String) (h : (⟨.guid, some drawn⟩ : surroundings.Entry) ∈ log) : drawn = guid

namespace NamedFor

variable {log log' : List surroundings.Entry}

theorem mono (h : NamedFor arnOf guid log') (hl : ∀ e ∈ log, e ∈ log') :
    NamedFor arnOf guid log where
  arn name document arn hmem := h.arn name document arn (hl _ hmem)
  guid drawn hmem := h.guid drawn (hl _ hmem)

theorem namesPolicies (h : NamedFor arnOf guid (l.map Event.entry)) :
    Amazon.NamesPolicies arnOf l :=
  fun name document arn hmem => h.arn name document arn (List.mem_map_of_mem hmem)

end NamedFor

theorem Provider.staysIn_provision {p : Provider} {x : Stop surroundings (Except Error Unit)}
    (h : (p.provision a).Stops l t x) (ha : a.record = Record.empty)
    (hn : NamedFor arnOf guid (l.map Event.entry)) : StaysIn arnOf guid l t x := by
  have hempty : Owned arnOf guid a.record := ha ▸ owned_empty
  rcases Service.stops_provider_provision h with ⟨rfl, rfl, rfl⟩ | ⟨drawn, l', rfl, h'⟩
  · exact ⟨hempty, List.forall_mem_nil _, fun q hq => by cases hq; exact List.forall_mem_nil _⟩
  -- from here on the guid is fixed
  cases hn.guid drawn List.mem_cons_self
  have hstays : StaysIn arnOf guid l' t x := by
    cases p with
    | amazon keyId secret =>
      have hn' : NamedFor arnOf guid (l'.map Event.entry) := hn.mono fun _ => List.mem_cons_of_mem _
      have hmake : (Amazon.provision { a with guid := guid }).Stops l' t x := h'
      exact Amazon.staysIn_provision hmake hempty hn'.namesPolicies
    | azure login template =>
      have hmake : (Azure.provision login template { a with guid := guid }).Stops l' t x := h'
      exact Azure.staysIn_provision hmake hempty
  exact ⟨hstays.record, List.forall_mem_cons.mpr ⟨List.forall_mem_nil _, hstays.answered⟩,
    hstays.asked⟩

theorem Provider.inZone_takeDown {p : Provider} {errors : List Error}
    (h : (p.takeDown a).Stops l t (.value errors)) (ho : Owned arnOf guid a.record) :
    ∀ e ∈ l, InZone arnOf guid e.1 := by
  cases p with
  | amazon keyId secret => exact (Amazon.undone_of_takeDown h).2.inZone ho
  | azure login template => exact Azure.inZone_takeDown h ho

namespace Service

variable {service : Service} {request : Request.Create}

theorem IsQuiet.inZone {q : Question} (h : IsQuiet q) : InZone arnOf guid q :=
  inZone_of_not_isCloud h.1

/-- **The work of a create request keeps to the zone of its guid**, wherever it stops. -/
theorem Working.staysIn {x : Stop surroundings (Except Error Unit)}
    (h : Working service request l t x) (hn : NamedFor arnOf guid (l.map Event.entry)) :
    StaysIn arnOf guid l t x := by
  have hattachment : ∀ cloud c, ∀ e ∈ attachment request cloud c, InZone arnOf guid e.1 :=
    fun cloud c e he => (quiet_attachment e he).inZone
  cases h with
  | fetching hat =>
    rw [hat.eq_of_not_ok (by simp)]
    exact ⟨owned_empty, fun e he => (hat.quiet.1 e he).inZone,
      fun q hq => by cases hq; exact (hat.quiet.2 _ rfl).inZone⟩
  | unattached hat =>
    rw [hat.eq_of_not_ok (by simp)]
    exact ⟨owned_empty, fun e he => (hat.quiet.1 e he).inZone, by simp⟩
  | provisioning _ _ hmake _ =>
    refine (Provider.staysIn_provision hmake rfl (hn.mono fun e he => ?_)).append (hattachment _ _)
    rw [List.map_append]
    exact List.mem_append_right _ he
  | announcing _ _ hmake ha =>
    have hmade := Provider.staysIn_provision hmake rfl (hn.mono fun e he => by
      rw [List.map_append, List.map_append]
      exact List.mem_append_left _ (List.mem_append_right _ he))
    obtain ⟨hannounce, hx⟩ := asks_settleAndAnnounce ha
    have ht : t = _ := keeps_settleAndAnnounce ha
    rw [ht]
    refine StaysIn.append ⟨hmade.record, fun e he => (hannounce e he).inZone,
      fun q hq => (hx q hq).inZone⟩ fun e he => ?_
    exact (List.mem_append.mp he).elim (hattachment _ _ e) (hmade.answered e)

/-- Only the record of an application decides what is taken down. -/
theorem inZone_takeDown {errors : List Error} (h : (service.takeDown a).Stops l t (.value errors))
    (ho : Owned arnOf guid a.record) : ∀ e ∈ l, InZone arnOf guid e.1 := by
  cases hp : a.provider with
  | some p => exact Provider.inZone_takeDown (stops_takeDown_of_provider hp h) ho
  | none =>
    unfold takeDown at h
    rw [Program.stops_get_bind_iff] at h
    simp only [hp] at h
    obtain ⟨l₁, l₂, u, attached, rfl, h₁, h₂⟩ := Program.stops_bind_value_iff.mp h
    have hat := attaching_of_stops h₁
    have hquiet : ∀ e ∈ l₁, InZone arnOf guid e.1 := fun e he => (hat.quiet.1 e he).inZone
    have hdown : ∀ e ∈ l₂, InZone arnOf guid e.1 := by
      cases attached with
      | error failure =>
        obtain ⟨rfl, -, -⟩ := Program.stops_pure_iff.mp h₂
        exact List.forall_mem_nil _
      | ok p =>
        cases hat with
        | attached _ _ _ => exact Provider.inZone_takeDown h₂ ho
    exact fun e he => (List.mem_append.mp he).elim (hquiet e) (hdown e)

theorem inZone_cleanUp {failure : Error} (h : (service.cleanUp request failure a).Stops l t
    (.value ())) (ho : Owned arnOf guid a.record) : ∀ e ∈ l, InZone arnOf guid e.1 := by
  have hmarking : ∀ {extra l}, Marking request failure extra l →
      ∀ e ∈ l, InZone arnOf guid e.1 := fun hm e he =>
    inZone_of_not_isCloud (hm.not_isCloud _ (List.mem_map_of_mem he))
  rcases stops_cleanUp h with ⟨-, -, hm⟩ | ⟨errors, l₁, l₂, -, rfl, hdown, hm⟩
  · exact hmarking hm
  · exact fun e he => (List.mem_append.mp he).elim (inZone_takeDown hdown ho e) (hmarking hm e)

/-- The work keeps to the zone to its end, also if it is cut short. -/
theorem Ended.staysIn {log : List surroundings.Entry} {r : Except Error (Except Error Unit)}
    (h : Ended service service.provisionAndAnnounce (Application.new request "") log t r)
    (hn : NamedFor arnOf guid log) :
    Owned arnOf guid t.record ∧ ∀ e ∈ log, InZone arnOf guid e.1 := by
  cases h with
  | done hstops =>
    have hstays := (working_of_stops hstops).staysIn hn
    refine ⟨hstays.record, fun e he => ?_⟩
    obtain ⟨v, hv, rfl⟩ := List.mem_map.mp he
    exact hstays.answered v hv
  | @cut l₁ l₂ u _ q hstops hr =>
    have hstays := (working_of_stops hstops).staysIn
      (hn.mono fun _ => List.mem_append_left _)
    obtain ⟨hclose, -, ht⟩ := Azure.stops_release hr
    refine ⟨?_, fun e he => ?_⟩
    · rw [ht () rfl]
      exact hstays.record
    · rcases List.mem_append.mp he with he | he
      · obtain ⟨v, hv, rfl⟩ := List.mem_map.mp he
        exact hstays.answered v hv
      · rcases List.mem_cons.mp he with rfl | he
        · exact hstays.asked q rfl
        · obtain ⟨v, hv, rfl⟩ := List.mem_map.mp he
          have hq : v.1 = .azure .closeSession := hclose v hv
          show InZone arnOf guid v.1
          rw [hq]
          exact List.forall_mem_nil _

/-- **A create request keeps to the zone of the guid that it draws**, in its work and in what it does
after a failure. -/
theorem CreateEnds.inZone {log : List surroundings.Entry} {r : Except Error Unit}
    (h : CreateEnds service request log t r) (hn : NamedFor arnOf guid log) :
    ∀ e ∈ log, InZone arnOf guid e.1 := by
  cases h with
  | done h => exact (h.staysIn hn).2
  | failed h _ hc =>
    obtain ⟨ho, hwork⟩ := h.staysIn (hn.mono fun _ => List.mem_append_left _)
    intro e he
    rcases List.mem_append.mp he with he | he
    · exact hwork e he
    · obtain ⟨v, hv, rfl⟩ := List.mem_map.mp he
      exact inZone_cleanUp hc ho v hv

end Service

end CloudGrant
