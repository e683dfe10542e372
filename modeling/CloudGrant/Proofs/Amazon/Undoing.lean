import CloudGrant.Amazon.Provision
import CloudGrant.Proofs.Cloud.Holdings

/-!
# Undoing a record

What taking down a record comes to (`Undone`): one call for each kind that can be undone, in the
order of the kinds, and one failure for each kind that cannot be, or whose call failed.

`Names` lists the resources that a record knows how to remove. Undoing removes nothing else
(`Undone.has_of_not_names`), and if no call fails then nothing of it is left (`Undone.cleared`).
-/

namespace CloudGrant.Amazon

open CloudGrant.Simulation
open Interface

variable {record : Record}

/-! ## What a record knows -/

/-- A resource that a record names: undoing one of its kinds removes it. -/
def Names (record : Record) (x : Resource) : Prop :=
  ∃ kind u, record.has (Step.Kind.name kind) = true ∧ undoing record kind = .ok u ∧
    removed? u.call = some x

/-- Every kind that a record holds can be undone. -/
def Undoable (record : Record) : Prop :=
  ∀ kind, record.has (Step.Kind.name kind) = true → ∃ u, undoing record kind = .ok u

/-- The kinds whose outputs are needed to undo a kind. -/
def needs : Step.Kind → List Step.Kind
  | .binding => [.policy, .role]
  | kind => [kind]

theorem mem_needs_self {i j : Step.Kind} (h : i ∈ needs j) : i ∈ needs i := by
  revert h
  cases i <;> cases j <;> decide

theorem has_of_output? {name key v : String} (h : record.output? name key = some v) :
    record.has name = true := by
  unfold Record.output? at h
  cases ho : record.outputs? name with
  | none => rw [ho] at h; cases h
  | some o => exact Option.isSome_iff_exists.mpr ⟨o, ho⟩

theorem isEmpty_iff_not_has :
    record.isEmpty = true ↔ ∀ name, record.has name = false := by
  obtain ⟨⟨entries, hasc⟩⟩ := record
  cases entries with
  | nil => exact iff_of_true rfl fun _ => rfl
  | cons e rest =>
    refine iff_of_false (by simp [Record.isEmpty, Dict.isEmpty]) fun h => ?_
    have hfind : Dict.findEntry e.1 (e :: rest) = some e.2 :=
      if_neg fun hne => hne.elim (Key.lt_irrefl _) (Key.lt_irrefl _)
    have he := h e.1
    rw [Record.has, Dict.contains, Dict.find?, hfind] at he
    cases he

theorem recorded_eq_ok_iff {kind : Step.Kind} {v : String} :
    recorded record kind = .ok v ↔ record.output? kind.name "output" = some v := by
  unfold recorded
  cases record.output? kind.name "output" with
  | none => simp
  | some w => simp

/-- Only the outputs that a kind needs matter for undoing it. -/
theorem undoing_congr {record' : Record} {kind : Step.Kind}
    (h : ∀ j ∈ needs kind, record'.output? j.name "output" = record.output? j.name "output") :
    undoing record' kind = undoing record kind := by
  have hr : ∀ j ∈ needs kind, recorded record' j = recorded record j := by
    intro j hj
    unfold recorded
    rw [h j hj]
  cases kind with
  | binding => simp only [undoing, hr .policy (by simp [needs]), hr .role (by simp [needs])]
  | bucket => simp only [undoing, hr .bucket (by simp [needs])]
  | policy => simp only [undoing, hr .policy (by simp [needs])]
  | role => simp only [undoing, hr .role (by simp [needs])]
  | costReport => simp only [undoing, hr .costReport (by simp [needs])]

theorem bind_eq_ok_iff {α β : Type} {x : Except Error α} {f : α → Except Error β} {b : β} :
    (x >>= f) = .ok b ↔ ∃ a, x = .ok a ∧ f a = .ok b := by
  cases x <;> simp [bind, Except.bind]

theorem undoing_eq_ok_iff {kind : Step.Kind} {u : Undoing} :
    undoing record kind = .ok u ↔
      match kind with
      | .binding => ∃ arn, record.output? Step.Kind.policy.name "output" = some arn ∧
          ∃ role, record.output? Step.Kind.role.name "output" = some role ∧
            ⟨.detachRolePolicy role arn, arn ++ " from " ++ role⟩ = u
      | .bucket => ∃ v, record.output? Step.Kind.bucket.name "output" = some v ∧
          ⟨.deleteBucket v, v⟩ = u
      | .policy => ∃ v, record.output? Step.Kind.policy.name "output" = some v ∧
          ⟨.deletePolicy v, v⟩ = u
      | .role => ∃ v, record.output? Step.Kind.role.name "output" = some v ∧
          ⟨.deleteRole v, v⟩ = u
      | .costReport => ∃ v, record.output? Step.Kind.costReport.name "output" = some v ∧
          ⟨.deleteReport v, v⟩ = u := by
  cases kind <;> simp only [undoing, bind_eq_ok_iff, recorded_eq_ok_iff, Except.ok.injEq]

/-- A kind can be undone once all that it needs is recorded. -/
theorem exists_undoing_iff {kind : Step.Kind} :
    (∃ u, undoing record kind = .ok u) ↔
      ∀ j ∈ needs kind, ∃ v, record.output? j.name "output" = some v := by
  constructor
  · rintro ⟨u, hu⟩
    rw [undoing_eq_ok_iff] at hu
    cases kind with
    | binding =>
      obtain ⟨arn, hp, role, hr, rfl⟩ := hu
      simp [needs, hp, hr]
    | _ =>
      obtain ⟨v, hv, rfl⟩ := hu
      simp [needs, hv]
  · intro h
    cases kind with
    | binding =>
      obtain ⟨arn, hp⟩ := h .policy (by simp [needs])
      obtain ⟨role, hr⟩ := h .role (by simp [needs])
      exact ⟨_, undoing_eq_ok_iff.mpr ⟨arn, hp, role, hr, rfl⟩⟩
    | _ =>
      obtain ⟨v, hv⟩ := h _ (List.mem_singleton.mpr rfl)
      exact ⟨_, undoing_eq_ok_iff.mpr ⟨v, hv, rfl⟩⟩

/-- The call that undoes a kind removes something. -/
theorem removed?_undoing {kind : Step.Kind} {u : Undoing} (h : undoing record kind = .ok u) :
    ∃ x, removed? u.call = some x := by
  rw [undoing_eq_ok_iff] at h
  cases kind with
  | binding =>
    obtain ⟨arn, -, role, -, rfl⟩ := h
    exact ⟨_, rfl⟩
  | _ =>
    obtain ⟨v, -, rfl⟩ := h
    exact ⟨_, rfl⟩

/-- The resource that is known by the output of a step; a binding has none of its own. -/
def resource? : Step.Kind → String → Option Resource
  | .bucket, name => some (.bucket name)
  | .policy, arn => some (.policy arn)
  | .role, name => some (.role name)
  | .costReport, name => some (.report name)
  | .binding, _ => none

/-- A resource is named by the output of its kind. -/
theorem names_resource_iff {kind : Step.Kind} {v : String} {x : Resource}
    (hx : resource? kind v = some x) :
    Names record x ↔ record.output? kind.name "output" = some v := by
  constructor
  · rintro ⟨j, u, -, hu, hremoved⟩
    rw [undoing_eq_ok_iff] at hu
    cases j with
    | binding =>
      obtain ⟨arn, -, role, -, rfl⟩ := hu
      cases kind <;> cases hx <;> cases hremoved
    | _ =>
      -- only the undoing of the same kind removes such a resource
      obtain ⟨w, hw, rfl⟩ := hu
      cases kind <;> cases hx <;> cases hremoved
      exact hw
  · intro hv
    have hu : ∃ u, undoing record kind = .ok u ∧ removed? u.call = some x := by
      cases kind <;> cases hx <;> exact ⟨_, undoing_eq_ok_iff.mpr ⟨v, hv, rfl⟩, rfl⟩
    obtain ⟨u, hu, hremoved⟩ := hu
    exact ⟨kind, u, has_of_output? hv, hu, hremoved⟩

/-- An attachment is named by the outputs of both of its ends, once there is a binding. -/
theorem names_attachment_iff {role arn : String} :
    Names record (.attachment role arn) ↔ record.has Step.Kind.binding.name = true ∧
      record.output? Step.Kind.policy.name "output" = some arn ∧
      record.output? Step.Kind.role.name "output" = some role := by
  constructor
  · rintro ⟨kind, u, hk, hu, hremoved⟩
    rw [undoing_eq_ok_iff] at hu
    cases kind with
    | binding =>
      obtain ⟨arn', hp, role', hr, rfl⟩ := hu
      cases hremoved
      exact ⟨hk, hp, hr⟩
    | _ =>
      obtain ⟨v, -, rfl⟩ := hu
      cases hremoved
  · rintro ⟨hk, hp, hr⟩
    exact ⟨.binding, _, hk, undoing_eq_ok_iff.mpr ⟨arn, hp, role, hr, rfl⟩, rfl⟩

theorem mem_toUndo_iff {kind : Step.Kind} :
    kind ∈ toUndo record ↔ record.has kind.name = true := by
  unfold toUndo
  rw [List.mem_filter]
  exact and_iff_right (Step.Kind.mem_teardownOrder kind)

theorem names_iff {x : Resource} :
    Names record x ↔
      ∃ kind ∈ toUndo record, ∃ u, undoing record kind = .ok u ∧ removed? u.call = some x := by
  unfold Names
  simp only [mem_toUndo_iff, exists_and_left]

/-! ## What undoing comes to -/

/-- What undoing some kinds of a record comes to: the calls with their answers, and the failures. -/
inductive Undone (record : Record) :
    List Step.Kind → List surroundings.Event → List Error → Prop where
  | nil : Undone record [] [] []
  | impossible {kind : Step.Kind} {e : Error} {kinds : List Step.Kind}
      {l : List surroundings.Event} {errors : List Error} (h : undoing record kind = .error e) :
      Undone record kinds l errors → Undone record (kind :: kinds) l (e :: errors)
  | done {kind : Step.Kind} {u : Undoing} {kinds : List Step.Kind}
      {l : List surroundings.Event} {errors : List Error} (h : undoing record kind = .ok u)
      (r : u.call.Result) :
      Undone record kinds l errors →
      Undone record (kind :: kinds) (⟨.amazon u.call, .ok r⟩ :: l) errors
  | failed {kind : Step.Kind} {u : Undoing} {kinds : List Step.Kind}
      {l : List surroundings.Event} {errors : List Error} (h : undoing record kind = .ok u)
      (cause : Cause) :
      Undone record kinds l errors →
      Undone record (kind :: kinds) (⟨.amazon u.call, .error cause⟩ :: l)
        (.undo kind.name u.resource cause :: errors)

theorem undone_of_stops {a t : Application} {kinds : List Step.Kind}
    {l : List surroundings.Event} {errors : List Error}
    (h : (undoAll record kinds a).Stops l t (.value errors)) :
    t = a ∧ Undone record kinds l errors := by
  induction kinds generalizing l errors with
  | nil =>
    obtain ⟨rfl, rfl, rfl⟩ := Program.stops_pure_value_iff.mp h
    exact ⟨rfl, .nil⟩
  | cons kind kinds ih =>
    -- the first kind, then the others; a failure of the first does not keep them
    obtain ⟨l₁, l', u, first, rfl, h₁, h'⟩ := Program.stops_bind_value_iff.mp h
    obtain ⟨l₂, l₃, v, more, rfl, h₂, h₃⟩ := Program.stops_bind_value_iff.mp h'
    obtain ⟨rfl, rfl, rfl⟩ := Program.stops_pure_value_iff.mp h₃
    rw [List.append_nil]
    unfold undo at h₁
    cases hu : undoing record kind with
    | error e =>
      simp only [hu] at h₁
      obtain ⟨rfl, rfl, rfl⟩ := Program.stops_pure_value_iff.mp h₁
      obtain ⟨rfl, hmore⟩ := ih h₂
      exact ⟨rfl, .impossible hu hmore⟩
    | ok undoing =>
      simp only [hu] at h₁
      obtain ⟨k₁, k₂, v', reply, rfl, hk₁, hk₂⟩ := Program.stops_bind_value_iff.mp h₁
      obtain ⟨rfl, rfl⟩ := Program.stops_ask_value_iff.mp hk₁
      cases reply with
      | ok r =>
        obtain ⟨rfl, rfl, rfl⟩ := Program.stops_pure_value_iff.mp hk₂
        obtain ⟨rfl, hmore⟩ := ih h₂
        exact ⟨rfl, .done hu r hmore⟩
      | error cause =>
        obtain ⟨rfl, rfl, rfl⟩ := Program.stops_pure_value_iff.mp hk₂
        obtain ⟨rfl, hmore⟩ := ih h₂
        exact ⟨rfl, .failed hu cause hmore⟩

/-- **Taking down undoes all that the record holds.** -/
theorem undone_of_takeDown {a t : Application} {l : List surroundings.Event} {errors : List Error}
    (h : (takeDown a).Stops l t (.value errors)) :
    t = a ∧ Undone a.record (toUndo a.record) l errors :=
  undone_of_stops (Program.stops_get_bind_iff.mp h)

/-- Nothing is asked but to undo the kinds. -/
theorem asks_undoAll {P : Question → Prop} {kinds : List Step.Kind}
    (h : ∀ kind ∈ kinds, ∀ u, undoing record kind = .ok u → P (.amazon u.call)) :
    (undoAll record kinds).Asks P := by
  induction kinds with
  | nil => exact Program.asks_pure _
  | cons kind kinds ih =>
    have hmore := ih fun j hj => h j (List.mem_cons_of_mem _ hj)
    refine Program.asks_bind ?_ fun _ => Program.asks_bind hmore fun _ => Program.asks_pure _
    unfold undo
    cases hu : undoing record kind with
    | error e => exact Program.asks_pure _
    | ok u =>
      refine Program.asks_bind (Program.asks_ask (h kind List.mem_cons_self u hu)) fun r => ?_
      cases r <;> exact Program.asks_pure _

/-- Undoing leaves the application alone. -/
theorem keeps_undoAll {kinds : List Step.Kind} : (undoAll record kinds).Keeps id := by
  induction kinds with
  | nil => exact Program.keeps_pure _
  | cons kind kinds ih =>
    refine Program.keeps_bind ?_ fun _ => Program.keeps_bind ih fun _ => Program.keeps_pure _
    unfold undo
    cases undoing record kind with
    | error e => exact Program.keeps_pure _
    | ok u =>
      refine Program.keeps_bind (Program.keeps_ask _) fun r => ?_
      cases r <;> exact Program.keeps_pure _

theorem keeps_takeDown : takeDown.Keeps id :=
  Program.keeps_bind Program.keeps_get fun _ => keeps_undoAll

theorem asks_takeDown : takeDown.Asks fun q => Question.isCloud q = true :=
  Program.asks_bind Program.asks_get fun _ => asks_undoAll fun _ _ _ _ => rfl

/-- The failure of a kind that cannot be undone. -/
def impossible? (record : Record) (kind : Step.Kind) : Option Error :=
  match undoing record kind with
  | .error e => some e
  | .ok _ => none

namespace Undone

variable {kinds : List Step.Kind} {l : List surroundings.Event} {errors : List Error}

theorem compensates (h : Undone record kinds l errors) :
    ∀ e ∈ l, Question.compensates e.1 = true := by
  have hcall : ∀ {kind u}, undoing record kind = .ok u → u.call.removes = true := by
    intro kind u hu
    obtain ⟨x, hx⟩ := removed?_undoing hu
    cases hc : u.call <;> rw [hc] at hx <;> first | rfl | cases hx
  induction h with
  | nil => simp
  | impossible _ _ ih => exact ih
  | done hu _ _ ih => exact List.forall_mem_cons.mpr ⟨hcall hu, ih⟩
  | failed hu _ _ ih => exact List.forall_mem_cons.mpr ⟨hcall hu, ih⟩

/-- Nothing is made, and what is removed is what a kind's undoing removes. -/
theorem removes (h : Undone record kinds l errors) {e : surroundings.Entry}
    (he : e ∈ l.map Event.entry) :
    OnlyRemoves e.1 ∧ ∀ x, Removes x e → ∃ kind ∈ kinds, ∃ u, undoing record kind = .ok u ∧
      removed? u.call = some x := by
  have hcall : ∀ {kind u} {e : surroundings.Entry}, undoing record kind = .ok u →
      e.1 = .amazon u.call → OnlyRemoves e.1 ∧ ∀ x, Removes x e → removed? u.call = some x := by
    intro kind u e hu he
    obtain ⟨y, hy⟩ := removed?_undoing hu
    refine ⟨.inr (.inr ⟨_, y, he, hy⟩), ?_⟩
    rintro x ⟨c, r, rfl, hx⟩
    cases he
    exact hx
  induction h with
  | nil => cases he
  | impossible _ _ ih =>
    obtain ⟨honly, hx⟩ := ih he
    exact ⟨honly, fun x hr => (hx x hr).imp fun _ h => ⟨List.mem_cons_of_mem _ h.1, h.2⟩⟩
  | done hu _ _ ih | failed hu _ _ ih =>
    rcases List.mem_cons.mp he with rfl | he
    · obtain ⟨honly, hx⟩ := hcall (e := Event.entry ⟨.amazon _, _⟩) hu rfl
      exact ⟨honly, fun x hr => ⟨_, List.mem_cons_self, _, hu, hx x hr⟩⟩
    · obtain ⟨honly, hx⟩ := ih he
      exact ⟨honly, fun x hr => (hx x hr).imp fun _ h => ⟨List.mem_cons_of_mem _ h.1, h.2⟩⟩

/-- What exists after undoing is what was not removed. -/
theorem has_iff (h : Undone record kinds l errors) {now : Holdings} {x : Resource} :
    (now.after (l.map Event.entry)).has x = true ↔
      now.has x = true ∧ ∀ e ∈ l.map Event.entry, ¬ Removes x e :=
  Holdings.has_after_iff fun _ he => (h.removes he).1

/-- What is absent stays absent. -/
theorem not_has (h : Undone record kinds l errors) {now : Holdings} {x : Resource}
    (hx : now.has x = false) : (now.after (l.map Event.entry)).has x = false := by
  refine Bool.eq_false_iff.mpr fun hafter => ?_
  rw [(h.has_iff.mp hafter).1] at hx
  cases hx

/-- What the record does not name stays. -/
theorem has_of_not_names (h : Undone record kinds l errors)
    (hk : ∀ kind ∈ kinds, record.has kind.name = true) {now : Holdings} {x : Resource}
    (hn : ¬ Names record x) (hx : now.has x = true) :
    (now.after (l.map Event.entry)).has x = true := by
  refine h.has_iff.mpr ⟨hx, fun e he hr => hn ?_⟩
  obtain ⟨kind, hkind, u, hu, hremoved⟩ := (h.removes he).2 x hr
  exact ⟨kind, u, hk kind hkind, hu, hremoved⟩

/-- If no call fails then every kind that can be undone was. -/
theorem exists_done (h : Undone record kinds l errors) (hl : ∀ e ∈ l.map Event.entry, ¬ Failed e)
    {kind : Step.Kind} {u : Undoing} (hk : kind ∈ kinds) (hu : undoing record kind = .ok u) :
    ∃ r, (⟨.amazon u.call, .ok r⟩ : surroundings.Event) ∈ l := by
  induction h with
  | nil => cases hk
  | impossible he _ ih =>
    rcases List.mem_cons.mp hk with rfl | hk
    · cases hu.symm.trans he
    · exact ih hl hk
  | done hv r _ ih =>
    rcases List.mem_cons.mp hk with rfl | hk
    · cases hu.symm.trans hv
      exact ⟨r, List.mem_cons_self⟩
    · exact (ih (fun e he => hl e (List.mem_cons_of_mem _ he)) hk).imp fun _ =>
        List.mem_cons_of_mem _
  | failed _ cause _ _ => exact absurd ⟨.error cause, rfl, rfl⟩ (hl _ List.mem_cons_self)

/-- If no call fails then what the kinds remove has been removed, and nothing else. -/
theorem exists_removes_iff (h : Undone record kinds l errors)
    (hl : ∀ e ∈ l.map Event.entry, ¬ Failed e) {x : Resource} :
    (∃ e ∈ l.map Event.entry, Removes x e) ↔
      ∃ kind ∈ kinds, ∃ u, undoing record kind = .ok u ∧ removed? u.call = some x := by
  constructor
  · rintro ⟨e, he, hr⟩
    exact (h.removes he).2 x hr
  · rintro ⟨kind, hk, u, hu, hx⟩
    obtain ⟨r, hr⟩ := h.exists_done hl hk hu
    exact ⟨_, List.mem_map_of_mem hr, u.call, r, rfl, hx⟩

/-- **If no call fails then nothing is left of what was to be undone.** -/
theorem cleared (h : Undone record kinds l errors) (hl : ∀ e ∈ l.map Event.entry, ¬ Failed e)
    {now : Holdings} {kind : Step.Kind} {u : Undoing} {x : Resource} (hk : kind ∈ kinds)
    (hu : undoing record kind = .ok u) (hx : removed? u.call = some x) :
    (now.after (l.map Event.entry)).has x = false := by
  obtain ⟨e, he, hr⟩ := (h.exists_removes_iff hl).mpr ⟨kind, hk, u, hu, hx⟩
  exact Bool.eq_false_iff.mpr fun hafter => (h.has_iff.mp hafter).2 e he hr

/-- **Undoing again makes good what failed**: if no call fails the second time then the same is left
as if none had failed the first time. -/
theorem after_again {first again : List surroundings.Event} {errors' errors'' : List Error}
    (h : Undone record kinds first errors) (h' : Undone record kinds again errors')
    (h'' : Undone record kinds l errors'') (hagain : ∀ e ∈ again.map Event.entry, ¬ Failed e)
    (hl : ∀ e ∈ l.map Event.entry, ¬ Failed e) (now : Holdings) :
    (now.after (first.map Event.entry)).after (again.map Event.entry) =
      now.after (l.map Event.entry) := by
  refine Holdings.ext_has fun x => Bool.eq_iff_iff.mpr ?_
  rw [h'.has_iff, h.has_iff, h''.has_iff, and_assoc]
  refine and_congr_right fun _ => ⟨fun ⟨_, hnot⟩ e he hr => ?_, fun hnot => ⟨fun e he hr => ?_,
    fun e he hr => ?_⟩⟩
  · obtain ⟨e', he', hr'⟩ := (h'.exists_removes_iff hagain).mpr ((h''.removes he).2 x hr)
    exact hnot e' he' hr'
  · obtain ⟨e', he', hr'⟩ := (h''.exists_removes_iff hl).mpr ((h.removes he).2 x hr)
    exact hnot e' he' hr'
  · obtain ⟨e', he', hr'⟩ := (h''.exists_removes_iff hl).mpr ((h'.removes he).2 x hr)
    exact hnot e' he' hr'

/-- If no call fails then the failures are those of the kinds that cannot be undone. -/
theorem errors_eq (h : Undone record kinds l errors) (hl : ∀ e ∈ l.map Event.entry, ¬ Failed e) :
    errors = kinds.filterMap (impossible? record) := by
  induction h with
  | nil => rfl
  | impossible he _ ih =>
    rw [List.filterMap_cons_some (by rw [impossible?, he]), ← ih hl]
  | done hu _ _ ih =>
    rw [List.filterMap_cons_none (by rw [impossible?, hu])]
    exact ih fun e he => hl e (List.mem_cons_of_mem _ he)
  | failed _ cause _ _ => exact absurd ⟨.error cause, rfl, rfl⟩ (hl _ List.mem_cons_self)

/-- If all can be undone and no call fails then there are no failures. -/
theorem errors_eq_nil (h : Undone record kinds l errors)
    (hl : ∀ e ∈ l.map Event.entry, ¬ Failed e)
    (hu : ∀ kind ∈ kinds, ∃ u, undoing record kind = .ok u) : errors = [] := by
  rw [h.errors_eq hl, List.filterMap_eq_nil_iff]
  intro kind hk
  obtain ⟨u, hu⟩ := hu kind hk
  rw [impossible?, hu]

/-- There is a call if there is something that can be undone. -/
theorem ne_nil (h : Undone record kinds l errors) {kind : Step.Kind} {u : Undoing}
    (hk : kind ∈ kinds) (hu : undoing record kind = .ok u) : l ≠ [] := by
  induction h with
  | nil => cases hk
  | impossible he _ ih =>
    rcases List.mem_cons.mp hk with rfl | hk
    · rw [hu] at he
      cases he
    · exact ih hk
  | done _ _ _ _ => exact List.cons_ne_nil _ _
  | failed _ _ _ _ => exact List.cons_ne_nil _ _

end Undone

/-- **Taking down is idempotent**: taking down again, with no failed call, leaves and reports what it
would have left and reported alone. -/
theorem takeDown_again {a t t' t'' : Application} {first again once : List surroundings.Event}
    {errors errors' errors'' : List Error} (h : (takeDown a).Stops first t (.value errors))
    (h' : (takeDown t).Stops again t' (.value errors'))
    (h'' : (takeDown a).Stops once t'' (.value errors''))
    (hagain : ∀ e ∈ again.map Event.entry, ¬ Failed e)
    (honce : ∀ e ∈ once.map Event.entry, ¬ Failed e) :
    errors' = errors'' ∧ ∀ now : Holdings,
      (now.after (first.map Event.entry)).after (again.map Event.entry) =
        now.after (once.map Event.entry) := by
  obtain ⟨rfl, hfirst⟩ := undone_of_takeDown h
  obtain ⟨-, hmore⟩ := undone_of_takeDown h'
  obtain ⟨-, hsole⟩ := undone_of_takeDown h''
  refine ⟨?_, hfirst.after_again hmore hsole hagain honce⟩
  rw [hmore.errors_eq hagain, hsole.errors_eq honce]

end CloudGrant.Amazon
