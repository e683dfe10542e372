import CloudGrant.Proofs.Amazon.Repetition
import CloudGrant.Proofs.Amazon.Teardown

/-!
# What was made can be taken down

Wherever the making of an application stops, its record holds what is needed to take it down
(`Reversible`): the outputs of each kind that it holds, and for a binding those of both of its ends. So
its teardown has a call for each kind, and fails only where a call fails (`provision_reversible`).

A binding names no outputs of its own. That the outputs of its ends still are the pair that was attached
takes that nothing was made in place of either since (`Reversible.pair`).
-/

namespace CloudGrant.Amazon

open Interface

variable {a t u : Application} {step : Step} {l l' : List surroundings.Event}

/-! ## Bindings -/

/-- That a role was bound to a policy. -/
def Attaches (l : List surroundings.Event) : Prop :=
  ∃ role arn r, (⟨.amazon (.attachRolePolicy role arn), .ok r⟩ : surroundings.Event) ∈ l

/-- A binding is noted when a role was bound. -/
theorem Course.attaches {x : Stop surroundings (Except Error Unit)} (h : Course step a l t x)
    (ht : t.record.has Step.Kind.binding.name = true) :
    a.record.has Step.Kind.binding.name = true ∨ Attaches l := by
  rcases h.noted with ⟨rfl, -⟩ | ⟨kind, c, r, rest, hmaking, rfl, rfl, -⟩
  · exact .inl ht
  · by_cases hk : kind = .binding
    · subst hk
      cases hmaking with
      | binding _ _ => exact .inr ⟨_, _, r, List.mem_cons_self⟩
    · rw [noting, has_complete, decide_eq_false fun he => hk (Step.Kind.name_injective he.symm)] at ht
      exact .inl ht

theorem attaches_runSteps {steps : List Step} {x : Stop surroundings (Except Error Unit)}
    (h : (runSteps steps a).Stops l t x) (ht : t.record.has Step.Kind.binding.name = true) :
    a.record.has Step.Kind.binding.name = true ∨ Attaches l := by
  induction steps generalizing a l with
  | nil =>
    obtain ⟨-, rfl, -⟩ := Program.stops_pure_iff.mp h
    exact .inl ht
  | cons step steps ih =>
    rcases Program.stops_andThen_iff.mp h with
      ⟨q, rfl, hq⟩ | ⟨e, rfl, he⟩ | ⟨l₁, l₂, u, _, rfl, h₁, h₂⟩
    · exact (course_of_stops hq).attaches ht
    · exact (course_of_stops he).attaches ht
    · rcases ih h₂ with hu | ⟨role, arn, r, hmem⟩
      · rcases (course_of_stops h₁).attaches hu with ha | ⟨role, arn, r, hmem⟩
        · exact .inl ha
        · exact .inr ⟨role, arn, r, List.mem_append_left _ hmem⟩
      · exact .inr ⟨role, arn, r, List.mem_append_right _ hmem⟩

/-- What is about to be attached is what the record holds. -/
theorem Course.output?_of_attaching {role arn : String}
    (h : Course step a l t (.question (.amazon (.attachRolePolicy role arn)))) :
    t.record.output? Step.Kind.role.name "output" = some role ∧
      t.record.output? Step.Kind.policy.name "output" = some arn := by
  cases h with
  | asking _ hc =>
    cases hc with
    | binding hr hp => exact ⟨hr, hp⟩

theorem output?_of_attaching {steps : List Step} {role arn : String}
    (h : (runSteps steps a).Stops l t (.question (.amazon (.attachRolePolicy role arn)))) :
    t.record.output? Step.Kind.role.name "output" = some role ∧
      t.record.output? Step.Kind.policy.name "output" = some arn := by
  induction steps generalizing a l with
  | nil =>
    obtain ⟨-, -, hx⟩ := Program.stops_pure_iff.mp h
    cases hx
  | cons step steps ih =>
    rcases Program.stops_andThen_iff.mp h with
      ⟨q, hx, hq⟩ | ⟨e, hx, -⟩ | ⟨l₁, l₂, u, _, -, -, h₂⟩
    · cases hx
      exact (course_of_stops hq).output?_of_attaching
    · cases hx
    · exact ih h₂

theorem attaches_provision {x : Stop surroundings (Except Error Unit)} (ha : a.record = Record.empty)
    (h : (provision a).Stops l t x) (ht : t.record.has Step.Kind.binding.name = true) :
    Attaches l := by
  have hrun : ∀ {v y}, (runSteps a.request.steps a).Stops l v y →
      v.record.has Step.Kind.binding.name = true → Attaches l := by
    intro v y hs hv
    refine (attaches_runSteps hs hv).resolve_left ?_
    rw [ha]
    decide
  rcases stops_provision h with ⟨hs, -⟩ | ⟨-, v, hs, rfl⟩
  · exact hrun hs ht
  · exact hrun hs ht

/-! ## Records of runs -/

/-- The record that a run has come to can be taken down. It holds steps only, with the outputs that
undoing them needs; bucket and role have the names of the application; a binding was made, and if
neither role nor policy was made after it then the record holds the pair that was attached. -/
structure Reversible (a : Application) (l : List surroundings.Event) (t : Application) : Prop where
  kinds : ∀ name, t.record.has name = true → ∃ kind, Step.Kind.name kind = name
  output : ∀ kind : Step.Kind, kind ≠ .binding → t.record.has kind.name = true →
    ∃ v, t.record.output? kind.name "output" = some v
  ends : t.record.has Step.Kind.binding.name = true → ∃ role arn,
    t.record.output? Step.Kind.role.name "output" = some role ∧
      t.record.output? Step.Kind.policy.name "output" = some arn
  bucket : ∀ v, t.record.output? Step.Kind.bucket.name "output" = some v →
    v = Naming.resource a.request.applicationType "bucket" a.guid
  role : ∀ v, t.record.output? Step.Kind.role.name "output" = some v →
    v = Naming.resource a.request.applicationType "role" a.guid
  attached : t.record.has Step.Kind.binding.name = true → Attaches l
  pair : ∀ l₁ role arn r l₂, l = l₁ ++ ⟨.amazon (.attachRolePolicy role arn), .ok r⟩ :: l₂ →
    (∀ e ∈ l₂, made? .role e = none ∧ made? .policy e = none) →
      t.record.output? Step.Kind.role.name "output" = some role ∧
        t.record.output? Step.Kind.policy.name "output" = some arn

/-- The last output of a kind is still the last one if no other is made. -/
theorem last?_append_cons {kind : Step.Kind} {e : surroundings.Event}
    (he : made? kind e = none) (h : ∀ e ∈ l', made? kind e = none) :
    last? kind (l ++ e :: l') = last? kind l := by
  rw [last?_append, last?_eq_none (List.forall_mem_cons.mpr ⟨he, h⟩)]
  rfl

theorem reversible_of_stops {x : Stop surroundings (Except Error Unit)} (ha : a.record = Record.empty)
    (h : (provision a).Stops l t x) : Reversible a l t := by
  have hempty : Sound a.record := ha ▸ sound_empty
  have hsound := sound_provision h hempty
  have hrecalls := recalls_provision ha h
  have hneeded : ∀ kind : Step.Kind, t.record.has kind.name = true → ∀ j ∈ needs kind,
      ∃ v, t.record.output? j.name "output" = some v :=
    fun kind hk => exists_undoing_iff.mp (hsound.undoable kind hk)
  refine ⟨hsound.kinds, ?_, ?_, ?_, ?_, ?_, ?_⟩
  · intro kind hne hk
    refine hneeded kind hk kind ?_
    cases kind <;> first | exact absurd rfl hne | exact List.mem_cons_self
  · intro hk
    obtain ⟨role, hrole⟩ := hneeded .binding hk .role (by decide)
    obtain ⟨arn, harn⟩ := hneeded .binding hk .policy (by decide)
    exact ⟨role, arn, hrole, harn⟩
  · intro v hv
    rw [hrecalls.outputs .bucket (by decide)] at hv
    obtain ⟨e, he, hmade⟩ := exists_made_of_last? hv
    exact hrecalls.bucket_eq he hmade
  · intro v hv
    rw [hrecalls.outputs .role (by decide)] at hv
    obtain ⟨e, he, hmade⟩ := exists_made_of_last? hv
    exact hrecalls.role_eq he hmade
  · exact attaches_provision ha h
  · rintro l₁ role arn r l₂ rfl hlater
    -- at the stop before the attachment the record held the pair, and nothing was made since
    obtain ⟨u, hu⟩ := h.question
    obtain ⟨hs, -⟩ := (stops_provision hu).resolve_right nofun
    obtain ⟨hrole, harn⟩ := output?_of_attaching hs
    have hbefore := recalls_provision ha hu
    rw [hbefore.outputs .role (by decide)] at hrole
    rw [hbefore.outputs .policy (by decide)] at harn
    rw [hrecalls.outputs .role (by decide), hrecalls.outputs .policy (by decide),
      last?_append_cons rfl fun e he => (hlater e he).1,
      last?_append_cons rfl fun e he => (hlater e he).2]
    exact ⟨hrole, harn⟩

/-! ## Their teardown -/

/-- If all kinds can be undone then each has its call, and only calls that failed are reported. -/
theorem Undone.calls {record : Record} {kinds : List Step.Kind} {errors : List Error}
    (h : Undone record kinds l errors) (hu : ∀ kind ∈ kinds, ∃ u, undoing record kind = .ok u) :
    List.Forall₂ (fun kind e => ∃ u, remedy? record kind = some u ∧ e.1 = .amazon u.call) kinds l ∧
      ∀ e ∈ errors, ∃ kind ∈ kinds, ∃ u cause, remedy? record kind = some u ∧
        (⟨.amazon u.call, .error cause⟩ : surroundings.Event) ∈ l ∧
          e = .undo kind.name u.resource cause := by
  induction h with
  | nil => exact ⟨.nil, nofun⟩
  | impossible he _ _ =>
    obtain ⟨u, hu⟩ := hu _ List.mem_cons_self
    cases hu.symm.trans he
  | done hv r _ ih =>
    obtain ⟨hcalls, herrors⟩ := ih fun kind hk => hu kind (List.mem_cons_of_mem _ hk)
    refine ⟨.cons ⟨_, remedy?_of_undoing hv, rfl⟩ hcalls, fun e he => ?_⟩
    obtain ⟨kind, hk, u, cause, hremedy, hmem, rfl⟩ := herrors e he
    exact ⟨kind, List.mem_cons_of_mem _ hk, u, cause, hremedy, List.mem_cons_of_mem _ hmem, rfl⟩
  | failed hv cause _ ih =>
    obtain ⟨hcalls, herrors⟩ := ih fun kind hk => hu kind (List.mem_cons_of_mem _ hk)
    refine ⟨.cons ⟨_, remedy?_of_undoing hv, rfl⟩ hcalls, fun e he => ?_⟩
    rcases List.mem_cons.mp he with rfl | he
    · exact ⟨_, List.mem_cons_self, _, cause, remedy?_of_undoing hv, List.mem_cons_self, rfl⟩
    · obtain ⟨kind, hk, u, cause, hremedy, hmem, rfl⟩ := herrors e he
      exact ⟨kind, List.mem_cons_of_mem _ hk, u, cause, hremedy, List.mem_cons_of_mem _ hmem, rfl⟩

/-- **What was made can be taken down**, wherever the making stopped. The record is reversible; taking
it down makes one call for each kind that it holds, whatever the calls are answered, and each failure is
that of a call. -/
theorem provision_reversible {x : Stop surroundings (Except Error Unit)} (ha : a.record = Record.empty)
    (h : (provision a).Stops l t x) :
    Reversible a l t ∧
    ∃ kinds : List Step.Kind, kinds.Nodup ∧ (∀ kind, kind ∈ kinds ↔ t.record.has kind.name = true) ∧
      ∀ b : Application, b.record = t.record → ∀ (ω : Type)
          (answer : ω → (q : surroundings.Request) → surroundings.Reply q × ω) (w : ω),
        List.Forall₂
            (fun kind e => ∃ u, remedy? t.record kind = some u ∧ e.1 = Question.amazon u.call)
            kinds ((takeDown b).history answer w) ∧
          ∀ e ∈ ((takeDown b).exec answer w).1.2, ∃ kind ∈ kinds, ∃ u cause,
            remedy? t.record kind = some u ∧
              ⟨.amazon u.call, .error cause⟩ ∈ (takeDown b).history answer w ∧
                e = .undo kind.name u.resource cause := by
  have hsound := sound_provision h (ha ▸ sound_empty)
  refine ⟨reversible_of_stops ha h, toUndo t.record, toUndo_nodup _, fun _ => mem_toUndo_iff, ?_⟩
  intro b hb ω answer w
  obtain ⟨-, hundone⟩ := undone_of_takeDown (Run.stops_exec answer w (takeDown b))
  rw [hb] at hundone
  exact hundone.calls fun kind hk => hsound.undoable kind (mem_toUndo_iff.mp hk)

/-- An application whose role is bound to a policy. -/
def boundRole : Application :=
  Application.new
    { Request.Create.blank with
      applicationType := "/apps/billing"
      provider := "amazon"
      steps := [.plain 1 "role" "", .plain 2 "policy" "", .plain 3 "bind_role" ""] } "0f1e2d3c"

/-- An account in which all calls succeed. -/
def granting (_ : Unit) : (q : surroundings.Request) → surroundings.Reply q × Unit
  | .amazon c => (.ok (Simulation.amazonResult c), ())
  | .azure _ => (.error (Cause.of "denied"), ())
  | .inventory _ c => (.error ⟨c.operation, none, "denied"⟩, ())
  | .build .. => ((), ())
  | .wait _ => ((), ())
  | .guid => ("", ())

/-- The record of a bound role can be taken down. -/
theorem bound_role_reversible :
    ((provision boundRole).exec granting ()).1.1.record.has Step.Kind.binding.name = true ∧
      Reversible boundRole ((provision boundRole).history granting ())
        ((provision boundRole).exec granting ()).1.1 :=
  ⟨by decide +kernel,
    (provision_reversible rfl (Run.stops_exec granting () (provision boundRole))).1⟩

end CloudGrant.Amazon
