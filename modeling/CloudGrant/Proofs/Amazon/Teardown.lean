import Mathlib.Data.List.Nodup
import CloudGrant.Proofs.Amazon.Undoing

/-!
# The teardown of a record

What a record says of its teardown is said here without the program: which call undoes a kind
(`remedy?`), which output keeps it from being undone (`missing?`), and which calls there are
(`plan`). Taking down makes exactly the calls of the plan whatever becomes of them, and reports each
kind that it could not undo (`takeDown_attempts_all`).
-/

namespace CloudGrant.Amazon

open Interface

variable {record : Record} {kind : Step.Kind}

/-! ## What a record says of its teardown -/

/-- How a kind is undone, if the outputs that this needs are recorded. -/
def remedy? (record : Record) (kind : Step.Kind) : Option Undoing :=
  let output? (needed : Step.Kind) := record.output? needed.name "output"
  match kind with
  | .binding =>
    (output? .policy).bind fun arn => (output? .role).map fun role =>
      ⟨.detachRolePolicy role arn, arn ++ " from " ++ role⟩
  | .policy => (output? .policy).map fun arn => ⟨.deletePolicy arn, arn⟩
  | .role => (output? .role).map fun name => ⟨.deleteRole name, name⟩
  | .costReport => (output? .costReport).map fun name => ⟨.deleteReport name, name⟩
  | .bucket => (output? .bucket).map fun name => ⟨.deleteBucket name, name⟩

/-- The first kind that has no output although undoing a kind needs it. -/
def missing? (record : Record) (kind : Step.Kind) : Option Step.Kind :=
  (needs kind).find? fun needed => (record.output? needed.name "output").isNone

/-- The failure to undo something because a kind has no output. -/
def unrecorded (needed : Step.Kind) : Error :=
  .undo needed.name "" (Cause.of ("no \"output\" recorded for step \"" ++ needed.name ++ "\""))

/-- The calls of a teardown in their order. -/
def plan (record : Record) : List Call :=
  ([.binding, .policy, .role, .costReport, .bucket].filter fun kind : Step.Kind =>
    record.has kind.name).filterMap fun kind => (remedy? record kind).map Undoing.call

/-- The program decides by what the record says. -/
theorem undoing_cases (record : Record) (kind : Step.Kind) :
    (∃ u, remedy? record kind = some u ∧ undoing record kind = .ok u) ∨
      ∃ needed, remedy? record kind = none ∧ missing? record kind = some needed ∧
        undoing record kind = .error (unrecorded needed) := by
  cases kind with
  | binding =>
    simp only [remedy?, missing?, needs, undoing, recorded, List.find?]
    cases record.output? Step.Kind.policy.name "output" with
    | none => exact .inr ⟨.policy, rfl, rfl, rfl⟩
    | some arn =>
      cases record.output? Step.Kind.role.name "output" with
      | none => exact .inr ⟨.role, rfl, rfl, rfl⟩
      | some role => exact .inl ⟨_, rfl, rfl⟩
  | _ =>
    simp only [remedy?, missing?, needs, undoing, recorded, List.find?]
    generalize record.output? _ "output" = output
    cases output with
    | none => exact .inr ⟨_, rfl, rfl, rfl⟩
    | some v => exact .inl ⟨_, rfl, rfl⟩

theorem remedy?_of_undoing {u : Undoing} (h : undoing record kind = .ok u) :
    remedy? record kind = some u := by
  rcases undoing_cases record kind with ⟨v, hv, ho⟩ | ⟨needed, -, -, he⟩
  · exact Except.ok.inj (ho.symm.trans h) ▸ hv
  · cases he.symm.trans h

/-- The kind that a call undoes. -/
def Call.undoes? : Call → Option Step.Kind
  | detachRolePolicy .. => some .binding
  | deletePolicy _ => some .policy
  | deleteRole _ => some .role
  | deleteReport _ => some .costReport
  | deleteBucket _ => some .bucket
  | _ => none

theorem undoes?_remedy {u : Undoing} (h : remedy? record kind = some u) :
    u.call.undoes? = some kind := by
  cases kind with
  | binding =>
    obtain ⟨arn, -, h⟩ := Option.bind_eq_some_iff.mp h
    obtain ⟨role, -, rfl⟩ := Option.map_eq_some_iff.mp h
    rfl
  | _ =>
    obtain ⟨v, -, rfl⟩ := Option.map_eq_some_iff.mp h
    rfl

/-! ## One attempt for each kind -/

/-- What became of a kind that was to be undone: the call with its answer, if there was one, and the
failure that is reported, if there is one. -/
inductive Fate (record : Record) (kind : Step.Kind) :
    Option surroundings.Event → Option Error → Prop where
  | impossible {needed : Step.Kind} (hr : remedy? record kind = none)
      (hm : missing? record kind = some needed) : Fate record kind none (some (unrecorded needed))
  | undone {u : Undoing} (hr : remedy? record kind = some u) (r : u.call.Result) :
      Fate record kind (some ⟨.amazon u.call, .ok r⟩) none
  | failed {u : Undoing} (hr : remedy? record kind = some u) (cause : Cause) :
      Fate record kind (some ⟨.amazon u.call, .error cause⟩)
        (some (.undo kind.name u.resource cause))

/-- The attempt to undo a kind. -/
structure Attempt (record : Record) where
  kind : Step.Kind
  event? : Option surroundings.Event
  error? : Option Error
  fate : Fate record kind event? error?

/-- **Each kind is attempted**, in the order of the kinds, and each failure is reported. -/
theorem Undone.attempts {kinds : List Step.Kind} {l : List surroundings.Event}
    {errors : List Error} (h : Undone record kinds l errors) :
    ∃ attempts : List (Attempt record), attempts.map Attempt.kind = kinds ∧
      l = attempts.filterMap Attempt.event? ∧ errors = attempts.filterMap Attempt.error? := by
  induction h with
  | nil => exact ⟨[], rfl, rfl, rfl⟩
  | @impossible kind e _ _ _ he _ ih =>
    obtain ⟨attempts, hk, hl, he'⟩ := ih
    rcases undoing_cases record kind with ⟨u, -, hu⟩ | ⟨needed, hr, hm, hu⟩
    · cases hu.symm.trans he
    · cases hu.symm.trans he
      exact ⟨⟨kind, none, _, .impossible hr hm⟩ :: attempts, congrArg (kind :: ·) hk, hl,
        congrArg (unrecorded needed :: ·) he'⟩
  | @done kind u _ _ _ hu r _ ih =>
    obtain ⟨attempts, hk, hl, he⟩ := ih
    exact ⟨⟨kind, _, none, .undone (remedy?_of_undoing hu) r⟩ :: attempts, congrArg (kind :: ·) hk,
      congrArg (_ :: ·) hl, he⟩
  | @failed kind u _ _ _ hu cause _ ih =>
    obtain ⟨attempts, hk, hl, he⟩ := ih
    exact ⟨⟨kind, _, _, .failed (remedy?_of_undoing hu) cause⟩ :: attempts, congrArg (kind :: ·) hk,
      congrArg (_ :: ·) hl, congrArg (_ :: ·) he⟩

/-- The call of an attempt depends on the record alone. -/
theorem Attempt.asked (t : Attempt record) :
    t.event?.map Sigma.fst = (remedy? record t.kind).map fun u => Question.amazon u.call := by
  obtain ⟨kind, event?, error?, fate⟩ := t
  cases fate with
  | impossible hr _ | undone hr _ | failed hr _ =>
    show _ = (remedy? record kind).map fun u => Question.amazon u.call
    rw [hr]
    rfl

/-- The attempts without a failure are those whose call succeeded. -/
theorem Attempt.error?_eq_none_iff (t : Attempt record) :
    t.error? = none ↔
      ∃ u r, remedy? record t.kind = some u ∧ t.event? = some ⟨.amazon u.call, .ok r⟩ := by
  obtain ⟨kind, event?, error?, fate⟩ := t
  cases fate with
  | undone hr r => exact iff_of_true rfl ⟨_, r, hr, rfl⟩
  | impossible hr _ =>
    refine iff_of_false nofun ?_
    rintro ⟨u, r, -, he⟩
    cases he
  | failed hr cause =>
    refine iff_of_false nofun ?_
    rintro ⟨u, r, hr', he⟩
    cases hr.symm.trans hr'
    cases he

/-- No call undoes two kinds, so a call that is seen to succeed tells what became of its kind. -/
theorem errors_eq_nil_iff {attempts : List (Attempt record)}
    (hd : (attempts.map Attempt.kind).Nodup) :
    attempts.filterMap Attempt.error? = [] ↔
      ∀ kind ∈ attempts.map Attempt.kind, ∃ u r, remedy? record kind = some u ∧
        ⟨.amazon u.call, .ok r⟩ ∈ attempts.filterMap Attempt.event? := by
  rw [List.filterMap_eq_nil_iff]
  constructor
  · intro h kind hk
    obtain ⟨t, ht, rfl⟩ := List.mem_map.mp hk
    obtain ⟨u, r, hr, he⟩ := t.error?_eq_none_iff.mp (h t ht)
    exact ⟨u, r, hr, List.mem_filterMap.mpr ⟨t, ht, he⟩⟩
  · intro h t ht
    obtain ⟨u, r, hr, hmem⟩ := h t.kind (List.mem_map_of_mem ht)
    obtain ⟨t', ht', he⟩ := List.mem_filterMap.mp hmem
    -- the attempt that made this call is the one of this kind
    have hasked := t'.asked
    rw [he] at hasked
    obtain ⟨u', hr', hu'⟩ := Option.map_eq_some_iff.mp hasked.symm
    have hkind : t'.kind = t.kind := by
      have hcall : u'.call = u.call := Question.amazon.inj hu'
      have hundoes := undoes?_remedy hr'
      rw [hcall, undoes?_remedy hr] at hundoes
      exact (Option.some.inj hundoes).symm
    have hsame : t' = t := List.inj_on_of_nodup_map hd ht' ht hkind
    exact t.error?_eq_none_iff.mpr ⟨u, r, hr, hsame ▸ he⟩

/-! ## The whole teardown -/

theorem toUndo_nodup (record : Record) : (toUndo record).Nodup :=
  List.Nodup.filter _ (by decide)

/-- Nothing is called twice. -/
theorem plan_nodup (record : Record) : (plan record).Nodup := by
  refine List.Nodup.filterMap ?_ (toUndo_nodup record)
  intro kind kind' call hc hc'
  obtain ⟨u, hu, rfl⟩ := Option.map_eq_some_iff.mp hc
  obtain ⟨u', hu', hcall⟩ := Option.map_eq_some_iff.mp hc'
  have hundoes := undoes?_remedy hu'
  rw [hcall, undoes?_remedy hu] at hundoes
  exact Option.some.inj hundoes

/-- The calls of all attempts are those of the plan. -/
theorem asked_attempts {attempts : List (Attempt record)}
    (hk : attempts.map Attempt.kind = toUndo record) :
    (attempts.filterMap Attempt.event?).map Sigma.fst = (plan record).map Question.amazon := by
  have hplan : (plan record).map Question.amazon =
      (toUndo record).filterMap fun kind => (remedy? record kind).map fun u => .amazon u.call := by
    unfold plan
    rw [List.map_filterMap]
    refine congrArg (fun f => List.filterMap f (toUndo record)) (funext fun kind => ?_)
    exact Option.map_map ..
  rw [hplan, ← hk, List.map_filterMap, List.filterMap_map]
  exact congrArg (fun f => List.filterMap f attempts) (funext Attempt.asked)

/-- A teardown without failures has undone each kind by a call that succeeded. -/
theorem undone_of_no_errors {a t : Application} {l : List surroundings.Event}
    (h : (takeDown a).Stops l t (.value [])) {kind : Step.Kind}
    (hk : a.record.has kind.name = true) :
    ∃ u r, remedy? a.record kind = some u ∧
      (⟨.amazon u.call, .ok r⟩ : surroundings.Event) ∈ l := by
  obtain ⟨attempts, hkinds, rfl, herrors⟩ := (undone_of_takeDown h).2.attempts
  refine (errors_eq_nil_iff (hkinds ▸ toUndo_nodup a.record)).mp herrors.symm kind ?_
  rw [hkinds]
  exact mem_toUndo_iff.mpr hk

/-- **A teardown attempts everything and reports everything.** Its calls are those of the plan,
whatever they are answered. Each kind that is recorded is attempted once, in the fixed order; the
failures are those of the attempts, and there are none just if every kind was undone by a call that
succeeded. -/
theorem takeDown_attempts_all {ω : Type}
    (answer : ω → (q : surroundings.Request) → surroundings.Reply q × ω) (w : ω)
    (a : Application) :
    let history := (takeDown a).history answer w
    let errors := ((takeDown a).exec answer w).1.2
    history.map Sigma.fst = (plan a.record).map Question.amazon ∧ (plan a.record).Nodup ∧
      (∃ attempts : List (Attempt a.record),
        attempts.map Attempt.kind =
            ([.binding, .policy, .role, .costReport, .bucket].filter fun kind : Step.Kind =>
              a.record.has kind.name) ∧
          history = attempts.filterMap Attempt.event? ∧
          errors = attempts.filterMap Attempt.error?) ∧
      (errors = [] ↔ ∀ kind : Step.Kind, a.record.has kind.name = true →
        ∃ u r, remedy? a.record kind = some u ∧ ⟨.amazon u.call, .ok r⟩ ∈ history) := by
  intro history errors
  obtain ⟨-, hundone⟩ := undone_of_takeDown (Run.stops_exec answer w (takeDown a))
  obtain ⟨attempts, hk, hl, he⟩ := hundone.attempts
  have hl : history = attempts.filterMap Attempt.event? := hl
  have he : errors = attempts.filterMap Attempt.error? := he
  refine ⟨?_, plan_nodup a.record, ⟨attempts, hk, hl, he⟩, ?_⟩
  · rw [hl]
    exact asked_attempts hk
  · rw [he, hl, errors_eq_nil_iff (hk ▸ toUndo_nodup a.record), hk]
    simp only [mem_toUndo_iff]

end CloudGrant.Amazon
