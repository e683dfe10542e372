import CloudGrant.Proofs.Amazon.Course
import CloudGrant.Proofs.Amazon.Undoing

/-!
# The record keeps track of the account

While steps are carried out, the record names all that exists in the account beside what was there
before (`Tracked`). This holds at every point where the run can stop, and taking down preserves it:
what is left then is still named. Once everything that is named was removed, the account is as it
was before (`Tracked.restored`).

A step that is noted anew would forget what its record named, so the names of the steps have to be
distinct.
-/

namespace CloudGrant.Amazon

open CloudGrant.Simulation
open Interface

/-- The record names all that exists beside what was there before, and can be undone. -/
structure Tracked (arnOf : String → String) (before now : Holdings) (a : Application) : Prop where
  kept : ∀ x, before.has x = true → now.has x = true
  covered : ∀ x, now.has x = true → before.has x = true ∨ Names a.record x
  own : ∀ x, Names a.record x → ∃ name, Carries a.guid name ∧ x.IsNamed arnOf name
  undoable : Undoable a.record

variable {arnOf : String → String} {before now : Holdings} {a t : Application}
  {l : List surroundings.Event}

/-- Only the guid and the record of an application matter. -/
theorem Tracked.congr {b : Application} (ht : Tracked arnOf before now a) (hg : b.guid = a.guid)
    (hr : b.record = a.record) : Tracked arnOf before now b where
  kept := ht.kept
  covered := hr ▸ ht.covered
  own := hg ▸ hr ▸ ht.own
  undoable := hr ▸ ht.undoable

/-- Nothing is recorded and nothing has changed. -/
theorem tracked_of_not_has (h : ∀ name, a.record.has name = false) :
    Tracked arnOf before before a where
  kept _ hx := hx
  covered _ hx := .inl hx
  own := by
    rintro x ⟨kind, _, hk, -⟩
    rw [h] at hk
    cases hk
  undoable kind hk := by
    rw [h] at hk
    cases hk

/-- As long as nothing is recorded, nothing has changed. -/
theorem Tracked.eq_before (ht : Tracked arnOf before now a)
    (h : ∀ name, a.record.has name = false) : now = before := by
  refine Holdings.ext_has fun x => Bool.eq_iff_iff.mpr ⟨fun hx => ?_, ht.kept x⟩
  rcases ht.covered x hx with hb | ⟨kind, _, hk, -⟩
  · exact hb
  · rw [h] at hk
    cases hk

/-! ## Noting a step -/

theorem has_complete {record : Record} {name other : String} {o : Outputs} :
    (record.complete name o).has other = (decide (other = name) || record.has other) := by
  unfold Record.has Record.complete Dict.contains
  by_cases h : other = name
  · simp [h]
  · simp [h, Dict.find?_insert_of_ne _ _ h]

theorem output?_complete_self {record : Record} {name key : String} {o : Outputs} :
    (record.complete name o).output? name key = o.find? key := by
  unfold Record.output?
  rw [Record.outputs?_complete_self]
  rfl

theorem output?_complete_of_ne {record : Record} {name other key : String} {o : Outputs}
    (h : other ≠ name) : (record.complete name o).output? other key = record.output? other key := by
  unfold Record.output?
  rw [Record.outputs?_complete_of_ne record o h]

/-- A step that is new to a record changes nothing about undoing the others. -/
theorem undoing_complete {record : Record} {kind j : Step.Kind} {o : Outputs}
    (hu : Undoable record) (hnew : record.has kind.name = false) (hj : record.has j.name = true) :
    undoing (record.complete kind.name o) j = undoing record j := by
  refine undoing_congr fun i hi => output?_complete_of_ne fun he => ?_
  obtain ⟨v, hv⟩ := exists_undoing_iff.mp (hu j hj) i hi
  have hhas : record.has i.name = true := has_of_output? hv
  rw [he, hnew] at hhas
  cases hhas

/-- What a step of a kind has made is what undoing it will remove. -/
theorem Making.undoing {step : Step} {kind : Step.Kind} {c : Call} (h : Making step a kind c)
    (r : c.Result) : ∃ u x, undoing (noting a kind c r).record kind = .ok u ∧
      removed? u.call = some x ∧ added? c r = some x := by
  have hout : ∀ {name : String} {outputs : List (String × String)} {v : String},
      (Dict.ofList outputs).find? "output" = some v →
      (a.record.complete name (Dict.ofList outputs)).output? name "output" = some v :=
    fun hv => output?_complete_self.trans hv
  cases h with
  | bucket =>
    exact ⟨_, _, undoing_eq_ok_iff.mpr ⟨_, hout (Dict.find?_insert_self _ _ _), rfl⟩, rfl, rfl⟩
  | policy =>
    exact ⟨_, _, undoing_eq_ok_iff.mpr ⟨_, hout (Dict.find?_insert_self _ _ _), rfl⟩, rfl, rfl⟩
  | costReport =>
    exact ⟨_, _, undoing_eq_ok_iff.mpr ⟨_, hout (Dict.find?_insert_self _ _ _), rfl⟩, rfl, rfl⟩
  | role =>
    have hv : (Dict.ofList [("output", nameOf a "role"), ("arn", r)]).find? "output" =
        some (nameOf a "role") := by simp [Dict.ofList, Dict.insertAll, Dict.find?_insert]
    exact ⟨_, _, undoing_eq_ok_iff.mpr ⟨_, hout hv, rfl⟩, rfl, rfl⟩
  | binding hr hp =>
    refine ⟨_, _, undoing_eq_ok_iff.mpr ⟨_, ?_, _, ?_, rfl⟩, rfl, rfl⟩
    · exact (output?_complete_of_ne (by decide)).trans hp
    · exact (output?_complete_of_ne (by decide)).trans hr

/-- Noting a step adds what was made to what the record names. -/
theorem names_noting {step : Step} {kind : Step.Kind} {c : Call} (h : Making step a kind c)
    (r : c.Result) (hu : Undoable a.record) (hnew : a.record.has kind.name = false)
    {x : Resource} :
    Names (noting a kind c r).record x ↔ Names a.record x ∨ added? c r = some x := by
  obtain ⟨u, y, huy, hy, hadd⟩ := h.undoing r
  constructor
  · rintro ⟨j, v, hj, hv, hx⟩
    by_cases hjk : j = kind
    · subst hjk
      rw [huy] at hv
      cases hv
      rw [hy] at hx
      exact .inr (hadd.trans hx)
    · have hj' : a.record.has j.name = true := by
        rw [noting, has_complete, decide_eq_false (hjk ∘ Step.Kind.name_injective)] at hj
        exact hj
      exact .inl ⟨j, v, hj', (undoing_complete hu hnew hj').symm.trans hv, hx⟩
  · rintro (⟨j, v, hj, hv, hx⟩ | hx)
    · refine ⟨j, v, ?_, (undoing_complete hu hnew hj).trans hv, hx⟩
      simp [noting, has_complete, hj]
    · refine ⟨kind, u, ?_, huy, ?_⟩
      · simp [noting, has_complete]
      · rw [hy, ← hadd, hx]

/-- What can be undone stays so, also when a step is noted anew. -/
theorem undoable_noting {step : Step} {kind : Step.Kind} {c : Call} (h : Making step a kind c)
    (r : c.Result) (hu : Undoable a.record) : Undoable (noting a kind c r).record := by
  intro j hj
  obtain ⟨u, _, huk, -⟩ := h.undoing r
  by_cases hjk : j = kind
  · rw [hjk]
    exact ⟨u, huk⟩
  rw [noting, has_complete, decide_eq_false (hjk ∘ Step.Kind.name_injective)] at hj
  refine exists_undoing_iff.mpr fun i hi => ?_
  by_cases hik : i = kind
  · exact exists_undoing_iff.mp ⟨u, huk⟩ i (hik ▸ mem_needs_self hi)
  · obtain ⟨v, hv⟩ := exists_undoing_iff.mp (hu j hj) i hi
    exact ⟨v, (output?_complete_of_ne (hik ∘ Step.Kind.name_injective)).trans hv⟩

/-- A record as steps make it: it holds kinds of steps only, and all of them can be undone. -/
structure Sound (record : Record) : Prop where
  kinds : ∀ name, record.has name = true → ∃ kind, Step.Kind.name kind = name
  undoable : Undoable record

theorem sound_empty : Sound Record.empty where
  kinds _ h := nomatch h
  undoable _ h := nomatch h

theorem Sound.noting {step : Step} {kind : Step.Kind} {c : Call} (hs : Sound a.record)
    (h : Making step a kind c) (r : c.Result) : Sound (noting a kind c r).record where
  kinds name hn := by
    rw [Amazon.noting, has_complete, Bool.or_eq_true, decide_eq_true_iff] at hn
    rcases hn with rfl | hn
    · exact ⟨kind, rfl⟩
    · exact hs.kinds name hn
  undoable := undoable_noting h r hs.undoable

/-! ## Carrying out steps -/

/-- A log in which the ARN of a policy is determined by its name. -/
def NamesPolicies (arnOf : String → String) (l : List surroundings.Event) : Prop :=
  ∀ name document arn, (⟨.amazon (.createPolicy name document), .ok arn⟩ : surroundings.Event) ∈ l →
    arn = arnOf name

theorem carries_append (p q : String) : Carries q (p ++ q) :=
  ⟨p.toList, [], by simp⟩

/-- What a step makes carries the application's guid in its name. -/
theorem own_making {step : Step} {kind : Step.Kind} {c : Call} (h : Making step a kind c)
    {r : c.Result} (harn : NamesPolicies arnOf [⟨.amazon c, .ok r⟩])
    (hown : ∀ x, Names a.record x → ∃ name, Carries a.guid name ∧ x.IsNamed arnOf name)
    {x : Resource} (hx : added? c r = some x) :
    ∃ name, Carries a.guid name ∧ x.IsNamed arnOf name := by
  cases h with
  | bucket =>
    cases hx
    exact ⟨_, carries_append _ a.guid, rfl⟩
  | policy =>
    cases hx
    exact ⟨_, carries_append _ a.guid, harn _ _ _ List.mem_cons_self⟩
  | role =>
    cases hx
    exact ⟨_, carries_append _ a.guid, rfl⟩
  | @binding role arn hr hp =>
    cases hx
    -- the attachment is known by the role, which was made by an earlier step
    obtain ⟨name, hc, hname⟩ := hown (.role role)
      ⟨.role, _, has_of_output? hr, undoing_eq_ok_iff.mpr ⟨role, hr, rfl⟩, rfl⟩
    exact ⟨name, hc, .inl hname⟩
  | @costReport report hrep =>
    cases hx
    refine ⟨report.name, ?_, rfl⟩
    unfold reportOf at hrep
    split at hrep
    · cases hrep
      exact carries_append _ a.guid
    · cases hrep

theorem Course.sound {step : Step} {x : Stop surroundings (Except Error Unit)}
    (h : Course step a l t x) (hs : Sound a.record) : Sound t.record := by
  have hbucket : Making step a .bucket (.createBucket (nameOf a "bucket")) := .bucket
  cases h with
  | refused _ => exact hs
  | asking _ _ => exact hs
  | failed _ _ _ _ => exact hs
  | made _ hc r => exact hs.noting hc r
  | attaching _ _ => exact hs.noting hbucket ()
  | unattached _ _ _ _ => exact hs.noting hbucket ()
  | attached _ _ => exact hs.noting hbucket ()

theorem sound_runSteps {steps : List Step} {x : Stop surroundings (Except Error Unit)}
    (h : (runSteps steps a).Stops l t x) (hs : Sound a.record) : Sound t.record := by
  induction steps generalizing a l with
  | nil =>
    obtain ⟨-, rfl, -⟩ := Program.stops_pure_iff.mp h
    exact hs
  | cons step steps ih =>
    rcases Program.stops_andThen_iff.mp h with
      ⟨q, rfl, hq⟩ | ⟨e, rfl, he⟩ | ⟨l₁, l₂, u, _, rfl, h₁, h₂⟩
    · exact (course_of_stops hq).sound hs
    · exact (course_of_stops he).sound hs
    · exact ih h₂ ((course_of_stops h₁).sound hs)

/-- **Whatever the steps, what they record can be undone**, wherever their run stops. -/
theorem sound_provision {x : Stop surroundings (Except Error Unit)}
    (h : (provision a).Stops l t x) (hs : Sound a.record) : Sound t.record := by
  rcases stops_provision h with ⟨h₁, -⟩ | ⟨-, u, h₁, rfl⟩
  · exact sound_runSteps h₁ hs
  · have hu : Sound u.record := sound_runSteps h₁ hs
    exact hu

/-- Making what a step makes and noting it keeps track. -/
theorem Tracked.noting {step : Step} {kind : Step.Kind} {c : Call} {r : c.Result}
    (ht : Tracked arnOf before now a) (h : Making step a kind c)
    (hnew : a.record.has kind.name = false) (harn : NamesPolicies arnOf [⟨.amazon c, .ok r⟩]) :
    Tracked arnOf before (now.afterReply c (.ok r)) (noting a kind c r) := by
  obtain ⟨_, x, -, -, hx⟩ := h.undoing r
  rw [Holdings.afterReply_of_added hx]
  constructor
  · intro y hy
    rw [Holdings.has_add, ht.kept y hy, Bool.or_true]
  · intro y hy
    rw [names_noting h r ht.undoable hnew]
    rw [Holdings.has_add, Bool.or_eq_true, decide_eq_true_iff] at hy
    rcases hy with rfl | hy
    · exact .inr (.inr hx)
    · exact (ht.covered y hy).imp id .inl
  · intro y hy
    rcases (names_noting h r ht.undoable hnew).mp hy with hy | hy
    · exact ht.own y hy
    · exact own_making h harn ht.own hy
  · exact undoable_noting h r ht.undoable

/-- **A step that is new to the record keeps track, wherever it stops.** -/
theorem Course.tracked {step : Step} {x : Stop surroundings (Except Error Unit)}
    (h : Course step a l t x) (ht : Tracked arnOf before now a)
    (hnew : a.record.has step.name = false) (harn : NamesPolicies arnOf l) :
    Tracked arnOf before (now.after (l.map Event.entry)) t := by
  have hbucket : Step.Kind.bucket.name = step.name →
      Tracked arnOf before (now.afterReply (.createBucket (nameOf a "bucket")) (.ok ()))
        (withBucket a) := by
    intro hn
    have hmaking : Making step a .bucket (.createBucket (nameOf a "bucket")) := .bucket
    refine ht.noting hmaking (hn ▸ hnew) ?_
    intro name document arn hmem
    cases List.mem_singleton.mp hmem
  cases h with
  | refused _ => exact ht
  | asking _ _ => exact ht
  | failed _ _ _ _ => exact ht
  | made hn hc r => exact ht.noting hc (hn ▸ hnew) harn
  | attaching hn _ => exact hbucket hn
  | unattached hn _ _ _ => exact hbucket hn
  | attached hn _ => exact hbucket hn

/-- A step touches only its own name in the record. -/
theorem Course.has_of_ne {step : Step} {x : Stop surroundings (Except Error Unit)}
    (h : Course step a l t x) {name : String} (hne : name ≠ step.name) :
    t.record.has name = a.record.has name := by
  have hnoting : ∀ {kind : Step.Kind} {c : Call} {r : c.Result}, kind.name = step.name →
      (Amazon.noting a kind c r).record.has name = a.record.has name := by
    intro kind c r hn
    rw [Amazon.noting, has_complete, hn, decide_eq_false hne, Bool.false_or]
  cases h with
  | refused _ => rfl
  | asking _ _ => rfl
  | failed _ _ _ _ => rfl
  | made hn _ r => exact hnoting hn
  | attaching hn _ => exact hnoting hn
  | unattached hn _ _ _ => exact hnoting hn
  | attached hn _ => exact hnoting hn

/-- **Steps of distinct names keep track, wherever their run stops.** -/
theorem tracked_runSteps {steps : List Step} {x : Stop surroundings (Except Error Unit)}
    (h : (runSteps steps a).Stops l t x) (hd : (steps.map Step.name).Nodup)
    (ht : Tracked arnOf before now a) (hnew : ∀ s ∈ steps, a.record.has s.name = false)
    (harn : NamesPolicies arnOf l) :
    Tracked arnOf before (now.after (l.map Event.entry)) t := by
  -- the steps that are still to come are new to the record that the first ones leave
  induction steps generalizing a l now with
  | nil =>
    obtain ⟨rfl, rfl, -⟩ := Program.stops_pure_iff.mp h
    exact ht
  | cons step steps ih =>
    have hstep : a.record.has step.name = false := hnew step List.mem_cons_self
    rcases Program.stops_andThen_iff.mp h with
      ⟨q, rfl, hq⟩ | ⟨e, rfl, he⟩ | ⟨l₁, l₂, u, _, rfl, h₁, h₂⟩
    · exact (course_of_stops hq).tracked ht hstep harn
    · exact (course_of_stops he).tracked ht hstep harn
    · have hc := course_of_stops h₁
      obtain ⟨hfirst, hrest⟩ := List.nodup_cons.mp hd
      have harn₁ : NamesPolicies arnOf l₁ :=
        fun name document arn hm => harn name document arn (List.mem_append_left _ hm)
      have harn₂ : NamesPolicies arnOf l₂ :=
        fun name document arn hm => harn name document arn (List.mem_append_right _ hm)
      have hnew₂ : ∀ s ∈ steps, u.record.has s.name = false := by
        intro s hs
        have hne : s.name ≠ step.name := fun he => hfirst (he ▸ List.mem_map_of_mem hs)
        rw [hc.has_of_ne hne]
        exact hnew s (List.mem_cons_of_mem _ hs)
      rw [List.map_append, Holdings.after_append]
      exact ih h₂ hrest (hc.tracked ht hstep harn₁) hnew₂ harn₂

/-- **Making the resources of a request keeps track, wherever it stops.** -/
theorem tracked_provision {x : Stop surroundings (Except Error Unit)}
    (h : (provision a).Stops l t x) (hd : (a.request.steps.map Step.name).Nodup)
    (ht : Tracked arnOf before now a) (hnew : ∀ name, a.record.has name = false)
    (harn : NamesPolicies arnOf l) :
    Tracked arnOf before (now.after (l.map Event.entry)) t := by
  rcases stops_provision h with ⟨hs, -⟩ | ⟨-, u, hs, rfl⟩
  · exact tracked_runSteps hs hd ht (fun s _ => hnew s.name) harn
  · exact (tracked_runSteps hs hd ht (fun s _ => hnew s.name) harn).congr rfl rfl

/-! ## Taking down -/

/-- If anything is recorded then taking it down makes a call. -/
theorem takeDown_ne_nil (hs : Sound a.record) (he : a.record.isEmpty = false) {errors : List Error}
    (h : (takeDown a).Stops l t (.value errors)) : l ≠ [] := by
  have hhas : ∃ name, a.record.has name = true := by
    refine Classical.byContradiction fun hnone => ?_
    have hempty : a.record.isEmpty = true := isEmpty_iff_not_has.mpr fun name =>
      Bool.eq_false_iff.mpr fun hn => hnone ⟨name, hn⟩
    rw [he] at hempty
    cases hempty
  obtain ⟨name, hname⟩ := hhas
  obtain ⟨kind, rfl⟩ := hs.kinds name hname
  obtain ⟨u, hu⟩ := hs.undoable kind hname
  exact (undone_of_takeDown h).2.ne_nil (mem_toUndo_iff.mpr hname) hu

/-- What is named was not there before, if nothing carried the guid. -/
theorem Tracked.new (ht : Tracked arnOf before now a) (hf : before.Fresh arnOf a.guid)
    {x : Resource} (hx : Names a.record x) : before.has x = false := by
  obtain ⟨name, hc, hname⟩ := ht.own x hx
  exact hf name x hc hname

/-- Undoing what the record holds keeps track, whatever fails. -/
theorem Tracked.undone (ht : Tracked arnOf before now a)
    (hnew : ∀ x, Names a.record x → before.has x = false)
    {kinds : List Step.Kind} {errors : List Error} (h : Undone a.record kinds l errors)
    (hk : ∀ kind ∈ kinds, a.record.has kind.name = true) :
    Tracked arnOf before (now.after (l.map Event.entry)) a where
  kept x hx := by
    refine h.has_of_not_names hk (fun hn => ?_) (ht.kept x hx)
    rw [hnew x hn] at hx
    cases hx
  covered x hx := by
    by_cases hnow : now.has x = true
    · exact ht.covered x hnow
    · rw [h.not_has (Bool.eq_false_iff.mpr hnow)] at hx
      cases hx
  own := ht.own
  undoable := ht.undoable

/-- **Taking down without a failure restores what was there before.** -/
theorem Tracked.restored (ht : Tracked arnOf before now a)
    (hnew : ∀ x, Names a.record x → before.has x = false)
    {errors : List Error} (h : Undone a.record (toUndo a.record) l errors)
    (hl : ∀ e ∈ l.map Event.entry, ¬ Failed e) :
    errors = [] ∧ now.after (l.map Event.entry) = before := by
  have hk : ∀ kind ∈ toUndo a.record, a.record.has kind.name = true :=
    fun kind hkind => mem_toUndo_iff.mp hkind
  have hafter := ht.undone hnew h hk
  -- what is left is named, and nothing that is named is left
  refine ⟨h.errors_eq_nil hl fun kind hkind => ht.undoable kind (hk kind hkind), ?_⟩
  refine Holdings.ext_has fun x => Bool.eq_iff_iff.mpr ⟨fun hx => ?_, hafter.kept x⟩
  rcases hafter.covered x hx with hb | ⟨kind, u, hkind, hu, hxu⟩
  · exact hb
  · rw [h.cleared hl (mem_toUndo_iff.mpr hkind) hu hxu] at hx
    cases hx

end CloudGrant.Amazon
