import CloudGrant.Proofs.Amazon.Ledger
import CloudGrant.Proofs.Cloud.Guarded

/-!
# The order of a teardown

A policy or a role cannot be deleted from a guarded account while it is attached. A record is taken
down with its binding first; from then on nothing that the record names is attached to anything
(`Detached`), and no later call is obstructed. So in the account that the record keeps track of no
call of a teardown fails for being obstructed (`Tracked.not_failed`).
-/

namespace CloudGrant.Amazon

open CloudGrant.Simulation
open Interface

variable {arnOf : String → String} {before now : Holdings} {a : Application} {record : Record}
  {kinds : List Step.Kind} {l : List surroundings.Event} {errors : List Error}

/-- The roles and the policies that a record names are not attached to anything. -/
def Detached (record : Record) (now : Holdings) : Prop :=
  ∀ role arn, Names record (.role role) ∨ Names record (.policy arn) →
    now.has (.attachment role arn) = false

/-- Once everything is detached, undoing a kind is not obstructed. -/
theorem Detached.not_obstructed (h : Detached record now) {kind : Step.Kind} {u : Undoing}
    (hk : record.has kind.name = true) (hu : undoing record kind = .ok u) :
    ¬ Obstructed arnOf now u.call := by
  have hnames : ∀ {x}, removed? u.call = some x → Names record x := fun hx => ⟨kind, u, hk, hu, hx⟩
  rw [undoing_eq_ok_iff] at hu
  cases kind with
  | binding =>
    obtain ⟨arn, -, role, -, rfl⟩ := hu
    exact id
  | bucket | costReport =>
    obtain ⟨v, -, rfl⟩ := hu
    exact id
  | policy =>
    obtain ⟨arn, -, rfl⟩ := hu
    rintro ⟨role, hrole⟩
    cases (h role arn (.inr (hnames rfl))).symm.trans hrole
  | role =>
    obtain ⟨role, -, rfl⟩ := hu
    rintro ⟨arn, harn⟩
    cases (h role arn (.inl (hnames rfl))).symm.trans harn

/-- What is removed is not attached again. -/
theorem Detached.afterEntry (h : Detached record now) {e : surroundings.Entry}
    (he : OnlyRemoves e.1) : Detached record (now.afterEntry e) := by
  intro role arn hnames
  refine Bool.eq_false_iff.mpr fun hafter => ?_
  cases (h role arn hnames).symm.trans ((Holdings.has_afterEntry_iff he).mp hafter).1

/-- Undoing kinds of a record does not fail once everything is detached. -/
theorem Undone.not_failed (h : Undone record kinds l errors)
    (hk : ∀ kind ∈ kinds, record.has kind.name = true) (hd : Detached record now)
    (ho : OnlyObstructed arnOf now (l.map Event.entry)) : ∀ e ∈ l.map Event.entry, ¬ Failed e := by
  induction h generalizing now with
  | nil => simp
  | impossible _ _ ih => exact ih (fun j hj => hk j (List.mem_cons_of_mem _ hj)) hd ho
  | @done kind u kinds l errors hu r hrest ih =>
    have hfirst : ¬ Failed (Event.entry ⟨.amazon u.call, .ok r⟩) :=
      ho.not_failed (hd.not_obstructed (hk kind List.mem_cons_self) hu)
    have honly := ((Undone.done hu r hrest).removes List.mem_cons_self).1
    exact List.forall_mem_cons.mpr
      ⟨hfirst, ih (fun j hj => hk j (List.mem_cons_of_mem _ hj)) (hd.afterEntry honly) ho.tail⟩
  | @failed kind u kinds l errors hu cause hrest ih =>
    have hfirst : ¬ Failed (Event.entry ⟨.amazon u.call, .error cause⟩) :=
      ho.not_failed (hd.not_obstructed (hk kind List.mem_cons_self) hu)
    exact absurd ⟨.error cause, rfl, rfl⟩ hfirst

/-- A binding comes before all else. -/
theorem toUndo_of_binding (hb : record.has Step.Kind.binding.name = true) :
    ∃ rest, toUndo record = .binding :: rest := by
  refine ⟨Step.Kind.teardownOrder.tail.filter fun k => record.has k.name, ?_⟩
  exact List.filter_cons_of_pos (p := fun k : Step.Kind => record.has k.name) hb

/-- What is attached under an application's guid is attached by its binding. -/
theorem Tracked.detached (ht : Tracked arnOf before now a) (hf : before.Fresh arnOf a.guid)
    {now' : Holdings} (hsub : ∀ x, now'.has x = true → now.has x = true)
    (hgone : ∀ role arn, Names a.record (.attachment role arn) →
      now'.has (.attachment role arn) = false) : Detached a.record now' := by
  intro role arn hnames
  refine Bool.eq_false_iff.mpr fun hnow => ?_
  have hold : before.has (.attachment role arn) = false := by
    rcases hnames with hnames | hnames
    · obtain ⟨name, hc, hname⟩ := ht.own _ hnames
      exact hf name _ hc (.inl hname)
    · obtain ⟨name, hc, hname⟩ := ht.own _ hnames
      exact hf name _ hc (.inr hname)
  rcases ht.covered _ (hsub _ hnow) with hbefore | hnamed
  · cases hold.symm.trans hbefore
  · cases (hgone role arn hnamed).symm.trans hnow

/-- **Taking down a record is never obstructed**: no call fails, unless for another reason. -/
theorem Tracked.not_failed (ht : Tracked arnOf before now a) (hf : before.Fresh arnOf a.guid)
    (h : Undone a.record (toUndo a.record) l errors)
    (ho : OnlyObstructed arnOf now (l.map Event.entry)) : ∀ e ∈ l.map Event.entry, ¬ Failed e := by
  have hk : ∀ kind ∈ toUndo a.record, a.record.has kind.name = true :=
    fun kind hkind => mem_toUndo_iff.mp hkind
  cases hb : a.record.has Step.Kind.binding.name with
  | false =>
    -- nothing that is recorded was ever attached
    refine h.not_failed hk (ht.detached hf (fun _ hx => hx) fun role arn hnames => ?_) ho
    cases hb.symm.trans (names_attachment_iff.mp hnames).1
  | true =>
    obtain ⟨rest, hrest⟩ := toUndo_of_binding hb
    rw [hrest] at h hk
    obtain ⟨u, hu⟩ := ht.undoable .binding hb
    obtain ⟨arn, hp, role, hr, rfl⟩ := undoing_eq_ok_iff.mp hu
    cases h with
    | impossible he _ => cases hu.symm.trans he
    | failed hu' cause _ =>
      cases hu.symm.trans hu'
      exact absurd ⟨.error cause, rfl, rfl⟩ (ho.not_failed id)
    | @done _ _ _ l _ hu' r hdone =>
      cases hu.symm.trans hu'
      -- the binding is gone, so that nothing of the record is attached any more
      have hdetached : Detached a.record (now.remove (.attachment role arn)) := by
        refine ht.detached hf (fun x hx => ?_) fun role' arn' hnames => ?_
        · rw [Holdings.has_remove, Bool.and_eq_true] at hx
          exact hx.2
        · obtain ⟨-, hp', hr'⟩ := names_attachment_iff.mp hnames
          cases hp.symm.trans hp'
          cases hr.symm.trans hr'
          simp
      have hrest' := hdone.not_failed (fun kind hkind => hk kind (List.mem_cons_of_mem _ hkind))
        hdetached ho.tail
      exact List.forall_mem_cons.mpr ⟨ho.not_failed id, hrest'⟩

end CloudGrant.Amazon
