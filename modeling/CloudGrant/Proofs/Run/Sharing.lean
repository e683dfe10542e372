import CloudGrant.Proofs.Run.Fleet

/-!
# Runs that share their surroundings

The surroundings of each run are in part shared with the others and in part its own. Each question
concerns some places of the shared part, and its answer neither depends on the other places nor
changes them (`Local`).

If each run, alone, asks only about places of its own zone, and the zones are disjoint, then no
interleaving makes a difference: every run stands where it would stand alone after as many turns,
and so do the places of its zone (`Apart.after`).

## Termination

One turn is followed in `Apart.turn`; the rest is induction on the schedule.
-/

namespace CloudGrant

open Interface

variable {I : Interface} {ι κ S σ α ω : Type}
  {answer : (κ → S) × ω → (q : I.Request) → I.Reply q × ((κ → S) × ω)}
  {concerns : I.Request → κ → Prop}

/-- Surroundings of which a question sees and changes only the places that it concerns. -/
structure Local (concerns : I.Request → κ → Prop)
    (answer : (κ → S) × ω → (q : I.Request) → I.Reply q × ((κ → S) × ω)) : Prop where
  frame (c : κ → S) (o : ω) (q : I.Request) (x : κ) (h : ¬ concerns q x) :
    (answer (c, o) q).2.1 x = c x
  agree (c c' : κ → S) (o : ω) (q : I.Request) (h : ∀ x, concerns q x → c x = c' x) :
    (answer (c, o) q).1 = (answer (c', o) q).1 ∧
      (answer (c, o) q).2.2 = (answer (c', o) q).2.2 ∧
        ∀ x, concerns q x → (answer (c, o) q).2.1 x = (answer (c', o) q).2.1 x

/-- Alone, a run changes nothing outside of its zone. -/
theorem Local.outside (hl : Local concerns answer) {m : Run I σ α} {c : κ → S} {o : ω}
    {zone : κ → Prop} (hs : ∀ e ∈ m.history answer (c, o), ∀ x, concerns e.1 x → zone x) {x : κ}
    (hx : ¬ zone x) : (m.exec answer (c, o)).2.1 x = c x := by
  induction m generalizing c o with
  | done s a => rfl
  | ask s q next ih =>
    have hq : ¬ concerns q x := fun h => hx (hs _ List.mem_cons_self x h)
    exact (ih _ fun e he => hs e (List.mem_cons_of_mem _ he)).trans (hl.frame c o q x hq)

namespace Fleet

variable [DecidableEq ι]

/-- Answer a run of a fleet, which has surroundings of its own. -/
def sharing (answer : (κ → S) × ω → (q : I.Request) → I.Reply q × ((κ → S) × ω)) (i : ι)
    (w : (κ → S) × (ι → ω)) (q : I.Request) : I.Reply q × ((κ → S) × (ι → ω)) :=
  ((answer (w.1, w.2 i) q).1, (answer (w.1, w.2 i) q).2.1,
    Function.update w.2 i (answer (w.1, w.2 i) q).2.2)

/-! ## One turn -/

/-- **A run does not notice what the others have done outside of its zone**, and it does nothing
there itself. -/
theorem proceed_sharing (hl : Local concerns answer) {m : Run I σ α} {c c' : κ → S} {owns : ι → ω}
    {i : ι} {zone : κ → Prop}
    (hq : ∀ e, Run.event? answer (m, (c', owns i)) = some e → ∀ x, concerns e.1 x → zone x)
    (hc : ∀ x, zone x → c x = c' x) :
    Run.event? (sharing answer i) (m, (c, owns)) = Run.event? answer (m, (c', owns i)) ∧
      (Run.proceed (sharing answer i) (m, (c, owns))).1 =
        (Run.proceed answer (m, (c', owns i))).1 ∧
      (Run.proceed (sharing answer i) (m, (c, owns))).2.2 =
        Function.update owns i (Run.proceed answer (m, (c', owns i))).2.2 ∧
      (∀ x, zone x → (Run.proceed (sharing answer i) (m, (c, owns))).2.1 x =
        (Run.proceed answer (m, (c', owns i))).2.1 x) ∧
      ∀ x, ¬ zone x → (Run.proceed (sharing answer i) (m, (c, owns))).2.1 x = c x := by
  cases m with
  | done s a => exact ⟨rfl, rfl, (Function.update_eq_self ..).symm, hc, fun _ _ => rfl⟩
  | ask s q next =>
    have hin : ∀ x, concerns q x → zone x := hq _ rfl
    obtain ⟨hreply, hown, hplace⟩ := hl.agree c c' (owns i) q fun x hx => hc x (hin x hx)
    refine ⟨?_, ?_, ?_, fun x hx => ?_, fun x hx => hl.frame c (owns i) q x fun h => hx (hin x h)⟩
    · show some (⟨q, (answer (c, owns i) q).1⟩ : I.Event) = some ⟨q, (answer (c', owns i) q).1⟩
      rw [hreply]
    · show next (answer (c, owns i) q).1 = next (answer (c', owns i) q).1
      rw [hreply]
    · show Function.update owns i (answer (c, owns i) q).2.2 = _
      rw [hown]
      rfl
    · by_cases hx' : concerns q x
      · exact hplace x hx'
      · exact (hl.frame c (owns i) q x hx').trans
          ((hc x hx).trans (hl.frame c' (owns i) q x hx').symm)

/-! ## A whole schedule -/

/-- How the runs stand when each of them has had some turns: as if it had been alone. -/
structure Apart (answer : (κ → S) × ω → (q : I.Request) → I.Reply q × ((κ → S) × ω))
    (zone : ι → κ → Prop) (runs : ι → Run I σ α) (cloud : κ → S) (owns : ι → ω) (turns : ι → Nat)
    (f : Fleet I ι σ α ((κ → S) × (ι → ω))) : Prop where
  run (i : ι) : f.runs i = (Run.advance answer (turns i) (runs i, (cloud, owns i))).1
  own (i : ι) : f.world.2 i = (Run.advance answer (turns i) (runs i, (cloud, owns i))).2.2
  inside (i : ι) (x : κ) (h : zone i x) :
    f.world.1 x = (Run.advance answer (turns i) (runs i, (cloud, owns i))).2.1 x
  outside (x : κ) (h : ∀ i, ¬ zone i x) : f.world.1 x = cloud x

variable {zone : ι → κ → Prop} {runs : ι → Run I σ α} {cloud : κ → S} {owns : ι → ω}
  {turns : ι → Nat} {f : Fleet I ι σ α ((κ → S) × (ι → ω))}

omit [DecidableEq ι] in
theorem apart_start : Apart answer zone runs cloud owns (fun _ => 0) ⟨runs, (cloud, owns)⟩ where
  run _ := rfl
  own _ := rfl
  inside _ _ _ := rfl
  outside _ _ := rfl

/-- **A turn leaves all runs apart.** It is answered as if the run were alone, and outside of the
run's zone it changes nothing. -/
theorem Apart.turn (h : Apart answer zone runs cloud owns turns f) (hl : Local concerns answer)
    (hz : ∀ i j x, zone i x → zone j x → i = j)
    (hs : ∀ i, ∀ e ∈ (runs i).history answer (cloud, owns i), ∀ x, concerns e.1 x → zone i x)
    (i : ι) :
    Apart answer zone runs cloud owns (Function.update turns i (turns i + 1))
        (f.turn (sharing answer) i) ∧
      Run.event? (sharing answer i) (f.runs i, f.world) =
        ((runs i).history answer (cloud, owns i))[turns i]? ∧
      ∀ x, ¬ zone i x → (f.turn (sharing answer) i).world.1 x = f.world.1 x := by
  have hsucc : Run.advance answer (turns i + 1) (runs i, (cloud, owns i)) = _ :=
    Run.advance_succ ..
  have hevent : Run.event? answer (Run.advance answer (turns i) (runs i, (cloud, owns i))) = _ :=
    Run.event?_advance ..
  have hinside := h.inside i
  -- the run alone stands at the same question, with the same surroundings of its own
  obtain ⟨c', hp⟩ : ∃ c', Run.advance answer (turns i) (runs i, (cloud, owns i)) =
      (f.runs i, (c', f.world.2 i)) :=
    ⟨_, Prod.ext (h.run i).symm (Prod.ext rfl (h.own i).symm)⟩
  rw [hp] at hsucc hevent hinside
  have hq : ∀ e, Run.event? answer (f.runs i, (c', f.world.2 i)) = some e →
      ∀ x, concerns e.1 x → zone i x := fun e he =>
    hs i e (List.mem_of_getElem? (hevent.symm.trans he))
  obtain ⟨hreply, hrun, hown, hin, hout⟩ := proceed_sharing hl hq hinside
  refine ⟨⟨fun j => ?_, fun j => ?_, fun j x hx => ?_, fun x hx => ?_⟩, hreply.trans hevent, hout⟩
  · by_cases hj : j = i
    · subst hj
      rw [turn_runs_self, Function.update_self, hsucc]
      exact hrun
    · rw [turn_runs_of_ne f hj, Function.update_of_ne hj]
      exact h.run j
  · refine (congrFun hown j).trans ?_
    by_cases hj : j = i
    · subst hj
      rw [Function.update_self, Function.update_self, hsucc]
    · rw [Function.update_of_ne hj, Function.update_of_ne hj]
      exact h.own j
  · by_cases hj : j = i
    · subst hj
      rw [Function.update_self, hsucc]
      exact hin x hx
    · rw [Function.update_of_ne hj]
      exact (hout x fun hi => hj (hz j i x hx hi)).trans (h.inside j x hx)
  · exact (hout x (hx i)).trans (h.outside x hx)

/-- **Runs in disjoint zones are as if each were alone**, after every schedule. -/
theorem Apart.after (h : Apart answer zone runs cloud owns turns f) (hl : Local concerns answer)
    (hz : ∀ i j x, zone i x → zone j x → i = j)
    (hs : ∀ i, ∀ e ∈ (runs i).history answer (cloud, owns i), ∀ x, concerns e.1 x → zone i x)
    (schedule : List ι) :
    Apart answer zone runs cloud owns (fun i => turns i + schedule.count i)
        (f.after (sharing answer) schedule) ∧
      ∀ i, Fleet.own i (f.history (sharing answer) schedule) =
        (((runs i).history answer (cloud, owns i)).drop (turns i)).take (schedule.count i) := by
  induction schedule generalizing f turns with
  | nil => exact ⟨h, fun i => (List.take_zero ..).symm⟩
  | cons j schedule ih =>
    obtain ⟨hturn, hevent, -⟩ := h.turn hl hz hs j
    obtain ⟨hafter, hown⟩ := ih hturn
    have hcount : (fun i => Function.update turns j (turns j + 1) i + schedule.count i) =
        fun i => turns i + (j :: schedule).count i := by
      funext i
      by_cases hi : i = j
      · subst hi
        rw [Function.update_self, List.count_cons_self]
        omega
      · rw [Function.update_of_ne hi, List.count_cons_of_ne (Ne.symm hi)]
    rw [hcount] at hafter
    refine ⟨hafter, fun i => ?_⟩
    rw [history, own_append, hown i, hevent]
    by_cases hi : i = j
    · subst hi
      rw [own_self, Function.update_self, List.count_cons_self]
      generalize (runs i).history answer (cloud, owns i) = l
      cases hnext : l[turns i]? with
      | none =>
        have hlen : l.length ≤ turns i := List.getElem?_eq_none_iff.mp hnext
        rw [List.drop_eq_nil_of_le hlen, List.drop_eq_nil_of_le (Nat.le_succ_of_le hlen)]
        simp
      | some e =>
        obtain ⟨hlen, rfl⟩ := List.getElem?_eq_some_iff.mp hnext
        rw [List.drop_eq_getElem_cons hlen]
        rfl
    · rw [own_of_ne (Ne.symm hi), Function.update_of_ne hi, List.count_cons_of_ne (Ne.symm hi)]
      rfl

end Fleet

end CloudGrant
