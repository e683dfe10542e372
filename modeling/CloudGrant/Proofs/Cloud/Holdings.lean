import CloudGrant.Proofs.Cloud.Calls
import CloudGrant.Simulation.World

/-!
# What a log leaves in the clouds

`Holdings.after` reads off a log what exists in the clouds once its calls are over: a call that
failed or was cut short has changed nothing, and removing what is absent succeeds. The one exception
is an Azure deployment, which exists from when it was started. The simulated world keeps its
contents in the same way (`atomic_world`).

`Reliable` is what is asked of an Amazon account beyond that: the ARN of a policy is determined by
the policy's name, and at the start nothing carries a guid that is drawn.
-/

namespace CloudGrant.Simulation

open Interface

/-! ## Effects of single calls -/

/-- The contents after a call to an Amazon account was answered. A policy is known by the ARN that
the answer gives. -/
def Holdings.afterReply (h : Holdings) : (c : Amazon.Call) → Except Cause c.Result → Holdings
  | _, .error _ => h
  | .createPolicy .., .ok arn => h.add (.policy arn)
  | c, .ok _ => h.afterAmazon c

/-- The resource that a call makes, known by what it was answered. -/
def added? : (c : Amazon.Call) → c.Result → Option Resource
  | .createBucket name, _ => some (.bucket name)
  | .createPolicy .., arn => some (.policy arn)
  | .createRole name _, _ => some (.role name)
  | .attachRolePolicy owner arn, _ => some (.attachment owner arn)
  | .putReport report, _ => some (.report report.name)
  | _, _ => none

/-- The resource that a call removes. -/
def removed? : Amazon.Call → Option Resource
  | .deleteBucket name => some (.bucket name)
  | .deletePolicy arn => some (.policy arn)
  | .deleteRole name => some (.role name)
  | .detachRolePolicy owner arn => some (.attachment owner arn)
  | .deleteReport name => some (.report name)
  | _ => none

theorem Holdings.afterReply_of_added {h : Holdings} {c : Amazon.Call} {r : c.Result} {x : Resource}
    (hx : added? c r = some x) : h.afterReply c (.ok r) = h.add x := by
  cases c <;> cases hx <;> rfl

theorem Holdings.afterReply_of_removed {h : Holdings} {c : Amazon.Call} {r : c.Result}
    {x : Resource} (hx : removed? c = some x) : h.afterReply c (.ok r) = h.remove x := by
  cases c <;> cases hx <;> rfl

/-- The contents after an entry of a log. -/
def Holdings.afterEntry (h : Holdings) : surroundings.Entry → Holdings
  | ⟨.amazon c, some r⟩ => h.afterReply c r
  | ⟨.azure c, some (.ok _)⟩ => (h.onAzureStart c).afterAzure c
  | ⟨.azure c, _⟩ => h.onAzureStart c
  | _ => h

/-- The contents after a log. -/
def Holdings.after (h : Holdings) (log : List surroundings.Entry) : Holdings :=
  log.foldl Holdings.afterEntry h

@[simp] theorem Holdings.after_cons (h : Holdings) (e : surroundings.Entry)
    (log : List surroundings.Entry) : h.after (e :: log) = (h.afterEntry e).after log := rfl

@[simp] theorem Holdings.after_append (h : Holdings) (log log' : List surroundings.Entry) :
    h.after (log ++ log') = (h.after log).after log' := List.foldl_append

theorem Holdings.after_eq_self {h : Holdings} {log : List surroundings.Entry}
    (hl : ∀ e ∈ log, ∀ h : Holdings, h.afterEntry e = h) : h.after log = h := by
  induction log with
  | nil => rfl
  | cons e log ih =>
    rw [after_cons, hl e List.mem_cons_self]
    exact ih fun e he => hl e (List.mem_cons_of_mem _ he)

/-- What goes to neither cloud changes nothing there. -/
theorem Holdings.afterEntry_of_not_isCloud {h : Holdings} {e : surroundings.Entry}
    (he : Question.isCloud e.1 = false) : h.afterEntry e = h := by
  obtain ⟨q, r⟩ := e
  cases q <;> first | rfl | cases he

theorem Holdings.after_of_not_isCloud {h : Holdings} {log : List surroundings.Entry}
    (hl : ∀ e ∈ log, Question.isCloud e.1 = false) : h.after log = h :=
  after_eq_self fun e he _ => afterEntry_of_not_isCloud (hl e he)

/-- An entry by which a resource was removed. -/
def Removes (x : Resource) (e : surroundings.Entry) : Prop :=
  ∃ c r, e = ⟨.amazon c, some (.ok r)⟩ ∧ removed? c = some x

/-- A question by which nothing is made. -/
def OnlyRemoves (q : Question) : Prop :=
  q.isCloud = false ∨ q = .azure .closeSession ∨ ∃ c x, q = .amazon c ∧ removed? c = some x

theorem removes_ok_iff {c : Amazon.Call} {r : c.Result} {x : Resource} :
    Removes x ⟨.amazon c, some (.ok r)⟩ ↔ removed? c = some x := by
  constructor
  · rintro ⟨c', r', he, hx⟩
    cases he
    exact hx
  · intro hx
    exact ⟨c, r, rfl, hx⟩

theorem not_removes {e : surroundings.Entry} {x : Resource}
    (h : ∀ c r, e ≠ ⟨.amazon c, some (.ok r)⟩) : ¬ Removes x e :=
  fun ⟨c, r, he, _⟩ => h c r he

instance {x : Resource} : DecidablePred (Removes x)
  | ⟨.amazon _, some (.ok _)⟩ => decidable_of_iff _ removes_ok_iff.symm
  | ⟨.amazon _, some (.error _)⟩ => isFalse (not_removes fun _ _ he => nomatch he)
  | ⟨.amazon _, none⟩ => isFalse (not_removes fun _ _ he => nomatch he)
  | ⟨.azure _, _⟩ => isFalse (not_removes fun _ _ he => nomatch he)
  | ⟨.inventory .., _⟩ => isFalse (not_removes fun _ _ he => nomatch he)
  | ⟨.build .., _⟩ => isFalse (not_removes fun _ _ he => nomatch he)
  | ⟨.wait _, _⟩ => isFalse (not_removes fun _ _ he => nomatch he)
  | ⟨.guid, _⟩ => isFalse (not_removes fun _ _ he => nomatch he)

/-- An entry of a question by which nothing is made leaves what it does not remove. -/
theorem Holdings.has_afterEntry_iff {h : Holdings} {e : surroundings.Entry} {x : Resource}
    (he : OnlyRemoves e.1) : (h.afterEntry e).has x = true ↔ h.has x = true ∧ ¬ Removes x e := by
  obtain ⟨q, reply⟩ := e
  rcases he with hcloud | rfl | ⟨c, y, rfl, hy⟩
  · rw [afterEntry_of_not_isCloud hcloud, and_iff_left]
    refine not_removes fun c r he => ?_
    cases he
    cases hcloud
  · rw [and_iff_left (not_removes fun _ _ he => by cases he)]
    obtain _ | _ | r := reply <;> exact Iff.rfl
  · obtain _ | cause | r := reply
    · exact (and_iff_left (not_removes fun _ _ he => by cases he)).symm
    · exact (and_iff_left (not_removes fun _ _ he => by cases he)).symm
    · have hremoves : Removes x ⟨.amazon c, some (.ok r)⟩ ↔ x = y := by
        rw [removes_ok_iff, hy, Option.some.injEq, eq_comm]
      show (h.afterReply c (.ok r)).has x = true ↔ _ ∧ ¬ Removes x ⟨.amazon c, some (.ok r)⟩
      rw [afterReply_of_removed hy, has_remove, hremoves, Bool.and_eq_true, Bool.not_eq_true',
        decide_eq_false_iff_not, and_comm]

/-- **Where nothing is made, what exists in the end is what was not removed.** -/
theorem Holdings.has_after_iff {h : Holdings} {log : List surroundings.Entry} {x : Resource}
    (hl : ∀ e ∈ log, OnlyRemoves e.1) :
    (h.after log).has x = true ↔ h.has x = true ∧ ∀ e ∈ log, ¬ Removes x e := by
  induction log generalizing h with
  | nil => simp [after]
  | cons e log ih =>
    rw [after_cons, ih fun e' he' => hl e' (List.mem_cons_of_mem _ he'),
      has_afterEntry_iff (hl e List.mem_cons_self), List.forall_mem_cons, and_assoc]

/-! ## Atomic calls -/

variable {σ α ω : Type} {contents : ω → Holdings}
  {answer : ω → (q : surroundings.timed.Request) → surroundings.timed.Reply q × ω}

/-- Calls are atomic: what exists changes with an answer, and as the answer tells. -/
def Atomic (contents : ω → Holdings)
    (answer : ω → (q : surroundings.timed.Request) → surroundings.timed.Reply q × ω) : Prop :=
  ∀ w q, contents (answer w q).2 =
    (contents w).after (entries (I := surroundings) [⟨q, (answer w q).1⟩])

/-- If calls are atomic then the log of a run tells what exists after it. -/
theorem Atomic.exec (h : Atomic contents answer) (w : ω) (m : Run surroundings.timed σ α) :
    contents (m.exec answer w).2 = (contents w).after (m.log answer w) := by
  induction m generalizing w with
  | done s a => rfl
  | ask s q next ih =>
    rw [Run.log_ask, Holdings.after_append]
    exact (ih _ _).trans (congrArg (Holdings.after · _) (h w q))

theorem Holdings.foldl_after_entries {h : Holdings} {l : List surroundings.timed.Event} :
    l.foldl (fun h e => h.after (entries (I := surroundings) [e])) h = h.after (entries l) := by
  induction l generalizing h with
  | nil => rfl
  | cons e l ih =>
    rw [List.foldl_cons, ih, ← after_append, ← entries_append]
    rfl

/-! ## The simulated world -/

theorem holdings_enter (w : World) (name : String) (q : Question) :
    (w.enter name q).2.holdings = w.holdings := by
  unfold World.enter
  dsimp only
  split <;> rfl

/-- Starting to answer a question changes what its entry without an answer says. -/
theorem holdings_start (w : World) (q : Question) :
    (w.start q).2.holdings = w.holdings.afterEntry ⟨q, none⟩ := by
  cases q with
  | azure c => cases c <;> first | rfl | exact holdings_enter ..
  | amazon c => exact holdings_enter ..
  | inventory caller c => exact holdings_enter ..
  | build cloud c => rfl
  | wait ms => rfl
  | guid => rfl

/-- A question that was answered has the effect of its entry. -/
theorem holdings_finish (w : World) (t : Ticket) (q : Question) :
    (w.finish t q).2.holdings = match q, (w.finish t q).1 with
      | .amazon c, r => w.holdings.afterReply c r
      | .azure c, .ok _ => w.holdings.afterAzure c
      | _, _ => w.holdings := by
  cases q with
  | amazon c =>
    simp only [World.finish]
    split
    · rfl
    · cases c <;> rfl
  | azure c =>
    simp only [World.finish]
    split <;> rfl
  | inventory caller c =>
    simp only [World.finish]
    split <;> rfl
  | build cloud c => rfl
  | wait ms => rfl
  | guid =>
    simp only [World.finish, World.draw]
    split <;> rfl

theorem holdings_answered (w : World) (q : Question) (time : Nat) (t : Ticket) :
    ((((w.start q).2).pass time).finish t q).2.holdings =
      w.holdings.afterEntry ⟨q, some ((((w.start q).2).pass time).finish t q).1⟩ := by
  have hs : (((w.start q).2).pass time).holdings = w.holdings.afterEntry ⟨q, none⟩ :=
    holdings_start w q
  rw [holdings_finish, hs]
  cases q with
  | azure c =>
    generalize (((w.start (.azure c)).2.pass time).finish t (.azure c)).1 = r
    cases r <;> rfl
  | _ => rfl

/-- **Calls to the simulated world are atomic.** -/
theorem atomic_world : Atomic World.holdings World.answer := by
  intro w q
  cases q with
  | now => rfl
  | untimed q => exact holdings_answered w q _ _
  | before limit q =>
    simp only [World.answer]
    split
    · exact holdings_answered w q _ _
    · exact holdings_start w q

theorem log_answer {w : World} {s : σ} {q : surroundings.timed.Request}
    {next : surroundings.timed.Reply q → Run surroundings.timed σ α} :
    (Run.ask s q next).log World.answer w =
      entries [⟨q, (w.answer q).1⟩] ++ (next (w.answer q).1).log World.answer (w.answer q).2 :=
  Run.log_ask

/-! ## What is relied on -/

/-- A name has a guid in it. -/
def Carries (guid name : String) : Prop := guid.toList <:+: name.toList

/-- A resource is known by a name: a policy by the ARN that the name determines, an attachment by
the names of both of its ends. -/
def Resource.IsNamed (arnOf : String → String) (name : String) : Resource → Prop
  | .bucket n => n = name
  | .policy arn => arn = arnOf name
  | .role n => n = name
  | .attachment owner arn => owner = name ∨ arn = arnOf name
  | .report n => n = name
  | .deployment n => n = name

/-- No resource carries a guid. -/
def Holdings.Fresh (arnOf : String → String) (h : Holdings) (guid : String) : Prop :=
  ∀ name r, Carries guid name → r.IsNamed arnOf name → h.has r = false

/-- What is relied on of the clouds in which a log arose: the ARN of a policy is determined by its
name, and at the start nothing carried a guid that was drawn. -/
structure Reliable (arnOf : String → String) (h : Holdings) (log : List surroundings.Entry) :
    Prop where
  arn : ∀ name document arn,
    (⟨.amazon (.createPolicy name document), some (.ok arn)⟩ : surroundings.Entry) ∈ log →
      arn = arnOf name
  fresh : ∀ guid, (⟨.guid, some guid⟩ : surroundings.Entry) ∈ log → h.Fresh arnOf guid

/-- The guid that was drawn, if one was. -/
def drawn? : surroundings.Entry → Option String
  | ⟨.guid, some guid⟩ => some guid
  | _ => none

theorem arn_of_finish {w : World} {t : Ticket} {name document arn' : String}
    (h : (w.finish t (.amazon (.createPolicy name document))).1 = .ok arn') :
    arn' = arn "policy" name := by
  simp only [World.finish] at h
  split at h
  · cases h
  · cases h
    rfl

theorem arn_of_mem_entries {w : World} {q : Timed Question} {name document arn' : String}
    (h : (⟨.amazon (.createPolicy name document), some (.ok arn')⟩ : surroundings.Entry) ∈
      entries (I := surroundings) [⟨q, (w.answer q).1⟩]) : arn' = arn "policy" name := by
  cases q with
  | now => cases h
  | untimed q =>
    injection List.mem_singleton.mp h with hq hr
    subst hq
    exact arn_of_finish (Option.some.inj (eq_of_heq hr)).symm
  | before limit q =>
    injection List.mem_singleton.mp h with hq hr
    subst hq
    have hr := (eq_of_heq hr).symm
    simp only [World.answer] at hr
    split at hr
    · exact arn_of_finish (Option.some.inj hr)
    · cases hr

/-- **The simulated world can be relied on**, if nothing carries a guid that it gives. -/
theorem reliable_log {w : World} {m : Run surroundings.timed σ α}
    (hf : ∀ guid ∈ (m.log World.answer w).filterMap drawn?,
      w.holdings.Fresh (arn "policy") guid) :
    Reliable (arn "policy") w.holdings (m.log World.answer w) where
  arn := by
    clear hf
    induction m generalizing w with
    | done s a =>
      intro _ _ _ h
      cases h
    | ask s q next ih =>
      intro name document arn' h
      rw [log_answer] at h
      rcases List.mem_append.mp h with h | h
      · exact arn_of_mem_entries h
      · exact ih _ name document arn' h
  fresh guid hg := hf guid (List.mem_filterMap.mpr ⟨_, hg, rfl⟩)

end CloudGrant.Simulation
