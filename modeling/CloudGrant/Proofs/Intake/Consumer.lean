import Mathlib.Data.List.Infix
import Mathlib.Logic.Hydra
import CloudGrant.Intake.Consumer

/-!
# What becomes of the messages

The consumer loses no message and handles none twice, in whatever order senders, tasks and consumer
act and however the tasks end.

* `Sound`: after any acts, what was accepted was taken, in that order, or still waits; and each task
  has come along a course of its own, on the message that was taken as its number. Each act keeps this
  (`Sound.step`), so it holds along every course (`Course.sound`).
* `Job.Course.prefix_life`: a task begins to handle its message once at most.
* `Sound.isDone`: when the consumer has stopped, nothing waits and every task has ended.
* `wellFounded_moves`, `exists_move`: once the queue is closed the consumer does stop. There is no
  endless course, and until it has stopped something can happen that is no break-down.
-/

namespace CloudGrant

variable {d : Dispatcher}

/-! ## A single task -/

namespace Job

/-- What a task for a message has done so far. -/
inductive Course (d : Dispatcher) (m : Message) : List Act → Job → Prop where
  | nil : Course d m [] (fresh m)
  | snoc {acts : List Act} {j j' : Job} {a : Act} :
      Course d m acts j → j.Moves d a j' → Course d m (acts ++ [a]) j'

/-- All that a task does: it begins to handle its message, is given so many answers, ends and is taken
back. -/
def life (m : Message) (answers : Nat) (result : Option (Except Error Unit)) : List Act :=
  .begun m :: (List.replicate answers .answered ++ [.ended result, .joined])

/-- What a task has done says what has become of it. -/
theorem Course.shape {m : Message} {acts : List Act} {j : Job} (h : Course d m acts j) :
    match j with
    | fresh m' => m' = m ∧ acts = []
    | going _ => ∃ n, acts = .begun m :: List.replicate n .answered
    | ended x => ∃ n, acts ++ [.joined] = life m n x
    | joined x => ∃ n, acts = life m n x := by
  induction h with
  | nil => exact ⟨rfl, rfl⟩
  | snoc _ hm ih =>
    cases hm with
    | begin m' =>
      obtain ⟨rfl, rfl⟩ := ih
      exact ⟨0, rfl⟩
    | answer _ =>
      obtain ⟨n, rfl⟩ := ih
      exact ⟨n + 1, by rw [List.replicate_succ', List.cons_append]⟩
    | finish | breakDown =>
      obtain ⟨n, rfl⟩ := ih
      exact ⟨n, by simp [life]⟩
    | join x => exact ih

/-- **A task begins to handle its message once at most**, and ends once at most. -/
theorem Course.prefix_life {m : Message} {acts : List Act} {j : Job} (h : Course d m acts j) :
    ∃ n x, acts <+: life m n x := by
  have hs := h.shape
  cases j with
  | fresh m' => exact ⟨0, none, hs.2 ▸ List.nil_prefix⟩
  | going r =>
    obtain ⟨n, rfl⟩ := hs
    exact ⟨n, none, [.ended none, .joined], rfl⟩
  | ended x =>
    obtain ⟨n, hn⟩ := hs
    exact ⟨n, x, [.joined], hn⟩
  | joined x =>
    obtain ⟨n, hn⟩ := hs
    exact ⟨n, x, hn ▸ List.prefix_rfl⟩

/-- A task that was taken back has done all that a task does. -/
theorem Course.eq_life {m : Message} {acts : List Act} {j : Job} (h : Course d m acts j)
    (hj : j.isJoined) : ∃ n x, acts = life m n x := by
  cases j with
  | joined x =>
    obtain ⟨n, hn⟩ := h.shape
    exact ⟨n, x, hn⟩
  | fresh | going | ended => cases hj

/-- Whether a task ends by an act. -/
def Act.isEnd : Act → Bool
  | ended _ => true
  | begun _ | answered | joined => false

/-- Whether a task has ended changes only when it ends. -/
theorem Moves.isOver_eq {j j' : Job} {a : Act} (h : j.Moves d a j') :
    j'.isOver = (j.isOver || a.isEnd) := by
  cases h <;> rfl

/-- A task that has not been taken back can do something but break down. -/
theorem exists_move (d : Dispatcher) {j : Job} (h : j.isJoined = false) :
    ∃ a j', a ≠ .ended none ∧ j.Moves d a j' := by
  cases j with
  | fresh m => exact ⟨.begun m, _, nofun, .begin m⟩
  | going r =>
    cases r with
    | done s x => exact ⟨.ended (some x), _, nofun, .finish s x⟩
    | ask s q next =>
      have hr : Nonempty (surroundings.timed.Reply q) := by
        match q with
        | .now => exact ⟨(0 : Nat)⟩
        | .before _ _ => exact ⟨none⟩
        | .untimed (.amazon _) | .untimed (.azure _) => exact ⟨.error (Cause.of "")⟩
        | .untimed (.inventory _ _) => exact ⟨.error ⟨"", none, ""⟩⟩
        | .untimed (.build _ _) | .untimed (.wait _) => exact ⟨()⟩
        | .untimed .guid => exact ⟨""⟩
      exact hr.elim fun r => ⟨.answered, _, nofun, .answer (.ask s q next r)⟩
  | ended x => exact ⟨.joined, _, nofun, .join x⟩
  | joined x => cases h

/-- One act makes one task out of another. -/
def Goes (d : Dispatcher) (j' j : Job) : Prop := ∃ a, j.Moves d a j'

theorem acc_goes (d : Dispatcher) (j : Job) : Acc (Goes d) j := by
  have hjoined (x) : Acc (Goes d) (joined x) := ⟨_, fun _ ⟨_, h⟩ => nomatch h⟩
  have hended (x) : Acc (Goes d) (ended x) := ⟨_, fun _ ⟨_, h⟩ => by cases h; exact hjoined x⟩
  have hgoing (r) : Acc (Goes d) (going r) := by
    induction Run.acc_next r with
    | intro r _ ih =>
      refine ⟨_, fun _ ⟨_, h⟩ => ?_⟩
      cases h with
      | answer hn => exact ih _ hn
      | finish => exact hended _
      | breakDown => exact hended _
  cases j with
  | fresh m => exact ⟨_, fun _ ⟨_, h⟩ => by cases h; exact hgoing _⟩
  | going r => exact hgoing r
  | ended x => exact hended x
  | joined x => exact hjoined x

end Job

namespace Queue

theorem start?_eq_none {q : Queue} : q.start? = none ↔ q.waiting = [] := by
  unfold start?
  cases q.waiting <;> simp

theorem start?_eq_some {q q' : Queue} {m : Message} (h : q.start? = some (m, q')) :
    q.waiting = m :: q'.waiting ∧ q'.closed = q.closed ∧ q'.started = q.started ++ [m] ∧
      q'.running = q.running ++ [q.started.length] := by
  unfold start? at h
  cases hw : q.waiting with
  | nil =>
    rw [hw] at h
    cases h
  | cons m' rest =>
    rw [hw] at h
    cases h
    exact ⟨rfl, rfl, rfl, rfl⟩

/-- After its end a queue is not changed by an offer. -/
theorem offer_of_closed {q : Queue} (h : q.closed) (m : Message) : q.offer m = (.closed, q) :=
  if_pos h

theorem offer_eq (q : Queue) (m : Message) :
    (q.offer m).2 =
      { q with waiting := q.waiting ++ if (q.offer m).1 = .accepted then [m] else [] } := by
  unfold offer
  split
  · simp
  · split <;> simp

end Queue

/-- How much a stage has before it. -/
def Stage.rank : Stage → Nat
  | .taking => 2
  | .draining => 1
  | .stopped => 0

namespace Consumer

/-! ## What was done -/

/-- The messages that were accepted, in that order. -/
def accepted (acts : List Act) : List Message :=
  acts.filterMap fun
    | .offered m .accepted => some m
    | _ => none

/-- The messages that the consumer took, in that order. -/
def taken (acts : List Act) : List Message :=
  acts.filterMap fun
    | .taken m => some m
    | _ => none

/-- What the task with a number did. -/
def own (i : Nat) (acts : List Act) : List Job.Act :=
  acts.filterMap fun
    | .task k a => if k = i then some a else none
    | _ => none

theorem accepted_snoc (acts : List Act) (a : Act) :
    accepted (acts ++ [a]) = accepted acts ++ accepted [a] := List.filterMap_append

theorem taken_snoc (acts : List Act) (a : Act) :
    taken (acts ++ [a]) = taken acts ++ taken [a] := List.filterMap_append

theorem own_snoc (i : Nat) (acts : List Act) (a : Act) :
    own i (acts ++ [a]) = own i acts ++ own i [a] := List.filterMap_append

theorem own_task_self (i : Nat) (a : Job.Act) : own i [.task i a] = [a] := by simp [own]

theorem own_task_of_ne {i k : Nat} (h : k ≠ i) (a : Job.Act) : own i [.task k a] = [] := by
  simp [own, h]

theorem getElem?_append_of_some {α : Type} {l l' : List α} {i : Nat} {x : α}
    (h : l[i]? = some x) : (l ++ l')[i]? = some x := by
  rw [List.getElem?_append_left (List.getElem?_eq_some_iff.mp h).1, h]

/-- An element of a list with one more at its end. -/
theorem getElem?_snoc {α : Type} {l : List α} {i : Nat} {x y : α}
    (h : (l ++ [x])[i]? = some y) : l[i]? = some y ∨ i = l.length ∧ y = x := by
  rw [List.getElem?_append] at h
  split at h
  · exact .inl h
  · rw [List.getElem?_singleton] at h
    split at h
    · cases h
      exact .inr ⟨by omega, rfl⟩
    · cases h

theorem note_waiting (q : Queue) (i : Nat) (a : Job.Act) : (note q i a).waiting = q.waiting := by
  cases a <;> rfl

theorem note_started (q : Queue) (i : Nat) (a : Job.Act) : (note q i a).started = q.started := by
  cases a <;> rfl

theorem note_closed (q : Queue) (i : Nat) (a : Job.Act) : (note q i a).closed = q.closed := by
  cases a <;> rfl

theorem note_running (q : Queue) (i : Nat) (a : Job.Act) :
    (note q i a).running = if a.isEnd then q.running.erase i else q.running := by
  cases a <;> rfl

theorem mem_note_running_self {q : Queue} (hq : q.running.Nodup) {i : Nat} {a : Job.Act} :
    i ∈ (note q i a).running ↔ i ∈ q.running ∧ a.isEnd = false := by
  rw [note_running]
  split <;> simp_all [hq.mem_erase_iff]

theorem mem_note_running_of_ne {q : Queue} {i k : Nat} (h : i ≠ k) {a : Job.Act} :
    k ∈ (note q i a).running ↔ k ∈ q.running := by
  rw [note_running]
  split
  · exact List.mem_erase_of_ne (Ne.symm h)
  · exact Iff.rfl

/-! ## The invariants -/

variable {acts : List Act} {c c' : Consumer}

/-- What holds of a consumer after some acts. -/
structure Sound (d : Dispatcher) (acts : List Act) (c : Consumer) : Prop where
  accepted : accepted acts = taken acts ++ c.queue.waiting
  started : c.queue.started = taken acts
  length : c.tasks.length = (taken acts).length
  own : ∀ i m, (taken acts)[i]? = some m →
    ∃ j, c.tasks[i]? = some j ∧ Job.Course d m (own i acts) j
  none : ∀ i, (taken acts).length ≤ i → Consumer.own i acts = []
  nodup : c.queue.running.Nodup
  running : ∀ i, i ∈ c.queue.running ↔ ∃ j, c.tasks[i]? = some j ∧ j.isOver = false
  closed : c.stage ≠ .taking → c.queue.closed ∧ c.queue.waiting = []
  joined : c.stage = .stopped → ∀ j ∈ c.tasks, j.isJoined

theorem Sound.new (d : Dispatcher) (capacity : Nat) : Sound d [] (new capacity) where
  accepted := rfl
  started := rfl
  length := rfl
  own _ _ h := nomatch h
  none _ _ := rfl
  nodup := .nil
  running i := by simp [Consumer.new, Queue.new]
  closed h := absurd rfl h
  joined h := nomatch h

/-- Where neither a task acts nor a message is taken, the tasks stay as they were. -/
theorem Sound.aside (h : Sound d acts c) {a : Act} (ht : taken [a] = [])
    (ho : ∀ i, Consumer.own i [a] = []) (htasks : c'.tasks = c.tasks)
    (hstarted : c'.queue.started = c.queue.started)
    (hrunning : c'.queue.running = c.queue.running)
    (hwaiting : c'.queue.waiting = c.queue.waiting ++ Consumer.accepted [a])
    (hclosed : c'.stage ≠ .taking → c'.queue.closed ∧ c'.queue.waiting = [])
    (hjoined : c'.stage = .stopped → ∀ j ∈ c.tasks, j.isJoined) : Sound d (acts ++ [a]) c' := by
  have htaken : taken (acts ++ [a]) = taken acts := by rw [taken_snoc, ht, List.append_nil]
  have hown (i : Nat) : Consumer.own i (acts ++ [a]) = Consumer.own i acts := by
    rw [own_snoc, ho, List.append_nil]
  constructor
  case accepted => rw [accepted_snoc, htaken, h.accepted, hwaiting, List.append_assoc]
  case started => rw [hstarted, htaken, h.started]
  case length => rw [htasks, htaken, h.length]
  case own =>
    intro i m hi
    rw [hown, htasks]
    exact h.own i m (htaken ▸ hi)
  case none =>
    intro i hi
    rw [hown]
    exact h.none i (htaken ▸ hi)
  case nodup => exact hrunning ▸ h.nodup
  case running =>
    rw [hrunning, htasks]
    exact h.running
  case closed => exact hclosed
  case joined => exact htasks ▸ hjoined

theorem Sound.offer (h : Sound d acts c) (m : Message) :
    Sound d (acts ++ [.offered m (c.queue.offer m).1])
      { c with queue := (c.queue.offer m).2 } := by
  refine h.aside rfl (fun _ => rfl) rfl ?_ ?_ ?_ ?_ h.joined
  · show (c.queue.offer m).2.started = _
    rw [Queue.offer_eq]
  · show (c.queue.offer m).2.running = _
    rw [Queue.offer_eq]
  · show (c.queue.offer m).2.waiting = _
    rw [Queue.offer_eq]
    cases (c.queue.offer m).1 <;> rfl
  · intro hs
    show (c.queue.offer m).2.closed ∧ (c.queue.offer m).2.waiting = []
    rw [Queue.offer_of_closed (h.closed hs).1]
    exact h.closed hs

/-- A message that is taken has a task of its own, with the next number. -/
theorem Sound.take (h : Sound d acts c) {m : Message} {q : Queue} (hstage : c.stage = .taking)
    (hq : c.queue.start? = some (m, q)) :
    Sound d (acts ++ [.taken m]) { c with queue := q, tasks := c.tasks ++ [.fresh m] } := by
  obtain ⟨hwaiting, hclosed, hstarted, hrunning⟩ := Queue.start?_eq_some hq
  have htaken : taken (acts ++ [.taken m]) = taken acts ++ [m] := taken_snoc ..
  have hown (i : Nat) : Consumer.own i (acts ++ [.taken m]) = Consumer.own i acts := by
    rw [own_snoc, show Consumer.own i [Act.taken m] = [] from rfl, List.append_nil]
  constructor
  case accepted =>
    rw [accepted_snoc, htaken, h.accepted, hwaiting]
    simp [Consumer.accepted]
  case started => rw [hstarted, htaken, h.started]
  case length =>
    rw [htaken, List.length_append, List.length_append, h.length]
    rfl
  case own =>
    intro i m' hi
    rw [htaken] at hi
    rw [hown]
    rcases getElem?_snoc hi with hi | ⟨rfl, rfl⟩
    · obtain ⟨j, hj, hcourse⟩ := h.own i m' hi
      exact ⟨j, getElem?_append_of_some hj, hcourse⟩
    · rw [h.none _ le_rfl, ← h.length]
      exact ⟨.fresh m', List.getElem?_concat_length, .nil⟩
  case none =>
    intro i hi
    rw [htaken, List.length_append] at hi
    rw [hown]
    exact h.none i (Nat.le_of_add_right_le hi)
  case nodup =>
    rw [hrunning, h.started, ← h.length]
    refine List.nodup_append.mpr ⟨h.nodup, List.nodup_singleton _, fun i hi k hk => ?_⟩
    obtain ⟨j, hj, -⟩ := (h.running i).mp hi
    rw [List.mem_singleton.mp hk]
    exact Nat.ne_of_lt (List.getElem?_eq_some_iff.mp hj).1
  case running =>
    intro i
    rw [hrunning, h.started, ← h.length, List.mem_append, List.mem_singleton, h.running]
    constructor
    · rintro (⟨j, hj, hover⟩ | rfl)
      · exact ⟨j, getElem?_append_of_some hj, hover⟩
      · exact ⟨.fresh m, List.getElem?_concat_length, rfl⟩
    · rintro ⟨j, hj, hover⟩
      rcases getElem?_snoc hj with hj | ⟨hi, -⟩
      · exact .inl ⟨j, hj, hover⟩
      · exact .inr hi
  case closed => exact fun hs => absurd hstage hs
  case joined => exact fun hs => nomatch hs.symm.trans hstage

/-- What a task does is the next act of that task alone. -/
theorem Sound.task (h : Sound d acts c) {i : Nat} {j j' : Job} {a : Job.Act}
    (hj : c.tasks[i]? = some j) (hm : j.Moves d a j') :
    Sound d (acts ++ [.task i a])
      { c with queue := note c.queue i a, tasks := c.tasks.set i j' } := by
  have htaken : taken (acts ++ [.task i a]) = taken acts := by
    rw [taken_snoc]
    exact List.append_nil _
  have hi : i < c.tasks.length := (List.getElem?_eq_some_iff.mp hj).1
  constructor
  case accepted =>
    rw [accepted_snoc, htaken, h.accepted, note_waiting]
    exact List.append_nil _
  case started => rw [note_started, htaken, h.started]
  case length => rw [List.length_set, htaken, h.length]
  case own =>
    intro k m hk
    rw [htaken] at hk
    obtain ⟨j₀, hj₀, hcourse⟩ := h.own k m hk
    rw [own_snoc]
    by_cases hik : i = k
    · subst hik
      cases hj.symm.trans hj₀
      rw [own_task_self]
      exact ⟨j', List.getElem?_set_self hi, .snoc hcourse hm⟩
    · rw [own_task_of_ne hik, List.append_nil]
      exact ⟨j₀, (List.getElem?_set_ne hik).trans hj₀, hcourse⟩
  case none =>
    intro k hk
    rw [htaken] at hk
    have hik : i ≠ k := by
      rw [h.length] at hi
      omega
    rw [own_snoc, own_task_of_ne hik, List.append_nil]
    exact h.none k hk
  case nodup =>
    rw [note_running]
    split
    · exact h.nodup.erase i
    · exact h.nodup
  case running =>
    intro k
    by_cases hik : i = k
    · subst hik
      rw [List.getElem?_set_self hi, mem_note_running_self h.nodup, h.running, hj]
      simp [hm.isOver_eq]
    · rw [List.getElem?_set_ne hik, mem_note_running_of_ne hik, h.running]
  case closed =>
    rw [note_closed, note_waiting]
    exact h.closed
  case joined =>
    intro hs
    have hjoined := h.joined hs j (List.mem_of_getElem? hj)
    cases hm <;> cases hjoined

/-- **What one act keeps.** -/
theorem Sound.step (h : Sound d acts c) {a : Act} (hm : c.Moves d a c') :
    Sound d (acts ++ [a]) c' := by
  cases hm with
  | offer m => exact h.offer m
  | close =>
    exact h.aside rfl (fun _ => rfl) rfl rfl rfl (List.append_nil _).symm
      (fun hs => ⟨rfl, (h.closed hs).2⟩) h.joined
  | take hstage hq => exact h.take hstage hq
  | leave _ hclosed hnone =>
    exact h.aside rfl (fun _ => rfl) rfl rfl rfl (List.append_nil _).symm
      (fun _ => ⟨hclosed, Queue.start?_eq_none.mp hnone⟩) nofun
  | task hj hm _ => exact h.task hj hm
  | stop hstage hjoined =>
    have hclosed := h.closed (by rw [hstage]; nofun)
    exact h.aside rfl (fun _ => rfl) rfl rfl rfl (List.append_nil _).symm (fun _ => hclosed)
      fun _ => hjoined

/-- **What holds along every course.** -/
theorem Course.sound {capacity : Nat} (h : Course d capacity acts c) : Sound d acts c := by
  induction h with
  | nil => exact .new d capacity
  | snoc _ hm ih => exact ih.step hm

/-! ## The end of the queue -/

/-- After the end of the queue nothing that comes from outside changes anything. -/
theorem eq_of_closed (hclosed : c.queue.closed) {a : Act} (ha : a.isOwn = false)
    (hm : c.Moves d a c') : c' = c := by
  cases hm with
  | offer m => rw [Queue.offer_of_closed hclosed]
  | close =>
    obtain ⟨⟨_, _, closed, _, _⟩, _, _⟩ := c
    cases hclosed
    rfl
  | take | leave | task | stop => cases ha

theorem Moves.closed {a : Act} (hm : c.Moves d a c') (h : c.queue.closed) : c'.queue.closed := by
  cases hm with
  | offer m => rwa [Queue.offer_of_closed h]
  | close => rfl
  | take _ hq => rwa [(Queue.start?_eq_some hq).2.1]
  | leave => exact h
  | task => rwa [note_closed]
  | stop => exact h

/-- **What is accepted is accepted before the end of the queue.** -/
theorem Course.accepted_of_closed {capacity : Nat} (h : Course d capacity acts c)
    {before after : List Act} (hacts : acts = before ++ .closed :: after) :
    c.queue.closed ∧ accepted after = [] := by
  induction h generalizing after with
  | nil => simp at hacts
  | @snoc acts c c' a _ hm ih =>
    rcases List.eq_nil_or_concat after with rfl | ⟨after, a', rfl⟩
    · cases (List.append_inj' hacts rfl).2
      cases hm
      exact ⟨rfl, rfl⟩
    · rw [List.concat_eq_append, ← List.cons_append, ← List.append_assoc] at hacts
      obtain ⟨hclosed, hnone⟩ := ih (List.append_inj' hacts rfl).1
      cases (List.append_inj' hacts rfl).2
      refine ⟨hm.closed hclosed, ?_⟩
      rw [List.concat_eq_append, accepted_snoc, hnone]
      cases hm with
      | offer m => rw [Queue.offer_of_closed hclosed]; rfl
      | close | take | leave | task | stop => rfl

/-- **The consumer stops only when nothing waits and every task has ended.** -/
theorem Sound.isDone (h : Sound d acts c) (hstage : c.stage = .stopped) : c.queue.isDone := by
  obtain ⟨hclosed, hwaiting⟩ := h.closed (by rw [hstage]; nofun)
  have hrunning : c.queue.running = [] := by
    refine List.eq_nil_iff_forall_not_mem.mpr fun i hi => ?_
    obtain ⟨j, hj, hover⟩ := (h.running i).mp hi
    have hjoined := h.joined hstage j (List.mem_of_getElem? hj)
    cases j with
    | fresh | going => cases hjoined
    | ended | joined => cases hover
  simp [Queue.isDone, hclosed, hwaiting, hrunning]

/-- **Until the consumer has stopped something can happen** that is not a task's break-down. -/
theorem exists_move (d : Dispatcher) (hclosed : c.queue.closed) (hstage : c.stage ≠ .stopped) :
    ∃ a c', a.isOwn ∧ (∀ i, a ≠ .task i (.ended none)) ∧ c.Moves d a c' := by
  cases hs : c.stage with
  | stopped => exact absurd hs hstage
  | taking =>
    cases hq : c.queue.start? with
    | none => exact ⟨.left, _, rfl, nofun, .leave hs hclosed hq⟩
    | some p => exact ⟨.taken p.1, _, rfl, nofun, .take hs hq⟩
  | draining =>
    by_cases hall : ∀ j ∈ c.tasks, j.isJoined
    · exact ⟨.stopped, _, rfl, nofun, .stop hs hall⟩
    · simp only [not_forall, Bool.not_eq_true] at hall
      obtain ⟨j, hmem, hj⟩ := hall
      obtain ⟨i, hi⟩ := List.mem_iff_getElem?.mp hmem
      obtain ⟨a, j', ha, hm⟩ := Job.exists_move d hj
      exact ⟨.task i a, _, rfl, fun k hk => ha (Act.task.inj hk).2, .task hi hm fun _ => hstage⟩

/-! ## The consumer stops -/

/-- Before a consumer comes one with fewer messages that wait, or as many and less of a stage, or the
same and less to do for one of its tasks. -/
def Before (d : Dispatcher) (c' c : Consumer) : Prop :=
  Prod.Lex (· < ·) (Prod.Lex (· < ·) (Relation.CutExpand (Job.Goes d)))
    (c'.queue.waiting.length, c'.stage.rank, (c'.tasks : Multiset Job))
    (c.queue.waiting.length, c.stage.rank, (c.tasks : Multiset Job))

theorem wellFounded_before (d : Dispatcher) : WellFounded (Before d) :=
  InvImage.wf _ (wellFounded_lt.prod_lex
    (wellFounded_lt.prod_lex (WellFounded.intro (Job.acc_goes d)).cutExpand))

theorem cutExpand_set {α : Type} {r : α → α → Prop} {x y : α} (h : r y x) :
    ∀ {l : List α} {i : Nat}, l[i]? = some x →
      Relation.CutExpand r (l.set i y : Multiset α) (l : Multiset α)
  | z :: l, 0, hx => by
    cases hx
    exact Relation.cutExpand_single_add h (l : Multiset α)
  | z :: l, i + 1, hx => by
    have ih : Relation.CutExpand r (l.set i y : Multiset α) (l : Multiset α) := cutExpand_set h hx
    exact (Relation.cutExpand_add_left {z}).mpr ih

/-- Every act of the consumer and its tasks leaves less to do. -/
theorem Moves.before {a : Act} (h : c.Moves d a c') (ha : a.isOwn) : Before d c' c := by
  cases h with
  | offer | close => cases ha
  | take _ hq =>
    refine Prod.Lex.left _ _ ?_
    rw [(Queue.start?_eq_some hq).1]
    exact Nat.lt_succ_self _
  | leave hstage =>
    refine Prod.Lex.right _ (Prod.Lex.left _ _ ?_)
    show Stage.draining.rank < c.stage.rank
    rw [hstage]
    decide
  | task hj hm =>
    unfold Before
    rw [note_waiting]
    exact Prod.Lex.right _ (Prod.Lex.right _ (cutExpand_set ⟨_, hm⟩ hj))
  | stop hstage =>
    refine Prod.Lex.right _ (Prod.Lex.left _ _ ?_)
    show Stage.stopped.rank < c.stage.rank
    rw [hstage]
    decide

/-- **There is no endless course of acts of the consumer and its tasks.** -/
theorem wellFounded_moves (d : Dispatcher) :
    WellFounded fun c' c : Consumer => ∃ a, a.isOwn ∧ c.Moves d a c' :=
  Subrelation.wf (fun ⟨_, ha, h⟩ => h.before ha) (wellFounded_before d)

/-! ## Every message once -/

/-- **Every message that is accepted is handled once.** In every course of acts of senders, consumer
and tasks:

* the messages that were accepted are those that were taken, in that order, and those that wait;
  after the end of the queue none is accepted;
* each message that was taken has a task, which begins to handle that message once at most, and what
  the tasks do does not depend on each other; nothing else is handled;
* when the consumer has stopped, the queue is closed and empty and no task is left. Every message that
  was accepted has then been handled once, to its end;
* the consumer and its tasks do not go on for ever. Until the consumer has stopped there is something
  that they can do once the queue is closed, and nobody else can change anything. -/
theorem Course.handles_each_once {capacity : Nat} (h : Course d capacity acts c) :
    (accepted acts = taken acts ++ c.queue.waiting ∧
      ∀ before after, acts = before ++ .closed :: after → accepted after = []) ∧
    ((∀ i m, (taken acts)[i]? = some m → ∃ j, c.tasks[i]? = some j ∧
        Job.Course d m (own i acts) j ∧ ∃ n x, own i acts <+: Job.life m n x) ∧
      ∀ i, (taken acts).length ≤ i → own i acts = []) ∧
    (c.stage = .stopped → c.queue.isDone ∧
      ∀ i m, (accepted acts)[i]? = some m → ∃ n x, own i acts = Job.life m n x) ∧
    Acc (fun c₂ c₁ => ∃ a, a.isOwn ∧ c₁.Moves d a c₂) c ∧
    (c.queue.closed →
      (c.stage ≠ .stopped →
        ∃ a c', a.isOwn ∧ (∀ i, a ≠ .task i (.ended none)) ∧ c.Moves d a c') ∧
      ∀ a c', a.isOwn = false → c.Moves d a c' → c' = c) := by
  have hs := h.sound
  refine ⟨⟨hs.accepted, fun _ _ hacts => (h.accepted_of_closed hacts).2⟩, ⟨fun i m hi => ?_, hs.none⟩,
    fun hstage => ⟨hs.isDone hstage, fun i m hi => ?_⟩, (wellFounded_moves d).apply c,
    fun hclosed => ⟨exists_move d hclosed, fun _ _ ha hm => eq_of_closed hclosed ha hm⟩⟩
  · obtain ⟨j, hj, hcourse⟩ := hs.own i m hi
    exact ⟨j, hj, hcourse, hcourse.prefix_life⟩
  · have hwaiting := (hs.closed (by rw [hstage]; nofun)).2
    rw [hs.accepted, hwaiting, List.append_nil] at hi
    obtain ⟨j, hj, hcourse⟩ := hs.own i m hi
    exact hcourse.eq_life (hs.joined hstage j (List.mem_of_getElem? hj))

/-- A dispatcher over a service that does not wait. -/
def promptDispatcher : Dispatcher where
  service := ⟨Catalog.standard, none, 0, 1⟩
  createDisabled := false
  destroyDisabled := false

/-- The consumer when two messages were accepted before the queue was closed: one was refused, the
task of the other broke down. -/
def afterBreakDown : Consumer where
  queue := ⟨2, [], true, [.new [], .new []], []⟩
  tasks := [.joined (some (Event.ofMessage (.new []) |>.map fun _ => ())), .joined none]
  stage := .stopped

/-- The first task has begun when the second message comes; the queue is closed while both are under
way, the second task breaks down first. -/
theorem handled_beside_breakDown :
    ∃ acts, Course promptDispatcher 2 acts afterBreakDown ∧
      (accepted acts).length = 2 ∧ afterBreakDown.queue.isDone ∧
      ∀ i m, (accepted acts)[i]? = some m → ∃ n x, own i acts = Job.life m n x := by
  have h : Course promptDispatcher 2 _ afterBreakDown :=
    (((((((((((((Course.nil.snoc (.offer _ (.new []))).snoc (.take rfl rfl)).snoc
      (@Moves.task _ _ 0 _ _ _ rfl (.begin _) nofun)).snoc
      (.offer _ (.new []))).snoc (.take rfl rfl)).snoc
      (@Moves.task _ _ 1 _ _ _ rfl (.begin _) nofun)).snoc
      (.close _)).snoc (.leave rfl rfl rfl)).snoc
      (@Moves.task _ _ 1 _ _ _ rfl (.breakDown _) nofun)).snoc
      (@Moves.task _ _ 1 _ _ _ rfl (.join _) nofun)).snoc
      (@Moves.task _ _ 0 _ _ _ rfl (.finish _ _) nofun)).snoc
      (@Moves.task _ _ 0 _ _ _ rfl (.join _) nofun)).snoc
      (.stop rfl (by decide)))
  exact ⟨_, h, rfl, (h.handles_each_once.2.2.1 rfl)⟩

end Consumer

end CloudGrant
