import CloudGrant.Run.Fleet
import CloudGrant.Simulation.World

/-!
# Several tasks in one world

Tasks share a world and one thread: a task goes on until it has to wait, and then the next one does.
Time passes only when all of them wait; then the one that wakes first goes on, and of several that
wake at the same moment the one whose alarm was set first. A task under a limit sets a second alarm,
for the limit, right after the first one it sets; if work and limit come due together, work wins.

## Termination

In each step either a task goes on, which is a turn in the sense of `Run.Turn`, or a task that was
awake falls asleep.
-/

namespace CloudGrant.Simulation

variable {σ α : Type}

/-- What a sleeping task waits for. `place` orders the alarms by when they were set; `cut` says that
the alarm is the limit's. -/
structure Sleep where
  wake : Nat
  place : Nat
  ticket : Ticket
  cut : Bool

/-- A task: what is left of it, whether it sleeps, and the place of its limit's alarm. -/
structure Task (σ α : Type) where
  run : Run surroundings.timed σ α
  sleep : Option Sleep
  limitPlace : Option Nat

/-- Tasks in a world; `places` counts the alarms that were set. -/
structure Crew (σ α : Type) where
  tasks : List (Task σ α)
  world : World
  places : Nat

namespace Task

/-- A task that has not begun. -/
def fresh (m : Run surroundings.timed σ α) : Task σ α := ⟨m, none, none⟩

/-- Whether a task can go on at once. -/
def isReady (t : Task σ α) : Bool :=
  match t.run, t.sleep with
  | .ask .., none => true
  | _, _ => false

/-- When a sleeping task wakes, with its place among those that wake then. -/
def alarm? (t : Task σ α) : Option (Nat × Nat) :=
  match t.run, t.sleep with
  | .ask .., some s => some (s.wake, s.place)
  | _, _ => none

end Task

/-- A task after it went on, with the world and the count of alarms. -/
structure Progress (σ α : Type) where
  task : Task σ α
  world : World
  places : Nat

/-- Go to sleep over a question without a limit. -/
def sleepFreely (t : Task σ α) (w : World) (places : Nat) (ticket : Ticket) : Progress σ α :=
  ⟨{ t with sleep := some ⟨w.clock + ticket.delay, places, ticket, false⟩ }, w, places + 1⟩

/-- Go to sleep over a question with a limit that is not yet reached. -/
def sleepUpTo (limit : Nat) (t : Task σ α) (w : World) (places : Nat) (ticket : Ticket) :
    Progress σ α :=
  let due := w.clock + ticket.delay
  let (mark, next) := match t.limitPlace with
    | some p => (p, places + 1)
    | none => (places + 1, places + 2)
  let sleep : Sleep :=
    if due < limit then ⟨due, places, ticket, false⟩
    else if due = limit then ⟨due, min places mark, ticket, false⟩
    else ⟨limit, mark, ticket, true⟩
  ⟨{ t with sleep := some sleep, limitPlace := some mark }, w, next⟩

/-- A task goes on with what it makes of an answer. -/
def goOn (t : Task σ α) (m : Run surroundings.timed σ α) (w : World) (places : Nat) :
    Progress σ α :=
  ⟨{ t with run := m, sleep := none }, w, places⟩

/-- Answer the question of a task that is awake, or let it sleep over it. -/
def begin (t : Task σ α) (w : World) (places : Nat) :
    (q : Timed Question) → (surroundings.timed.Reply q → Run surroundings.timed σ α) → Progress σ α
  | .now, next => goOn t (next w.clock) w places
  | .untimed q, next =>
    let (ticket, w) := w.start q
    if ticket.delay = 0 then
      let (r, w) := w.finish ticket q
      goOn t (next r) w places
    else sleepFreely t w places ticket
  | .before limit q, next =>
    let (ticket, w) := w.start q
    if ticket.delay = 0 then
      let (r, w) := w.finish ticket q
      goOn t (next (some r)) w places
    else if limit ≤ w.clock then goOn t (next none) w places
    else sleepUpTo limit t w places ticket

/-- Wake a task: its question is answered now, unless its limit came first. -/
def wake (t : Task σ α) (s : Sleep) (w : World) (places : Nat) :
    (q : Timed Question) → (surroundings.timed.Reply q → Run surroundings.timed σ α) → Progress σ α
  | .now, next => goOn t (next w.clock) w places
  | .untimed q, next =>
    let (r, w) := w.finish s.ticket q
    goOn t (next r) w places
  | .before _ q, next =>
    if s.cut then goOn t (next none) w places
    else
      let (r, w) := w.finish s.ticket q
      goOn t (next (some r)) w places

/-- Let a task go on: at once, or at the time of its alarm. -/
def Task.proceed (t : Task σ α) (w : World) (places : Nat) : Progress σ α :=
  match t.run with
  | .done .. => ⟨t, w, places⟩
  | .ask _ q next =>
    match t.sleep with
    | none => begin t w places q next
    | some s => wake t s { w with clock := max w.clock s.wake } places q next

/-- The earlier of two alarms. -/
def earlier (a b : Nat × Nat) : Nat × Nat :=
  if a.1 < b.1 ∨ a.1 = b.1 ∧ a.2 ≤ b.2 then a else b

/-- The first alarm. -/
def firstAlarm? (tasks : List (Task σ α)) : Option (Nat × Nat) :=
  (tasks.filterMap Task.alarm?).foldl
    (fun first a => some (match first with | none => a | some b => earlier b a)) none

/-- The task that goes on next. -/
def next? (tasks : List (Task σ α)) : Option Nat :=
  match tasks.findIdx? Task.isReady with
  | some i => some i
  | none => (firstAlarm? tasks).bind (fun a => tasks.findIdx? (fun t => t.alarm? == some a))

/-! ## Each step leads on -/

/-- A task went on, or it fell asleep. -/
def LeadsOn (t' t : Task σ α) : Prop :=
  Run.Next t'.run t.run ∨ t'.run = t.run ∧ t.isReady = true ∧ t'.isReady = false

theorem leadsOn_goOn {t : Task σ α} {m : Run surroundings.timed σ α} {w : World} {places : Nat}
    (h : Run.Next m t.run) : LeadsOn (goOn t m w places).task t := .inl h

theorem leadsOn_asleep {t t' : Task σ α} (h : t'.run = t.run) (ready : t.isReady = true)
    (asleep : t'.sleep.isSome = true) : LeadsOn t' t := by
  refine .inr ⟨h, ready, ?_⟩
  unfold Task.isReady
  split <;> simp_all

theorem leadsOn_begin {t : Task σ α} {w : World} {places : Nat} {s : σ} {q : Timed Question}
    {next : surroundings.timed.Reply q → Run surroundings.timed σ α}
    (h : t.run = .ask s q next) (hs : t.sleep = none) :
    LeadsOn (begin t w places q next).task t := by
  have ready : t.isReady = true := by simp [Task.isReady, h, hs]
  have step : ∀ r, Run.Next (next r) t.run := fun r =>
    h ▸ @Run.Next.ask surroundings.timed σ α s q next r
  cases q with
  | now => exact leadsOn_goOn (step _)
  | untimed q =>
    simp only [begin]
    split
    · exact leadsOn_goOn (step _)
    · exact leadsOn_asleep rfl ready rfl
  | before limit q =>
    simp only [begin]
    split
    · exact leadsOn_goOn (step _)
    · split
      · exact leadsOn_goOn (step _)
      · exact leadsOn_asleep rfl ready rfl

theorem leadsOn_wake {t : Task σ α} {p : Sleep} {w : World} {places : Nat} {s : σ}
    {q : Timed Question} {next : surroundings.timed.Reply q → Run surroundings.timed σ α}
    (h : t.run = .ask s q next) : LeadsOn (wake t p w places q next).task t := by
  have step : ∀ r, Run.Next (next r) t.run := fun r =>
    h ▸ @Run.Next.ask surroundings.timed σ α s q next r
  cases q with
  | now => exact leadsOn_goOn (step _)
  | untimed q => exact leadsOn_goOn (step _)
  | before limit q =>
    simp only [wake]
    split <;> exact leadsOn_goOn (step _)

theorem leadsOn_proceed {t : Task σ α} {w : World} {places : Nat}
    (h : t.isReady = true ∨ t.alarm?.isSome = true) : LeadsOn (t.proceed w places).task t := by
  unfold Task.proceed
  split
  · next h' => simp [Task.isReady, Task.alarm?, h'] at h
  · next h' =>
    split
    · next hs => exact leadsOn_begin h' hs
    · exact leadsOn_wake h'

theorem next?_spec {tasks : List (Task σ α)} {i : Nat} (h : next? tasks = some i) :
    ∃ hi : i < tasks.length, tasks[i].isReady = true ∨ tasks[i].alarm?.isSome = true := by
  unfold next? at h
  split at h
  · next j hj =>
    cases h
    obtain ⟨hi, hr, _⟩ := List.findIdx?_eq_some_iff_getElem.mp hj
    exact ⟨hi, .inl hr⟩
  · obtain ⟨a, _, ha⟩ := Option.bind_eq_some_iff.mp h
    obtain ⟨hi, hr, _⟩ := List.findIdx?_eq_some_iff_getElem.mp ha
    simp only [beq_iff_eq] at hr
    exact ⟨hi, .inr (by simp [hr])⟩

/-! ## All tasks to their end -/

/-- How many tasks can go on at once. -/
def awake (tasks : List (Task σ α)) : Nat := tasks.countP Task.isReady

/-- What is left of the tasks, and how many are awake. -/
abbrev Measure (σ α : Type) : Type := List (Run surroundings.timed σ α) × Nat

instance measureRelation : WellFoundedRelation (Measure σ α) where
  rel := Prod.Lex Run.Turn (· < ·)
  wf := (Prod.lex ⟨_, Run.wellFounded_turn⟩ Nat.lt_wfRel).wf

def measure (tasks : List (Task σ α)) : Measure σ α := (tasks.map Task.run, awake tasks)

theorem measure_set {tasks : List (Task σ α)} {i : Nat} (hi : i < tasks.length) {t : Task σ α}
    (h : LeadsOn t tasks[i]) : measureRelation.rel (measure (tasks.set i t)) (measure tasks) := by
  unfold measure
  rw [List.map_set]
  rcases h with h | ⟨hr, ready, asleep⟩
  · exact Prod.Lex.left _ _ (Run.turn_set (by simpa using hi) (by simpa using h))
  · have hm : (tasks.map Task.run).set i t.run = tasks.map Task.run := by
      rw [hr]
      apply List.ext_getElem (by simp)
      intro j _ _
      by_cases hj : i = j
      · subst hj; simp
      · simp [hj]
    rw [hm]
    refine Prod.Lex.right _ ?_
    have hc := List.countP_set (p := Task.isReady) (a := t) hi
    have hpos : 0 < awake tasks := List.countP_pos_iff.mpr ⟨_, List.getElem_mem hi, ready⟩
    simp only [ready, asleep, if_true, Bool.false_eq_true, if_false] at hc
    simp only [awake] at *
    omega

/-- Let all tasks go on until each is done. -/
def Crew.finish (c : Crew σ α) : Crew σ α :=
  match h : next? c.tasks with
  | none => c
  | some i =>
    let t := c.tasks.get ⟨i, (next?_spec h).1⟩
    let p := t.proceed c.world c.places
    Crew.finish ⟨c.tasks.set i p.task, p.world, p.places⟩
termination_by measure c.tasks
decreasing_by exact measure_set _ (leadsOn_proceed (next?_spec h).2)

/-- Run tasks that are started in order. -/
def World.runAll (w : World) (runs : List (Run surroundings.timed σ α)) : Crew σ α :=
  Crew.finish ⟨runs.map Task.fresh, w, 0⟩

end CloudGrant.Simulation
