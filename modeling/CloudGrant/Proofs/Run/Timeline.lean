import CloudGrant.Proofs.Run.Deadline

/-!
# A run on a clock

When a run is answered by surroundings with a clock, each of its questions is asked at some time and
in some state. `Run.moments` lists them for a run that nobody cuts short (`asked_untimed`). Under a
limit the same run asks what it would have asked by then, and nothing else (`exec_before_late`); if
it is done by then, the limit makes no difference (`exec_before_inTime`).

## Ties

What is asked at the limit is still asked, and what is answered at the limit still counts.
-/

namespace CloudGrant

open Interface

namespace Interface

variable {I : Interface} {ω : Type}

/-- How a question is answered without a limit. -/
def freely (answer : ω → (q : I.timed.Request) → I.timed.Reply q × ω) (w : ω) (q : I.Request) :
    I.Reply q × ω :=
  answer w (Timed.untimed q : Timed I.Request)

/-- How a question is answered with a limit. -/
def upTo (answer : ω → (q : I.timed.Request) → I.timed.Reply q × ω) (w : ω) (limit : Nat)
    (q : I.Request) : Option (I.Reply q) × ω :=
  answer w (Timed.before limit q : Timed I.Request)

/-- The time that a program is told. -/
def told (answer : ω → (q : I.timed.Request) → I.timed.Reply q × ω) (w : ω) : Nat × ω :=
  answer w (Timed.now : Timed I.Request)

/-- The questions of a log, whether they were answered or not. -/
def asked (log : List I.Entry) : List I.Request := log.map Sigma.fst

@[simp] theorem asked_append (log log' : List I.Entry) :
    asked (log ++ log') = asked log ++ asked log' := List.map_append

end Interface

/-- Surroundings in which time passes only while a question is answered. With a limit, a question is
answered as without one if that can be done by then; if not, it is given up at the limit. -/
structure Clocked {I : Interface} {ω : Type} (clock : ω → Nat)
    (answer : ω → (q : I.timed.Request) → I.timed.Reply q × ω) : Prop where
  told (w : ω) : told answer w = (clock w, w)
  forward (w : ω) (q : I.Request) : clock w ≤ clock (freely answer w q).2
  inTime (w : ω) (limit : Nat) (q : I.Request) (h : clock (freely answer w q).2 ≤ limit) :
    upTo answer w limit q = (some (freely answer w q).1, (freely answer w q).2)
  late (w : ω) (limit : Nat) (q : I.Request) (hw : clock w ≤ limit)
    (h : limit < clock (freely answer w q).2) :
    (upTo answer w limit q).1 = none ∧ clock (upTo answer w limit q).2 = limit

/-- A question of a run, with the time at which it is asked and the state in which the run stands
then. -/
structure Moment (I : Interface) (σ : Type) where
  time : Nat
  state : σ
  question : I.Request

namespace Run

variable {I : Interface} {σ α β ω : Type} {clock : ω → Nat}
  {answer : ω → (q : I.timed.Request) → I.timed.Reply q × ω}

/-- The moments of a run that is not cut short. -/
def moments (clock : ω → Nat) (answer : ω → (q : I.timed.Request) → I.timed.Reply q × ω) (w : ω) :
    Run I σ α → List (Moment I σ)
  | done _ _ => []
  | ask s q next =>
    ⟨clock w, s, q⟩ ::
      (next (freely answer w q).1).moments clock answer (freely answer w q).2

/-- The moments of a run up to a time. -/
def momentsBy (clock : ω → Nat) (answer : ω → (q : I.timed.Request) → I.timed.Reply q × ω) (w : ω)
    (limit : Nat) (m : Run I σ α) : List (Moment I σ) :=
  (m.moments clock answer w).filter fun x => decide (x.time ≤ limit)

/-! ## One question -/

section Equations

variable {s : σ} {q : I.Request} {next : I.Reply q → Run I σ α} {w : ω} {limit : Nat}

theorem exec_untimed_ask :
    (ask s q next).untimed.exec answer w =
      (next (freely answer w q).1).untimed.exec answer (freely answer w q).2 := rfl

theorem log_untimed_ask :
    (ask s q next).untimed.log answer w =
      ⟨q, some (freely answer w q).1⟩ ::
        (next (freely answer w q).1).untimed.log answer (freely answer w q).2 := rfl

/-- What a run under a limit goes on with after the answer to a question, or without one. -/
def resume (limit : Nat) (s : σ) (next : I.Reply q → Run I σ α) :
    Option (I.Reply q) → Run I.timed σ (Option α)
  | some r => (next r).before limit
  | none => done s none

theorem before_ask :
    (ask s q next).before limit =
      ask (I := I.timed) s (Timed.before limit q : Timed I.Request) (resume limit s next) := by
  rw [before]
  refine congrArg (ask (I := I.timed) s (Timed.before limit q : Timed I.Request)) (funext fun r => ?_)
  cases r <;> rfl

theorem exec_before_ask :
    ((ask s q next).before limit).exec answer w =
      (resume limit s next (upTo answer w limit q).1).exec answer (upTo answer w limit q).2 := by
  rw [before_ask]
  rfl

theorem log_before_ask :
    ((ask s q next).before limit).log answer w =
      ⟨q, (upTo answer w limit q).1⟩ ::
        (resume limit s next (upTo answer w limit q).1).log answer (upTo answer w limit q).2 := by
  rw [before_ask]
  rfl

theorem momentsBy_ask (h : clock w ≤ limit) :
    (ask s q next).momentsBy clock answer w limit =
      ⟨clock w, s, q⟩ :: (next (freely answer w q).1).momentsBy clock answer
        (freely answer w q).2 limit :=
  List.filter_cons_of_pos (decide_eq_true h)

end Equations

/-! ## Whole runs -/

/-- The moments are those of all questions, in their order. -/
theorem asked_untimed (m : Run I σ α) (w : ω) :
    asked (m.untimed.log answer w) = (m.moments clock answer w).map Moment.question := by
  induction m generalizing w with
  | done s a => rfl
  | ask s q next ih => exact congrArg (q :: ·) (ih _ _)

/-- At each of its moments a run can be cut short. -/
theorem stops_of_mem_moments {m : Run I σ α} {w : ω} {x : Moment I σ}
    (hx : x ∈ m.moments clock answer w) : ∃ l, m.Stops l x.state (.question x.question) := by
  induction m generalizing w with
  | done s a => cases hx
  | ask s q next ih =>
    rcases List.mem_cons.mp hx with rfl | hx
    · exact ⟨[], .here s q next⟩
    · obtain ⟨l, hl⟩ := ih _ hx
      exact ⟨_ :: l, .answered _ hl⟩

/-- What comes after a part of a run is logged after it. -/
theorem log_bind (m : Run I.timed σ α) (f : α → σ → Run I.timed σ β) (w : ω) :
    (m.bind f).log answer w =
      m.log answer w ++
        (f (m.exec answer w).1.2 (m.exec answer w).1.1).log answer (m.exec answer w).2 := by
  unfold log
  rw [history_bind, entries_append]

/-- Time does not go back. -/
theorem clock_le_exec (hc : Clocked clock answer) (m : Run I σ α) (w : ω) :
    clock w ≤ clock (m.untimed.exec answer w).2 := by
  induction m generalizing w with
  | done s a => exact Nat.le_refl _
  | ask s q next ih => exact Nat.le_trans (hc.forward w q) (ih _ _)

theorem le_time_of_mem_moments (hc : Clocked clock answer) {m : Run I σ α} {w : ω}
    {x : Moment I σ} (hx : x ∈ m.moments clock answer w) : clock w ≤ x.time := by
  induction m generalizing w with
  | done s a => cases hx
  | ask s q next ih =>
    rcases List.mem_cons.mp hx with rfl | hx
    · exact Nat.le_refl _
    · exact Nat.le_trans (hc.forward w q) (ih _ hx)

/-- Once the limit has passed no moment is by then. -/
theorem momentsBy_eq_nil (hc : Clocked clock answer) {m : Run I σ α} {w : ω} {limit : Nat}
    (h : limit < clock w) : m.momentsBy clock answer w limit = [] := by
  refine List.filter_eq_nil_iff.mpr fun x hx => ?_
  have hle := le_time_of_mem_moments hc hx
  simp only [decide_eq_true_eq]
  omega

/-- **A run that is done by the limit does not notice it.** -/
theorem exec_before_inTime (hc : Clocked clock answer) {m : Run I σ α} {w : ω} {limit : Nat}
    (h : clock (m.untimed.exec answer w).2 ≤ limit) :
    (m.before limit).exec answer w =
        (((m.untimed.exec answer w).1.1, some (m.untimed.exec answer w).1.2),
          (m.untimed.exec answer w).2) ∧
      (m.before limit).log answer w = m.untimed.log answer w := by
  induction m generalizing w with
  | done s a => exact ⟨rfl, rfl⟩
  | ask s q next ih =>
    rw [exec_untimed_ask] at h
    have hnext : clock (freely answer w q).2 ≤ limit := Nat.le_trans (clock_le_exec hc _ _) h
    obtain ⟨hexec, hlog⟩ := ih _ h
    rw [exec_before_ask, log_before_ask, hc.inTime w limit q hnext, exec_untimed_ask,
      log_untimed_ask]
    exact ⟨hexec, congrArg (⟨q, some (freely answer w q).1⟩ :: ·) hlog⟩

/-- **A run that is not done by the limit asks what it would have asked by then**, and is given up
in the state in which it asked the last of it. -/
theorem exec_before_late (hc : Clocked clock answer) {m : Run I σ α} {w : ω} {limit : Nat}
    (hw : clock w ≤ limit) (h : limit < clock (m.untimed.exec answer w).2) :
    ∃ last w', (m.momentsBy clock answer w limit).getLast? = some last ∧ clock w' = limit ∧
      (m.before limit).exec answer w = ((last.state, none), w') ∧
      asked ((m.before limit).log answer w) =
        (m.momentsBy clock answer w limit).map Moment.question := by
  induction m generalizing w with
  | done s a => exact absurd h (Nat.not_lt.mpr hw)
  | ask s q next ih =>
    rw [exec_untimed_ask] at h
    rw [momentsBy_ask hw, exec_before_ask, log_before_ask]
    by_cases hq : clock (freely answer w q).2 ≤ limit
    · -- this question is answered in time, and the limit passes later
      obtain ⟨last, w', hlast, hclock, hexec, hasked⟩ := ih _ hq h
      rw [hc.inTime w limit q hq]
      refine ⟨last, w', ?_, hclock, hexec, congrArg (q :: ·) hasked⟩
      rw [List.getLast?_cons, hlast]
      rfl
    · -- the limit passes while this question is answered
      have hlate : limit < clock (freely answer w q).2 := Nat.lt_of_not_le hq
      obtain ⟨hnone, hclock⟩ := hc.late w limit q hw hlate
      rw [momentsBy_eq_nil hc hlate, hnone]
      exact ⟨⟨clock w, s, q⟩, _, rfl, hclock, rfl, rfl⟩

/-- A run under a limit does what it does freely if its work is done by then. If not, it asks what the
work asks by the limit, and then goes on, as late, from the state in which the work asked the last of
that. -/
structure Cut (clock : ω → Nat) (answer : ω → (q : I.timed.Request) → I.timed.Reply q × ω) (w : ω)
    (limit : Nat) (work : Run I σ α) (free : Run I.timed σ β) (late : σ → Run I.timed σ β)
    (run : Run I.timed σ β) : Prop where
  inTime (h : clock (work.untimed.exec answer w).2 ≤ limit) :
    run.exec answer w = free.exec answer w ∧ run.log answer w = free.log answer w
  late (h : limit < clock (work.untimed.exec answer w).2) :
    ∃ last w', (work.momentsBy clock answer w limit).getLast? = some last ∧ clock w' = limit ∧
      run.exec answer w = (late last.state).exec answer w' ∧
      asked (run.log answer w) =
        (work.momentsBy clock answer w limit).map Moment.question ++
          asked ((late last.state).log answer w')

end Run

/-! ## Programs under a deadline -/

namespace Program

variable {I : Interface} {σ α β ω : Type} {clock : ω → Nat}
  {answer : ω → (q : I.timed.Request) → I.timed.Reply q × ω}
  {duration : Nat} {release : Program I σ Unit} {p : Program I σ α} {s : σ} {w : ω}

theorem log_bind (p : Program I.timed σ α) (f : α → Program I.timed σ β) (s : σ) (w : ω) :
    ((p >>= f) s).log answer w = (p s).log answer w ++
      (f ((p s).exec answer w).1.2 ((p s).exec answer w).1.1).log answer ((p s).exec answer w).2 :=
  Run.log_bind (p s) f w

/-- To read the clock takes no time and leaves no trace. -/
theorem clock_bind (hc : Clocked clock answer) (f : Nat → Program I.timed σ α) :
    ((Program.clock >>= f) s).exec answer w = (f (clock w) s).exec answer w ∧
      ((Program.clock >>= f) s).log answer w = (f (clock w) s).log answer w := by
  have htold : ((Program.clock : Program I.timed σ Nat) s).exec answer w = ((s, clock w), w) := by
    show ((s, (told answer w).1), (told answer w).2) = _
    rw [hc.told]
  rw [exec_bind, log_bind, htold]
  exact ⟨rfl, rfl⟩

theorem before_apply (limit : Nat) (p : Program I σ α) (s : σ) :
    p.before limit s = (p s).before limit := rfl

/-- What is left to do after a program under a limit. -/
def letGo (release : Program I σ Unit) : Option α → Program I.timed σ (Option α)
  | some a => pure (some a)
  | none => do
    release.untimed
    pure none

theorem within_eq :
    within duration release p =
      Program.clock >>= fun start => p.before (start + duration) >>= letGo release := by
  unfold within
  refine congrArg (Program.clock >>= ·) (funext fun start => ?_)
  refine congrArg (p.before (start + duration) >>= ·) (funext fun r => ?_)
  cases r <;> rfl

/-- **A program that is done by its deadline does not notice it.** -/
theorem exec_within_inTime (release : Program I σ Unit) (hc : Clocked clock answer)
    (h : clock ((p s).untimed.exec answer w).2 ≤ clock w + duration) :
    (within duration release p s).exec answer w =
        ((((p s).untimed.exec answer w).1.1, some ((p s).untimed.exec answer w).1.2),
          ((p s).untimed.exec answer w).2) ∧
      (within duration release p s).log answer w = (p s).untimed.log answer w := by
  obtain ⟨hexec, hlog⟩ := Run.exec_before_inTime hc h
  obtain ⟨hclock, hclocklog⟩ := clock_bind (s := s) (w := w) hc
    fun start => p.before (start + duration) >>= letGo release
  rw [within_eq, hclock, hclocklog, exec_bind, log_bind, before_apply, hexec, hlog]
  exact ⟨rfl, List.append_nil _⟩

/-- **A program that is not done by its deadline is given up there**, and what it holds is released.
Until then it asks what it would have asked by the deadline. -/
theorem exec_within_late (release : Program I σ Unit) (hc : Clocked clock answer)
    (h : clock w + duration < clock ((p s).untimed.exec answer w).2) :
    ∃ last w', ((p s).momentsBy clock answer w (clock w + duration)).getLast? = some last ∧
      clock w' = clock w + duration ∧
      (within duration release p s).exec answer w =
        ((((release last.state).untimed.exec answer w').1.1, none),
          ((release last.state).untimed.exec answer w').2) ∧
      asked ((within duration release p s).log answer w) =
        ((p s).momentsBy clock answer w (clock w + duration)).map Moment.question ++
          asked ((release last.state).untimed.log answer w') := by
  obtain ⟨last, w', hlast, hw', hexec, hasked⟩ :=
    Run.exec_before_late hc (Nat.le_add_right (clock w) duration) h
  obtain ⟨hclock, hclocklog⟩ := clock_bind (s := s) (w := w) hc
    fun start => p.before (start + duration) >>= letGo release
  refine ⟨last, w', hlast, hw', ?_, ?_⟩
  · rw [within_eq, hclock, exec_bind, before_apply, hexec]
    exact exec_bind release.untimed (fun _ => pure none) last.state w'
  · have hrelease : ((letGo release none : Program I.timed σ (Option α)) last.state).log answer w' =
        (release last.state).untimed.log answer w' :=
      (log_bind release.untimed (fun _ => pure none) last.state w').trans (List.append_nil _)
    rw [within_eq, hclocklog, log_bind, before_apply, hexec, asked_append, hasked, hrelease]

/-- What follows a program under a deadline follows it as well without one, if it is done by then;
if not, it starts where the program let go. -/
theorem cut_within_bind (hc : Clocked clock answer) (f : Option α → Program I.timed σ β) :
    Run.Cut clock answer w (clock w + duration) (p s) ((p.untimed >>= fun a => f (some a)) s)
      (release.untimed >>= fun _ => f none) ((within duration release p >>= f) s) where
  inTime h := by
    obtain ⟨hexec, hlog⟩ := exec_within_inTime release hc h
    simp only [exec_bind, log_bind]
    rw [hexec, hlog]
    exact ⟨rfl, rfl⟩
  late h := by
    obtain ⟨last, w', hlast, hw', hexec, hasked⟩ := exec_within_late release hc h
    refine ⟨last, w', hlast, hw', ?_, ?_⟩
    · simp only [exec_bind]
      rw [hexec]
      rfl
    · simp only [log_bind]
      rw [hexec, asked_append, asked_append, hasked, List.append_assoc]
      rfl

end Program

end CloudGrant
