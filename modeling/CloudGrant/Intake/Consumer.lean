import CloudGrant.Intake.Dispatcher
import CloudGrant.Intake.Queue

/-!
# The consumer of the queue

The consumer starts a task for each message that it takes from the queue, and takes back the tasks
that have ended, whichever comes first. When it finds the queue closed and empty it takes back the
tasks that are left, and then it stops.

Senders, tasks and consumer act in any order. `Moves` says what each act does and when it is possible:
an offer or the end of the queue comes at any time, a task goes on by an answer to its question, and
at any point it may break down. A `Course` is what has happened so far, act by act.
-/

namespace CloudGrant

/-- What has become of the message that a task was made for. `ended` tasks have yet to be taken back;
a task without a result broke down. -/
inductive Job where
  | fresh (message : Message)
  | going (rest : Dispatcher.Task)
  | ended (result : Option (Except Error Unit))
  | joined (result : Option (Except Error Unit))

namespace Job

/-- What a task does. -/
inductive Act where
  | begun (message : Message)
  | answered
  | ended (result : Option (Except Error Unit))
  | joined

/-- A task goes on. -/
inductive Moves (d : Dispatcher) : Job → Act → Job → Prop where
  | begin (m : Message) : Moves d (fresh m) (.begun m) (going (d.handle m))
  | answer {rest rest' : Dispatcher.Task} :
      Run.Next rest' rest → Moves d (going rest) .answered (going rest')
  | finish (a : Application) (x : Except Error Unit) :
      Moves d (going (.done a x)) (.ended (some x)) (ended (some x))
  | breakDown (rest : Dispatcher.Task) : Moves d (going rest) (.ended none) (ended none)
  | join (x : Option (Except Error Unit)) : Moves d (ended x) .joined (joined x)

/-- Whether a task has ended. -/
def isOver : Job → Bool
  | fresh _ | going _ => false
  | ended _ | joined _ => true

/-- Whether a task was taken back. -/
def isJoined : Job → Bool
  | joined _ => true
  | _ => false

end Job

/-- Whether the consumer takes messages, waits for the tasks that are left, or has stopped. -/
inductive Stage where
  | taking
  | draining
  | stopped
deriving DecidableEq

/-- The consumer with its queue. The tasks stand in the order in which they were started. -/
structure Consumer where
  queue : Queue
  tasks : List Job
  stage : Stage

namespace Consumer

/-- Nothing has happened. -/
def new (capacity : Nat) : Consumer := ⟨Queue.new capacity, [], .taking⟩

/-- What a sender, a task or the consumer does. -/
inductive Act where
  | offered (message : Message) (receipt : Queue.Receipt)
  | closed
  | taken (message : Message)
  | left
  | task (number : Nat) (act : Job.Act)
  | stopped

/-- Whether an act is one of the consumer or of its tasks. -/
def Act.isOwn : Act → Bool
  | offered .. | closed => false
  | taken _ | left | task .. | stopped => true

/-- The queue after what a task did. -/
def note (q : Queue) (number : Nat) : Job.Act → Queue
  | .ended _ => q.finish number
  | _ => q

/-- Something happens. -/
inductive Moves (d : Dispatcher) : Consumer → Act → Consumer → Prop where
  | offer (c : Consumer) (m : Message) :
      Moves d c (.offered m (c.queue.offer m).1) { c with queue := (c.queue.offer m).2 }
  | close (c : Consumer) : Moves d c .closed { c with queue := c.queue.close }
  | take {c : Consumer} {m : Message} {q : Queue} :
      c.stage = .taking → c.queue.start? = some (m, q) →
      Moves d c (.taken m) { c with queue := q, tasks := c.tasks ++ [.fresh m] }
  | leave {c : Consumer} :
      c.stage = .taking → c.queue.closed → c.queue.start? = none →
      Moves d c .left { c with stage := .draining }
  | task {c : Consumer} {i : Nat} {j j' : Job} {a : Job.Act} :
      c.tasks[i]? = some j → j.Moves d a j' → (j'.isJoined → c.stage ≠ .stopped) →
      Moves d c (.task i a) { c with queue := note c.queue i a, tasks := c.tasks.set i j' }
  | stop {c : Consumer} :
      c.stage = .draining → (∀ j ∈ c.tasks, j.isJoined) →
      Moves d c .stopped { c with stage := .stopped }

/-- What has happened since the beginning. -/
inductive Course (d : Dispatcher) (capacity : Nat) : List Act → Consumer → Prop where
  | nil : Course d capacity [] (new capacity)
  | snoc {acts : List Act} {c c' : Consumer} {a : Act} :
      Course d capacity acts c → Moves d c a c' → Course d capacity (acts ++ [a]) c'

end Consumer

end CloudGrant
