import CloudGrant.Intake.Message

/-!
# The queue

Messages that were accepted wait in a queue of limited length until each is started as a task of its
own. Once the queue is closed no more are accepted, but those that wait are still started; the
consumer stops when nothing waits and every task has ended. `started` lists what was started, in
order.
-/

namespace CloudGrant

/-- The queue with its consumer. `running` numbers the tasks that have not ended, by their place in
`started`. -/
structure Queue where
  capacity : Nat
  waiting : List Message
  closed : Bool
  started : List Message
  running : List Nat

namespace Queue

/-- What a sender is told. -/
inductive Receipt where
  | accepted
  | full
  | closed
deriving DecidableEq

/-- Nothing waits. There is room for one message at least. -/
def new (capacity : Nat) : Queue := ⟨max capacity 1, [], false, [], []⟩

/-- Offer a message. -/
def offer (q : Queue) (m : Message) : Receipt × Queue :=
  if q.closed then (.closed, q)
  else if q.waiting.length < q.capacity then (.accepted, { q with waiting := q.waiting ++ [m] })
  else (.full, q)

/-- Accept no more. -/
def close (q : Queue) : Queue := { q with closed := true }

/-- Start the message that has waited longest. -/
def start? (q : Queue) : Option (Message × Queue) :=
  match q.waiting with
  | [] => none
  | m :: rest =>
    some (m, { q with
      waiting := rest
      started := q.started ++ [m]
      running := q.running ++ [q.started.length] })

/-- A task ends, however it does. -/
def finish (q : Queue) (task : Nat) : Queue := { q with running := q.running.erase task }

/-- Whether the consumer stops. -/
def isDone (q : Queue) : Bool := q.closed && q.waiting.isEmpty && q.running.isEmpty

end Queue

end CloudGrant
