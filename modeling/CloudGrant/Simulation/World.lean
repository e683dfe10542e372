import CloudGrant.Run.Deadline
import CloudGrant.Simulation.Holdings

/-!
# A world in memory

A `World` is surroundings that answer from memory: clouds whose contents are known, an inventory with
one credential, and a clock that moves only while a call is delayed or a program waits. A list of
faults says which calls are delayed and which fail; a call that fails has changed nothing. Every call
is logged when it starts.

A question is answered in two parts, `start` and `finish`, between which its delay passes.
`World.answer` does both for a single run; a question that is not answered by its limit is started
and never finished.
-/

namespace CloudGrant.Simulation

/-- How a call fails. -/
inductive Failure where
  | cause (c : Cause)
  | refusal (status : Option Nat) (body : String)

/-- The failure of a cloud call. -/
def Failure.toCause : Failure → Cause
  | cause c => c
  | refusal _ body => Cause.of body

/-- The failure of a call to the inventory. -/
def Failure.toInventory (operation : String) : Failure → InventoryError
  | cause c => ⟨operation, none, c.text⟩
  | refusal status body => ⟨operation, status, body⟩

/-- What happens to calls of a name: to the `nth` of them, or to every one. -/
structure Fault where
  call : String
  nth : Option Nat
  delay : Nat
  failure : Option Failure

/-- Whether a fault concerns the `n`-th call of a name. -/
def Fault.concerns (f : Fault) (call : String) (n : Nat) : Bool :=
  f.call == call && (f.nth.isNone || f.nth == some n)

/-- Surroundings in memory. The clock counts milliseconds. -/
structure World where
  clock : Nat
  holdings : Holdings
  faults : List Fault
  counts : Dict String Nat
  guids : List String
  drawn : Nat
  credential : Credential
  subscription : String
  log : List Question

/-- A call that was started: how long it takes, whether it will fail, and how many calls of its name
there have been. -/
structure Ticket where
  delay : Nat
  failure : Option Failure
  count : Nat

/-- What is answered at once. -/
def Ticket.immediate : Ticket := ⟨0, none, 0⟩

namespace World

/-- Log a call that nothing can happen to. -/
def note (w : World) (q : Question) : World := { w with log := w.log ++ [q] }

/-- Log a call and look up what happens to it. -/
def enter (w : World) (name : String) (q : Question) : Ticket × World :=
  let n := (w.counts.find? name).getD 0 + 1
  let w := { w.note q with counts := w.counts.insert name n }
  match w.faults.find? (fun f => f.concerns name n) with
  | some f => (⟨f.delay, f.failure, n⟩, w)
  | none => (⟨0, none, n⟩, w)

/-- Start to answer a question. A session is opened without delay and closed without fail. -/
def start (w : World) (q : Question) : Ticket × World :=
  match q with
  | .amazon c => w.enter c.name q
  | .azure .closeSession => (Ticket.immediate, w.note q)
  | .azure .openSession =>
    let (t, w) := w.enter Azure.Call.openSession.name q
    ({ t with delay := 0 }, w)
  | .azure c => { w with holdings := w.holdings.onAzureStart c }.enter c.name q
  | .inventory _ c => w.enter c.name q
  | .build .. => (Ticket.immediate, w.note q)
  | .wait ms => (⟨ms, none, 0⟩, w)
  | .guid => (Ticket.immediate, w)

/-- What a successful Azure command gives. -/
def azureResult (w : World) : (c : Azure.Call) → c.Result
  | .openSession => ()
  | .login _ => ()
  | .deploy .. => w.subscription
  | .delete _ => ()
  | .logout => ()
  | .closeSession => ()

/-- What a successful call to the inventory gives; `n` counts the calls of its name. -/
def inventoryResult (w : World) (n : Nat) : (c : Inventory.Call) → c.Result
  | .credential _ => w.credential
  | .patchApplication .. => ()
  | .patchSource .. => ()
  | .createAuthentication _ => "auth-" ++ toString n
  | .linkAuthentication .. => ()
  | .checkAvailability _ => ()

/-- The next guid: of the list, or a numbered one when the list is used up. -/
def draw (w : World) : String × World :=
  let w := { w with drawn := w.drawn + 1 }
  match w.guids with
  | g :: gs => (g, { w with guids := gs })
  | [] => ("guid-" ++ toString w.drawn, w)

/-- Finish the answer to a question. -/
def finish (w : World) (t : Ticket) : (q : Question) → q.Reply × World
  | .amazon c =>
    match t.failure with
    | some f => (.error f.toCause, w)
    | none => (.ok (amazonResult c), { w with holdings := w.holdings.afterAmazon c })
  | .azure c =>
    match t.failure with
    | some f => (.error f.toCause, w)
    | none => (.ok (w.azureResult c), { w with holdings := w.holdings.afterAzure c })
  | .inventory _ c =>
    match t.failure with
    | some f => (.error (f.toInventory c.operation), w)
    | none => (.ok (w.inventoryResult t.count c), w)
  | .build .. => ((), w)
  | .wait _ => ((), w)
  | .guid => w.draw

/-- Let time pass. -/
def pass (w : World) (ms : Nat) : World := { w with clock := w.clock + ms }

/-- Answer a question of a run that is alone. -/
def answer (w : World) : (q : Timed Question) → surroundings.timed.Reply q × World
  | .now => (w.clock, w)
  | .untimed q =>
    let (t, w) := w.start q
    (w.pass t.delay).finish t q
  | .before limit q =>
    let (t, w) := w.start q
    if w.clock + t.delay ≤ limit then
      let (r, w) := (w.pass t.delay).finish t q
      (some r, w)
    else (none, { w with clock := max w.clock limit })

end World

/-- The outcome of a run that is alone in a world. -/
def World.exec {σ α : Type} (w : World) (m : Run surroundings.timed σ α) : (σ × α) × World :=
  m.exec World.answer w

end CloudGrant.Simulation
