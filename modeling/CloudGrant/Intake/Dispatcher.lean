import CloudGrant.Intake.Event
import CloudGrant.Service

/-!
# The dispatcher

What is done about a message: its event is carried out by the service, unless events of its kind are
switched off. A message that stands for no event is refused without asking the surroundings anything.
-/

namespace CloudGrant

/-- The service behind two switches. -/
structure Dispatcher where
  service : Service
  createDisabled : Bool
  destroyDisabled : Bool

namespace Dispatcher

/-- What is left of a message: a run that ends with the outcome. -/
abbrev Task : Type := Run surroundings.timed Application (Except Error Unit)

/-- A task that is over, without having touched an application. -/
def ended (outcome : Except Error Unit) : Task :=
  .done (Application.new Request.Create.blank "") outcome

/-- Carry out an event. -/
def carryOut (d : Dispatcher) : Event → Task
  | .create r => if d.createDisabled then ended (.ok ()) else d.service.createRun r
  | .destroy r => if d.destroyDisabled then ended (.ok ()) else d.service.destroyRun r

/-- Carry out a message. -/
def handle (d : Dispatcher) (m : Message) : Task :=
  match Event.ofMessage m with
  | .error e => ended (.error e)
  | .ok event => d.carryOut event

end Dispatcher

end CloudGrant
