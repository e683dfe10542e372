import CloudGrant.Gateway
import CloudGrant.Intake.Dispatcher
import CloudGrant.Worker.Options

/-!
# The worker

A `Worker` is a dispatcher with the way to its surroundings, both set up from the options. Each
message becomes a task over the world outside (`Worker.task`). The template is put in its place before
anything else; if that fails the worker starts without one.
-/

namespace CloudGrant

/-- A dispatcher and its way to the surroundings. -/
structure Worker where
  dispatcher : Dispatcher
  gateway : Gateway

namespace Worker

/-- Where the template is put. -/
def templatePlace : String := "/tmp/az_payload.json"

/-- Put the template in its place, if there is a source for it; the place if that worked. -/
def prepareTemplate (o : Options) : Azure.TemplateSource.FileWork (Option String) :=
  match o.template with
  | none => pure none
  | some source => do
    let result ← source.prepare templatePlace
    pure result.toOption

/-- The worker of some options. -/
def ofOptions (o : Options) (template : Option String) : Worker where
  dispatcher :=
    { service :=
        { catalog := Catalog.standard
          template := template
          settle := (Duration.ofSeconds o.settle).milliseconds
          deadline := (Duration.ofSeconds o.deadline).milliseconds }
      createDisabled := o.createDisabled
      destroyDisabled := o.destroyDisabled }
  gateway :=
    { inventory := o.inventory
      azure := Azure.Settings.standard
      region := o.region }

/-- What is to be done about a message. -/
def task (w : Worker) (m : Message) :
    Run Gateway.outside.timed Gateway.Links (Except Error Unit × Application) :=
  w.gateway.carryOut (w.dispatcher.handle m)

end Worker

end CloudGrant
