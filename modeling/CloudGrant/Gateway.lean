import CloudGrant.Amazon.Account
import CloudGrant.Application
import CloudGrant.Azure.Session
import CloudGrant.Inventory.Client
import CloudGrant.Run.Handler

/-!
# The way to the surroundings

How what a task asks of its surroundings is carried out: calls to the inventory go over the network,
calls to an Amazon account are requests to the services with the account's login, commands of an Azure
session are runs of the command line tool. A task has one account and one session at most.
-/

namespace CloudGrant

/-- How the surroundings are reached. -/
structure Gateway where
  inventory : Inventory.Settings
  azure : Azure.Settings
  region : String

namespace Gateway

/-- What is asked of the world outside. -/
inductive Demand where
  | network (e : Http.Exchange)
  | service (keyId secret region : String) (operation : Amazon.Operation)
  | tool (q : Azure.ToolQuestion)
  | guid

/-- What the world outside answers. -/
@[reducible] def Demand.Reply : Demand → Type
  | network e => e.Reply
  | service _ _ _ o => Except Amazon.Refusal o.Result
  | tool q => q.Reply
  | guid => String

/-- The interface to the world outside. -/
def outside : Interface := ⟨Demand, Demand.Reply⟩

/-- The network as a part of the world outside. -/
def networkPart : Interface.Part Http.network outside := ⟨Demand.network, fun _ r => r⟩

/-- The services, for one login in one region, as a part of the world outside. -/
def servicePart (keyId secret region : String) : Interface.Part Amazon.services outside :=
  ⟨Demand.service keyId secret region, fun _ r => r⟩

/-- The command line tool as a part of the world outside. -/
def toolPart : Interface.Part Azure.tool outside := ⟨Demand.tool, fun _ r => r⟩

/-- What a task holds: the login of its account and its open session. -/
structure Links where
  login : String × String
  session : Option Azure.Session

namespace Links

def none : Links := ⟨("", ""), .none⟩

end Links

/-- A program that works for a task. -/
abbrev Errand (α : Type) : Type := Program outside Links α

/-- Open a session and hold it. -/
def openSession (g : Gateway) : Errand (Except Cause Unit) := do
  match ← (Azure.Session.start g.azure).through toolPart with
  | .error e => pure (.error e)
  | .ok session => do
    Program.modify fun l => { l with session := some session }
    pure (.ok ())

/-- Close the session that is held. -/
def closeSession : Errand (Except Cause Unit) := do
  let links ← Program.get
  match links.session with
  | none => pure (.ok ())
  | some session => do
    session.close.through toolPart
    Program.modify fun l => { l with session := none }
    pure (.ok ())

/-- Carry out a command in the session that is held. -/
def command (c : Azure.Call) : Errand (Except Cause c.Result) := do
  let links ← Program.get
  match links.session with
  | none => pure (.error (Cause.of "no session is open"))
  | some session => (session.carryOut c).through toolPart

/-- Carry out what a task asks of Azure. -/
def azureCall (g : Gateway) : (c : Azure.Call) → Errand (Except Cause c.Result)
  | .openSession => g.openSession
  | .closeSession => closeSession
  | .login l => command (.login l)
  | .deploy name template => command (.deploy name template)
  | .delete name => command (.delete name)
  | .logout => command .logout

/-- Carry out what a task asks of its Amazon account. -/
def amazonCall (g : Gateway) (c : Amazon.Call) : Errand (Except Cause c.Result) := do
  let links ← Program.get
  (Amazon.carryOut g.region c).through (servicePart links.login.1 links.login.2 g.region)

/-- Hold the login of an account. -/
def build : Cloud → Credential → Errand Unit
  | .amazon, c => Program.modify fun l => { l with login := (c.username, c.secret) }
  | .azure, _ => pure ()

/-- Ask the world outside. -/
def askOutside (d : Demand) : Errand d.Reply := Program.ask (I := outside) d

/-- Carry out what a task asks of its surroundings. -/
def handler (g : Gateway) : Handler surroundings outside Links
  | .amazon c => g.amazonCall c
  | .azure c => g.azureCall c
  | .inventory caller c => (g.inventory.carryOut caller c).through networkPart
  | .build cloud c => build cloud c
  | .wait ms => askOutside (.network (.wait (Duration.ofMilliseconds ms)))
  | .guid => askOutside .guid

/-- Carry out a task. -/
def carryOut {σ α : Type} (g : Gateway) (task : Run surroundings.timed σ α) :
    Run outside.timed Links (α × σ) :=
  task.handledBy g.handler.timed Links.none

end Gateway

end CloudGrant
