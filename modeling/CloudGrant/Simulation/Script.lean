import CloudGrant.Amazon.Message
import CloudGrant.Gateway

/-!
# A scripted world outside

Servers and a command line tool that play a script: the n-th request gets the n-th response, the n-th
run of the tool has the n-th outcome. What they were asked is kept in order. `Outside.answer` is the
world outside of a single task.
-/

namespace CloudGrant.Simulation

/-! ## Servers -/

/-- A server with the responses to come, `none` for a connection without an answer, and the requests
that it has seen. -/
structure Server (Q : Type) where
  listening : Bool
  script : List (Option Http.Response)
  seen : List Q

namespace Server

variable {Q : Type}

/-- The response to a request that is not in the script. -/
def unscripted : Http.Response := ⟨404, [], some (Text.Utf8.encode "no response scripted")⟩

/-- Take a request. -/
def serve (s : Server Q) (request : Q) : Option Http.Response × Server Q :=
  if s.listening then
    let s := { s with seen := s.seen ++ [request] }
    match s.script with
    | [] => (some unscripted, s)
    | response :: rest => (response, { s with script := rest })
  else (none, s)

/-- The network with a server at an address, given as host and port. -/
def network (address : String) (s : Server Http.Request) : (e : Http.Exchange) →
    e.Reply × Server Http.Request
  | .send r _ => if r.url.authorityText = ("//" ++ address).toList then s.serve r else (none, s)
  | .wait _ => ((), s)

/-- Amazon's services on a server. A request without an address is never sent. -/
def service (s : Server Amazon.Message) (o : Amazon.Operation) :
    Except Amazon.Refusal o.Result × Server Amazon.Message :=
  if o.isAddressed then
    let (response, s) := s.serve o.message
    (o.read response, s)
  else (.error ⟨none⟩, s)

end Server

/-! ## The command line tool -/

/-- A tool with the outcomes to come, its runs with their homes, and the homes made and removed. -/
structure Tool where
  installed : Bool
  script : List Azure.Outcome
  runs : List (String × List String)
  made : List String
  removed : List String

namespace Tool

/-- A tool that has not run. -/
def new (installed : Bool) (script : List Azure.Outcome) : Tool := ⟨installed, script, [], [], []⟩

/-- What the system says about a program that does not exist. -/
def notFound : String := "No such file or directory (os error 2)"

def answer (t : Tool) : (q : Azure.ToolQuestion) → q.Reply × Tool
  | .makeHome =>
    let home := "home-" ++ toString t.made.length
    (.ok home, { t with made := home :: t.made })
  | .run home arguments =>
    if t.installed then
      let t := { t with runs := t.runs ++ [(home, arguments)] }
      match t.script with
      | [] => (.ended (.exited 0) [] [], t)
      | outcome :: rest => (outcome, { t with script := rest })
    else (.notStarted notFound, t)
  | .wait _ => ((), t)
  | .removeHome home => ((), { t with removed := home :: t.removed })

end Tool

/-! ## All of it -/

/-- The world outside: the inventory at its address, Amazon's services, the tool, and a guid that is
drawn each time. -/
structure Outside where
  address : String
  inventory : Server Http.Request
  services : Server Amazon.Message
  tool : Tool
  guid : String

namespace Outside

def demand (o : Outside) : (d : Gateway.Demand) → d.Reply × Outside
  | .network e =>
    let (r, server) := o.inventory.network o.address e
    (r, { o with inventory := server })
  | .service _ _ _ operation =>
    let (r, server) := o.services.service operation
    (r, { o with services := server })
  | .tool q =>
    let (r, tool) := o.tool.answer q
    (r, { o with tool := tool })
  | .guid => (o.guid, o)

/-- Answer a demand; everything is done at once. -/
def answer (o : Outside) : (q : Timed Gateway.Demand) →
    Gateway.outside.timed.Reply q × Outside
  | .now => ((0 : Nat), o)
  | .untimed d => o.demand d
  | .before _ d =>
    let (r, o) := o.demand d
    (some r, o)

/-- Carry out a task. -/
def exec {σ α : Type} (g : Gateway) (task : Run surroundings.timed σ α) (o : Outside) :
    (α × σ) × Outside :=
  let ((_, r), o) := (g.carryOut task).exec answer o
  (r, o)

end Outside

end CloudGrant.Simulation
