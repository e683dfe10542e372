import CloudGrant.Azure.Status
import CloudGrant.Call
import CloudGrant.Run.Basic
import CloudGrant.Settings
import CloudGrant.Text.Blank

/-!
# Login sessions of the command line tool

A session runs the cloud's command line tool with a home directory of its own, in which the tool keeps
its tokens; the directory is removed when the session ends. Commands are known in error messages by a
label, never by their arguments, which hold secrets.

A deployment is submitted once and then looked at a limited number of times; the first look that is
decisive ends it.
-/

namespace CloudGrant.Azure

/-! ## The tool -/

/-- How a process ended. -/
inductive Ending where
  | exited (code : Nat)
  | killed (signal : Nat)
deriving DecidableEq

namespace Ending

/-- The names of the signals from 1 on. -/
def signalNames : List String :=
  [ "SIGHUP", "SIGINT", "SIGQUIT", "SIGILL", "SIGTRAP", "SIGABRT", "SIGBUS", "SIGFPE", "SIGKILL"
  , "SIGUSR1", "SIGSEGV", "SIGUSR2", "SIGPIPE", "SIGALRM", "SIGTERM", "SIGSTKFLT", "SIGCHLD"
  , "SIGCONT", "SIGSTOP", "SIGTSTP", "SIGTTIN", "SIGTTOU", "SIGURG", "SIGXCPU", "SIGXFSZ"
  , "SIGVTALRM", "SIGPROF", "SIGWINCH", "SIGIO", "SIGPWR", "SIGSYS" ]

/-- The name of a signal in brackets, if it has one. -/
def signalName (signal : Nat) : String :=
  if signal = 0 then ""
  else match signalNames[signal - 1]? with
    | some name => " (" ++ name ++ ")"
    | none => ""

def text : Ending → String
  | exited code => "exit status: " ++ toString code
  | killed signal => "signal: " ++ toString signal ++ signalName signal

end Ending

/-- What came of a run of the tool. -/
inductive Outcome where
  | ended (ending : Ending) (output errors : List UInt8)
  | notStarted (reason : String)
  | timedOut

/-- What a session asks for. -/
inductive ToolQuestion where
  | makeHome
  | run (home : String) (arguments : List String)
  | wait (span : Duration)
  | removeHome (home : String)

/-- What it is answered. -/
@[reducible] def ToolQuestion.Reply : ToolQuestion → Type
  | makeHome => Except Cause String
  | run .. => Outcome
  | wait _ => Unit
  | removeHome _ => Unit

/-- The interface to the tool. -/
def tool : Interface := ⟨ToolQuestion, ToolQuestion.Reply⟩

/-- A program that uses the tool. -/
abbrev ToolWork (α : Type) : Type := Program tool Unit α

/-- Ask the tool. -/
def askTool (q : ToolQuestion) : ToolWork q.Reply := Program.ask (I := tool) q

/-! ## Commands -/

/-- An open session. -/
structure Session where
  home : String
  settings : Settings

namespace Session

/-- The standard output of a run, or why it failed. -/
def outputOf (settings : Settings) (label : String) : Outcome → Except Cause (List UInt8)
  | .timedOut =>
    .error (Cause.of ("[az " ++ label ++ "] timed out after " ++ settings.commandTimeout.text))
  | .notStarted reason => .error ((Cause.of reason).within ("failed to run [az " ++ label ++ "]"))
  | .ended ending output errors =>
    if ending = .exited 0 then .ok output
    else .error (Cause.of ("[az " ++ label ++ "] exited with " ++ ending.text ++ ": "
      ++ Text.trim (Text.Utf8.decodeLossy errors)))

/-- Run a command. -/
def run (s : Session) (label : String) (arguments : List String) :
    ToolWork (Except Cause (List UInt8)) := do
  let outcome ← askTool (.run s.home arguments)
  pure (outputOf s.settings label outcome)

/-- Run a command whose output does not matter. -/
def runQuietly (s : Session) (label : String) (arguments : List String) :
    ToolWork (Except Cause Unit) := do
  let result ← s.run label arguments
  pure (result.map fun _ => ())

def login (s : Session) (l : Login) : ToolWork (Except Cause Unit) := do
  let result ← s.runQuietly "login"
    [ "login", "--service-principal", "--username=" ++ l.username, "--password=" ++ l.password
    , "--tenant=" ++ l.tenant ]
  pure (result.mapError (Cause.within "failed to login with az credentials"))

def logout (s : Session) : ToolWork (Except Cause Unit) := do
  let result ← s.runQuietly "logout" ["logout"]
  pure (result.mapError (Cause.within "failed to logout az cli"))

def delete (s : Session) (name : String) : ToolWork (Except Cause Unit) :=
  s.runQuietly "deployment sub delete" ["deployment", "sub", "delete", "--name=" ++ name]

/-- Submit a deployment. -/
def submit (s : Session) (name template : String) : ToolWork (Except Cause Unit) :=
  s.runQuietly "deployment sub create"
    [ "deployment", "sub", "create", "--no-wait", "--location=" ++ s.settings.location
    , "--name=" ++ name, "--template-file=" ++ template ]

/-- Look at a deployment. -/
def look (s : Session) (name : String) : ToolWork (Except Cause Status) := do
  let result ← s.run "deployment sub show" ["deployment", "sub", "show", "--name=" ++ name]
  pure ((result.mapError (Cause.within "failed to read deployment status")).bind Status.ofBytes)

/-- How many times a deployment is looked at: once at least. -/
def looks (s : Session) : Nat := max s.settings.polls 1

/-- Look at a deployment up to a number of times, until a look is decisive. -/
def await (s : Session) (name : String) : Nat → ToolWork (Except Cause String)
  | 0 =>
    pure (.error (Cause.of ("deployment \"" ++ name ++ "\" did not finish after "
      ++ toString s.looks ++ " status checks")))
  | n + 1 => do
    match ← s.look name with
    | .error e => pure (.error e)
    | .ok (.succeeded subscription) => pure (.ok subscription)
    | .ok (.failed cause) => pure (.error (Cause.of ("error during deployment: " ++ cause)))
    | .ok (.running _) => do
      askTool (.wait s.settings.pollInterval)
      s.await name n

/-- Deploy a template, and wait for its end; the subscription it went to. Why a submission failed is
told by the deployment's status. -/
def deploy (s : Session) (name template : String) : ToolWork (Except Cause String) := do
  let _ ← s.submit name template
  s.await name s.looks

/-! ## Sessions -/

/-- Open a session. -/
def start (settings : Settings) : ToolWork (Except Cause Session) := do
  match ← askTool .makeHome with
  | .error e =>
    pure (.error (e.within "failed to create temporary home directory for az cli"))
  | .ok home => pure (.ok ⟨home, settings⟩)

/-- End a session. -/
def close (s : Session) : ToolWork Unit := askTool (.removeHome s.home)

/-- Carry out a command in a session. -/
def carryOut (s : Session) : (c : Call) → ToolWork (Except Cause c.Result)
  | .openSession => pure (.ok ())
  | .login l => s.login l
  | .deploy name template => s.deploy name template
  | .delete name => s.delete name
  | .logout => s.logout
  | .closeSession => do
    s.close
    pure (.ok ())

end Session

end CloudGrant.Azure
