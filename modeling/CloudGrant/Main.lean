import CloudGrant.Worker.Channel

/-!
# The command line of the worker

The worker reads its options and then serves its host over standard input and output, one JSON value
to a line: each request is answered, and the message that it queued is carried out before the next
request is read. The end of the input ends the worker.
-/

namespace CloudGrant.Worker

/-! ## Lines -/

/-- Write a value to the host. -/
def say (v : Json.Value) : IO Unit := do
  let output ← IO.getStdout
  output.putStrLn v.toText
  output.flush

/-- The next value from the host, `none` at the end of the input. -/
def hear : IO (Option Json.Value) := do
  let line ← (← IO.getStdin).getLine
  if line.isEmpty then pure none
  else
    match Json.Value.parse line.toUTF8.toList with
    | .ok v => pure (some v)
    | .error _ => pure (some .null)

/-- Ask the host, and wait for its answer. -/
def consult (q : Channel.Question) : IO q.Reply := do
  say (Channel.ask q none)
  let line ← hear
  pure (Channel.reply ((line.bind Channel.answer?).getD .null) q)

/-- Ask the host, with a time by which it has to answer. -/
def consultBefore (limit : Nat) (q : Channel.Question) : IO (Option q.Reply) := do
  say (Channel.ask q (some (limit - (← IO.monoMsNow))))
  match (← hear).bind Channel.answer? with
  | none => pure none
  | some v => pure (if (← IO.monoMsNow) ≤ limit then some (Channel.reply v q) else none)

/-- Meet a demand of a task. -/
def meet : (q : Timed Gateway.Demand) → IO (Gateway.outside.timed.Reply q)
  | .now => IO.monoMsNow
  | .untimed d => consult (.demand d)
  | .before limit d => consultBefore limit (.demand d)

/-! ## Work -/

/-- Put the template in its place. -/
def placeTemplate (o : Options) : IO (Option String) := do
  let paths := templatePlace :: (match o.template with
    | some (.file path) => [path]
    | _ => [])
  let load (f : Files) (path : String) : IO Files := do
    let entry ← consult (.look path)
    pure ((entry.map (f.put path)).getD f)
  let files ← paths.foldlM load (Files.empty.put "/tmp" .directory)
  let (template, files) ← (prepareTemplate o files).perform fun e => consult (.demand (.network e))
  match template, files.read templatePlace with
  | some _, .ok content => consult (.write templatePlace content)
  | _, _ => pure ()
  pure template

/-- Carry out the messages that wait. -/
def work (w : Worker) : (count : Nat) → Queue → IO Queue
  | 0, q => pure q
  | count + 1, q =>
    match q.start? with
    | none => pure q
    | some (message, q) => do
      let ((outcome, _), _) ← (w.task message).perform meet
      say (Channel.finished outcome)
      work w count (q.finish (q.started.length - 1))

/-- Serve the host until it has no more requests. -/
partial def serve (w : Worker) (q : Queue) : IO Unit := do
  match ← hear with
  | none => pure ()
  | some line => do
    let (answer, q) := Intake.serve q (Channel.visit line)
    say (Channel.answered answer)
    serve w (← work w q.waiting.length q)

/-- Run the worker with its options; its exit status. -/
def run (o : Options) : IO UInt32 := do
  let template ← placeTemplate o
  if ← consult (.listen o.listen) then
    serve (ofOptions o template) (Queue.new o.queueCapacity)
    pure 0
  else
    IO.eprintln ("Error: Failed to bind " ++ o.listen)
    pure 1

/-- Say why the worker does not start; its exit status. -/
def leave (e : Exit) : IO UInt32 := do
  match e with
  | .help => IO.print Options.help
  | .version => IO.println (Intake.serviceName ++ " " ++ Intake.version)
  | .usage reason => IO.eprintln ("error: " ++ reason)
  pure (UInt32.ofNat e.status)

/-- The value of a setting's variable in the environment. -/
def variableOf (s : Setting) : IO (String × Option String) := do
  pure (s.info.variableName, ← IO.getEnv s.info.variableName)

end CloudGrant.Worker

open CloudGrant in
/-- Read the options and run the worker. -/
def main (arguments : List String) : IO UInt32 := do
  let environment ← Worker.Setting.all.mapM Worker.variableOf
  match Worker.Options.read arguments fun name => (environment.lookup name).join with
  | .error e => Worker.leave e
  | .ok options => Worker.run options
