import Launchpad.Session.Nodes
import Launchpad.Value.Pretty

/-!
Nodes that run as child processes: how they are started, watched, and asked to end. What a child
writes is logged line by line, or as a bundle of the lines that came together.
-/

namespace Launchpad.Launch

def newProcessNode (args : Bound) (ns : Value) : Launch Nat := do
  let get := args.get
  let level ← match get "log_level" with
    | .int n => lift (Log.labelOf (.int n))
    | .bool b => lift (Log.labelOf (.bool b))
    | v => pure v
  let p : ProcessNode :=
    { env := orElse (get "env") (.map []), isolateEnv := get "isolate_env",
      cmdArgs := orElse (get "cmd_args") (.list []), logLevel := level,
      useShell := get "use_shell", maxRespawns := get "max_respawns",
      respawnDelay := get "respawn_delay", onExit := get "on_exit", raw := get "raw" }
  newNode (get "package") (get "executable") (get "name") ns (get "remaps") (get "params")
    (get "output") (.process p)

def getProcess (i : Nat) : Launch ProcessNode := do
  match (← getNode i).kind with
  | .process p => return p
  | _ => silent .noAttribute

def modifyProcess (i : Nat) (f : ProcessNode → ProcessNode) : Launch Unit :=
  modifyNode i fun n => match n.kind with
    | .process p => { n with kind := .process (f p) }
    | _ => n

def traceText (f : Fault) : String :=
  let text := match f.cause with
    | .invalidValue => "ValueError: " ++ f.text
    | c => "\n".intercalate (c.label :: (Text.splitAt f.text '\n').drop 1)
  "TRACEBACK " ++ text ++ "\n"

def paramArgs (es : Entries) : Try (List Value) := do
  let parts ← es.mapM fun (k, v) => do
    let text ← v.assignment
    return [.str "-p", .str (k.display Value.plainRef ++ ":=" ++ text)]
  return parts.flatten

def remapArgs (es : Entries) : List Value :=
  es.flatMap fun (k, v) =>
    [.str "-r", .str (k.display Value.plainRef ++ ":=" ++ v.display Value.plainRef)]

def ownArgs (p : ProcessNode) : Launch (List Value) :=
  if p.cmdArgs.truthy then match p.cmdArgs.elements? with
    | some xs => pure xs
    | none => silent .wrongType
  else pure []

def commandLine (i : Nat) : Launch (List Value) := do
  let n ← getNode i
  let p ← getProcess i
  let place := "lib/**/" ++ (← display n.package) ++ "/"
  let cmd ← find n.package n.executable (.str place)
  let own ← ownArgs p
  if p.raw.truthy then return cmd :: own
  let params ← lift (paramArgs (← flatParams i))
  let remaps := remapArgs (← graphArgs i)
  let level := match p.logLevel with
    | .null => []
    | v => [.str "--log-level", v]
  return cmd :: own ++ [.str "--ros-args"] ++ params ++ remaps ++ level

/-- The environment of a child: its own variables, on top of those of this process unless it is
isolated; also whether all of these are there, and the variables that differ. -/
def childEnv (p : ProcessNode) : Launch (Bool × Entries) := do
  let parent := (← get).world.env
  let inherited : Entries := parent.map fun (k, v) => (.str k, .str v)
  let own ← match p.env with
    | .map es => pure es
    | _ => silent .noAttribute
  let env := if p.isolateEnv.truthy then own else Entries.update inherited own
  let all := parent.all fun (k, _) => (Entries.getText? env k).isSome
  let differing := env.filter fun (k, v) => match Entries.get? inherited k with
    | some w => !(v == w)
    | none => !(v matches .null)
  return (all, differing)

def addTask (t : Task) : Launch Unit :=
  modify fun s => { s with tasks := s.tasks ++ [t] }

/-- What a child of a node is started with: its command line, whether it goes through a shell, and
its environment as it is told of. -/
def childSetup (i : Nat) (p : ProcessNode) (logger : String) :
    Launch (List String × Report × Bool × List (String × Report)) := do
  let cmd ← commandLine i
  unless p.isolateEnv.truthy || p.env matches .map _ do silent .wrongType
  let argv := cmd.map fun v => v.display Value.plainRef
  info logger ("Starting process '" ++ " ".intercalate argv ++ "'\n-> env =" ++ p.env.pretty)
  let (inherits, differing) ← childEnv p
  let s ← get
  let env := differing.map fun (k, v) => (k.display Value.plainRef, s.plainReport v)
  return (argv, s.report p.useShell, inherits, env)

def launchChild (i : Nat) (logger : String) : Launch Unit := do
  let (argv, shell, env) ← childSetup i (← getProcess i) logger
  let c ← spawn argv (.spawned (argv.map .str) shell (some env))
  modifyProcess i fun p => { p with child := some c }
  addTask (.watchChild i c)

def startProcess (i : Nat) : Launch Unit := do
  let logger := (← getNode i).logger
  if ← isShutdown then
    warn logger s!"Node {← nodeText i} will not be started as the launcher has already shut down"
    return
  if (← isRunning i).truthy then
    warn logger s!"Node {← nodeText i} is already started"
    return
  catchFault (launchChild i logger)
    fun f => error logger ("An exception occurred while executing process:\n" ++ traceText f)

def completeLines (t : String) : List String × String :=
  match (Text.splitAt t '\n').reverse with
  | [] => ([], "")
  | last :: before => (before.reverse.map (· ++ "\n"), last)

def collectBundled (logger buffer chunk : String) : Launch String := do
  let (ls, rest) := completeLines (buffer ++ chunk)
  let bundle := "\n".intercalate (ls.map (Text.trimBy (· == '\n')))
  if bundle != "" then info logger bundle
  return rest

def collectLines (logger buffer chunk : String) : Launch String := do
  let (ls, rest) := completeLines (buffer ++ chunk)
  ls.forM fun l => info logger l
  return rest

def collect (gather : Bool) (logger buffer chunk : String) : Launch String :=
  if gather then collectBundled logger buffer chunk else collectLines logger buffer chunk

def readPipe (child : Nat) (err : Bool) : Launch (Option String) := do
  let c ← getChild child
  let p := if err then c.stderr else c.stdout
  let left : Pipe := if p.failing then { p with failing := false } else {}
  modifyChild child fun c => if err then { c with stderr := left } else { c with stdout := left }
  return if p.failing then none else some p.text

def readEach (gather : Bool) (logger : String) (child : Nat) :
    List Bool → String × String → Launch (String × String)
  | [], bufs => return bufs
  | err :: rest, bufs => do
    match ← readPipe child err with
    | none =>
      error logger "Failed to read process pipe, this should not happen"
      return bufs
    | some t =>
      let bufs ← if err then do pure (bufs.1, ← collect gather logger bufs.2 t)
        else do pure (← collect gather logger bufs.1 t, bufs.2)
      readEach gather logger child rest bufs

def readPipes (gather : Bool) (logger : String) (child : Nat) (bufs : String × String) :
    Launch (Option (String × String)) := do
  let c ← getChild child
  let ready := c.ready.filter fun err => (if err then c.stderr else c.stdout).text != ""
  modifyChild child fun c => { c with ready }
  if ready.isEmpty then return none
  return some (← readEach gather logger child ready bufs)

def followChild (gather : Bool) (logger : String) (child : Nat) :
    Nat → String × String → Launch Unit
  | 0, _ => throw (Stop.bare .endless)
  | fuel + 1, bufs => do
    if (← pollChild child).isSome then return
    match ← readPipes gather logger child bufs with
    | none => pure ()
    | some bufs => followChild gather logger child fuel bufs

def lessThan (a b : Value) : Launch Bool :=
  lift (Value.less false a b)

def escalateLater (i : Nat) : Launch Unit := do
  if (← isRunning i).truthy then addTask (.escalate i)

def mayRespawn (p : ProcessNode) : Launch Bool := do
  if ← lessThan p.maxRespawns (.int 0) then return true
  lessThan (.int p.retries) p.maxRespawns

def respawn (i : Nat) (delay : Value) : Launch Unit := do
  let n ← getNode i
  info n.logger s!"Restarting {n.name} after unexpected shutdown"
  modifyProcess i fun p => { p with retries := p.retries + 1 }
  if ← lessThan (.int 0) delay then sleep (← seconds delay)
  startProcess i

def callOnExit (i : Nat) : Launch Unit := do
  let p ← getProcess i
  if p.onExit.truthy then
    let _ ← callValue p.onExit []

def decideRestart (i : Nat) : Launch Unit := do
  let p ← getProcess i
  let again ← if ← isShutdown then pure false else mayRespawn p
  if again then respawn i p.respawnDelay else escalateLater i

def afterExit (i : Nat) : Launch Unit := do
  callOnExit i
  decideRestart i

def reportEnd (logger : String) (child : Nat) : Launch Unit := do
  let code := ((← waitChild child .null).getD 0)
  if code == 0 then warn logger "Process has finished cleanly"
  else critical logger s!"Process has died with exit code {code}"

def watchChild (i child : Nat) (gather : Bool) : Launch Unit := do
  let logger := (← getNode i).logger
  always (do
    let c ← getChild child
    followChild gather logger child (2 * c.pending.length + 8) ("", "")
    reportEnd logger child)
    (afterExit i)

def actualSignal (n : Node) (num : Int) (name : String) : Launch (Int × String) := do
  if (← get).world.platform == "Windows" && num == interruptSignal then
    warn n.logger (s!"'SIGINT' sent to process[{n.name}] not supported on Windows, " ++
      "escalating to 'SIGTERM'")
    return (Script.termSignal, "SIGTERM")
  return (num, name)

def deliverSignal (n : Node) (child : Nat) (num : Int) (name : String) : Launch Unit := do
  info n.logger s!"Sending signal '{name}' to process [{n.name}]"
  catchFault (signalChild child num) fun f =>
    if f.cause == .processGone then
      info n.logger s!"'{name}' not sent to '{n.name}' because it has closed already"
    else throw (.fault f)

def signalProcess (i : Nat) (signal : Value) : Launch Unit := do
  let p ← getProcess i
  match p.child with
  | none => pure ()
  | some c =>
    if (← pollChild c).isSome then return
    let (num, name) ← signalOf signal
    let n ← getNode i
    if !(← isRunning i).truthy then
      info n.logger s!"'{name}' not set to '{n.name}' because it is already closing"
      return
    let (num, name) ← actualSignal n num name
    deliverSignal n c num name

def awaitChild (i : Nat) (timeout : Value) : Launch Unit := do
  if timeout == .int 0 then return
  match (← getProcess i).child with
  | none => silent .noAttribute
  | some c =>
    match ← waitChild c timeout with
    | some _ => pure ()
    | none => told .timedOut "Node did not shutdown within the specified timeout"

/-- Asks a node to end, and tells so in its log. -/
def askNode (i : Nat) (text : String) (reason signal : Value) (send : Int → Launch Unit) :
    Launch Unit := do
  let (num, name) ← signalOf signal
  let n ← getNode i
  warn n.logger s!"{text}: {← display reason} ({name})"
  send num

/-- A node is asked to end if it runs, and then waited for. -/
def askThenWait (i : Nat) (ask wait : Launch Unit) : Launch Unit := do
  if !(← isRunning i).truthy then return
  ask
  wait

def askProcess (i : Nat) (reason signal : Value) : Launch Unit :=
  askNode i "Received shutdown request" reason signal fun _ => signalProcess i signal

def shutdownProcess (i : Nat) (reason signal timeout : Value) : Launch Unit :=
  askThenWait i (askProcess i reason signal) (awaitChild i timeout)

def joinProcess (i : Nat) (timeout : Value) : Launch Unit := do
  match (← getProcess i).child with
  | none => pure ()
  | some c =>
    match ← waitChild c timeout with
    | some _ => pure ()
    | none => throw (Stop.bare .timedOut)

def signalLater (i : Nat) (signal : Int) : Launch Unit := do
  advance 3000
  signalProcess i (.int signal)

def escalate (i : Nat) : Launch Unit :=
  catchFault (do
    signalLater i Script.termSignal
    signalLater i killSignal) fun _ => pure ()

end Launchpad.Launch
