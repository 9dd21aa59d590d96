import Launchpad.Session.InfoSheet

/-!
The launcher: it greets, keeps the groups with their nodes, starts nodes and components where the
script stands, and ends everything again.
-/

namespace Launchpad.Launch

def rocket : List String :=
  ["           *            ,:",
    "    +                 ,' |",
    "               +     /   :",
    "       *          --'   /",
    "+                \\/ /:/",
    "            *     / ://_\\",
    "       +       __/   /",
    "  -            )'-. /",
    "               ./  :\\",
    "        *       /.' '",
    "              '/'",
    "   '          +",
    "           .-\"-",
    "          (    )",
    "       . .-'  '.",
    "      ( (.   )8:",
    "  .' _  / (_  ) '._"]

def hello : Launch Unit := do
  let dir ← logDir
  let level := ((← get).log.leastLevel).display Value.plainRef
  let name := (← lift (Log.labelOf (← get).log.leastLevel)).display Value.plainRef
  write ("\n\x1b[1;20mBetter Launch is starting!\x1b[0m\n" ++
    "Please fasten your seatbelts and secure all baggage underneath your chair.\n\n" ++
    s!"Default log level is \x1b[34;20m{level} ({name})\x1b[0m\n" ++
    s!"All log files can be found at\n\x1b[34;20m{dir}\x1b[0m\n\nTakeoff in 3... 2... 1...\n\n" ++
    "\n".intercalate rocket ++ "\n\n")
  critical (← getLauncher).logger s!"Log files at {dir}"

def launcherName (name : Value) : Launch String := do
  match name, name.truthy, (← get).launchFile with
  | .str s, true, _ => return s
  | _, false, some f => return Path.baseName f
  | _, _, _ => silent .wrongType

def takeLaunchArgs : Value → Launch Unit
  | .null => pure ()
  | v => modify fun s => { s with launchArgs := v }

def rootNamespace : Value → Launch String
  | .null => pure "/"
  | v => textOf v

def begin (name launchArgs root : Value) : Launch Unit := do
  let name ← launcherName name
  useLogger name
  takeLaunchArgs launchArgs
  let root ← rootNamespace root
  let g ← newGroup none ("/" ++ Text.trimBy (· == '/') root)
  let ending ← newPromise
  modify fun s => { s with
    launcher := some { logger := name, rootGroup := g, groupStack := [g], ending } }
  hello

def uniqueName (name : Value) : Launch String := do
  let w := (← get).world
  match name with
  | .str s =>
    modifyWorld fun w => { w with nextUnique := w.nextUnique + 1 }
    return s ++ "_" ++ w.uniqueText w.nextUnique
  | _ => silent .wrongType

/-- The nodes of all groups, each composer followed by its components if they are asked for, and
then the launch service. -/
def ownNodes (components service : Bool) : Launch (List Nat) := do
  let groups ← allGroups
  let nodes ← groups.mapM fun g => do
    let parts ← (← getGroup g).nodes.mapM fun i => do
      match (← getNode i).kind with
      | .composer _ => if components then return i :: (← managedComponents i) else return [i]
      | _ => return [i]
    return parts.flatten
  let l ← getLauncher
  return nodes.flatten ++ if service then l.service.toList else []

def foreignNodes : Launch (List Nat) := do
  let own ← (← ownNodes true false).mapM fun i => do return (← getNode i).fullname
  let found ← (← nodeProcesses).mapM fun pid => wrapProcess (.ref (.process pid))
  found.filterM fun i => do return !own.contains (← getNode i).fullname

def allNodes (components service foreign : Bool) : Launch (List Nat) := do
  let own ← ownNodes components service
  if foreign then return own ++ (← foreignNodes) else return own

def patternOf (v : Value) : Launch Pattern.Regex := do
  match v with
  | .str s => return (← lift (Pattern.compile s)).pattern
  | _ => silent .wrongType

def isNamed (test : String → Bool) (i : Nat) : Launch Bool := do
  return test (← getNode i).fullname

def findNamed (whole : String → Bool) (components service foreign : Bool) :
    Launch (Option Nat) := do
  (← allNodes components service foreign).findM? (isNamed whole)

def listNamed (begins : String → Bool) (components service foreign : Bool) :
    Launch (List Nat) := do
  (← allNodes components service foreign).filterM (isNamed begins)

def queryNode (pattern : Value) (components service foreign : Bool) : Launch (Option Nat) := do
  let p ← patternOf pattern
  findNamed (fun name => (Pattern.matchWhole p name).isSome) components service foreign

def queryNodes (pattern : Value) (components service foreign : Bool) : Launch (List Nat) := do
  let p ← patternOf pattern
  listNamed (fun name => (Pattern.matchAt p name).isSome) components service foreign

def awaitStage (i : Nat) (connectTime manageTime target : Value) : Launch Unit := do
  match connectTime with
  | .null => pure ()
  | t =>
    if (← isConnected i t).truthy then
      let wanted := match target with
        | .null => false
        | v => v.whole? != some 0
      if wanted then
        match manageTime with
        | .null => pure ()
        | m =>
          if ← isLifecycleNode i m then
            let _ ← transition i target

def chooseName (name : Value) (default : Launch String) (anonymous hidden : Value) :
    Launch Value := do
  let (name, anonymous) ← if name.truthy then pure (name, anonymous.truthy)
    else do pure (.str (← default), true)
  let name ← if anonymous then do pure (.str (← uniqueName name)) else pure name
  if hidden.truthy then
    let s ← textOf name
    return .str (if Text.startsWith s "_" then s else "_" ++ s)
  else return name

def node (args : Bound) : Launch Nat := do
  let l ← getLauncher
  if l.composing.isSome then told .runtime "Cannot add nodes inside a composition node"
  let name ← chooseName (args.get "name") (do
    let package ← display (args.get "package")
    let executable ← display (args.get "executable")
    return s!"{package}_{executable}") (args.get "anonymous") (args.get "hidden")
  let group ← groupTip
  let ns ← namespaceOf group
  let i ← newProcessNode (args.set "name" name) (.str ns)
  addNode group i
  if (args.get "autostart_process").truthy then
    startProcess i
    awaitStage i (args.get "ros_waittime") (args.get "lifecycle_waittime")
      (args.get "lifecycle_target")
  return i

def bindArgs (s : Signature) (positional : List Value) (named : Named) : Launch Bound :=
  match s.bind positional named true with
  | .ok b => pure b
  | .error e => throw (.fault e.fault)

def nodeWith (positional : List Value) (named : Named) : Launch Nat := do
  node (← bindArgs Script.nodeSignature positional named)

def containerExecutable (variant : Value) : Launch String := do
  match variant with
  | .str "normal" => return "component_container"
  | .str "multithreading" => return "component_container_mt"
  | .str "isolated" => return "component_container_isolated"
  | v => told .invalidValue s!"Unknown container mode '{← display v}"

def composerFullname (ns : String) (name : Value) : Launch String := do
  let inner := Text.trimBy (· == '/') ns
  match name with
  | .str s => return "/" ++ inner ++ (if inner == "" then "" else "/") ++ s
  | _ => silent .wrongType

def existingComposer (ns : String) (name : Value) : Launch (Option Nat) := do
  let fullname ← composerFullname ns name
  match ← queryNode (.str fullname) false false false with
  | some i => return some i
  | none =>
    if !(← graphNodeNames).contains fullname then return none
    let logger := (← getLauncher).logger
    match (← processesOfNode (.str ns) name).reverse with
    | [] =>
      error logger "Could not identify process for node %s/%s, creating new composer"
      return none
    | [pid] => return some (← wrapProcess (.ref (.process pid)))
    | pid :: _ =>
      warn logger "Found multiple node processes matching %s/%s, using most recent"
      return some (← wrapProcess (.ref (.process pid)))

def reusedNode (args : Bound) (l : Launcher) (ns : String) (name : Value) :
    Launch (Option Nat) := do
  let anonymous := (args.get "anonymous").truthy || !(args.get "name").truthy
  if !(args.get "reuse_existing").truthy || anonymous then return none
  match ← existingComposer ns name with
  | none => return none
  | some i =>
    if !(← isComposer i (args.get "ros_waittime")) then
      warn l.logger (s!"Reused composer node {(← getNode i).fullname} does not provide the " ++
        "expected services (yet)")
    return some i

def newContainer (args : Bound) (ns : String) (name : Value) : Launch Nat := do
  let package := "rcl" ++ (← display (args.get "language")) ++ "_components"
  let executable ← containerExecutable (args.get "variant")
  let bound ← bindArgs Script.newNodeSignature [.str package, .str executable, name, .str ns]
    [("remaps", args.get "component_remaps"), ("output", args.get "output")]
  newProcessNode bound (.str ns)

def composerAround (args : Bound) (i : Nat) : Launch Nat := do
  match (← getNode i).kind with
  | .composer _ => return i
  | _ => newComposer i (args.get "component_remaps") (args.get "output")

def compose (args : Bound) : Launch Nat := do
  let l ← getLauncher
  if l.composing.isSome then told .runtime "Cannot nest composition nodes"
  let name ← chooseName (args.get "name") (return "composer") (args.get "anonymous")
    (args.get "hidden")
  let group ← groupTip
  let ns ← namespaceOf group
  let base ← match ← reusedNode args l ns name with
    | some i => pure i
    | none => newContainer args ns name
  let composer ← composerAround args base
  addNode group composer
  if (args.get "autostart_process").truthy then
    startComposer composer (args.get "ros_waittime")
  modifyLauncher fun l => { l with composing := some composer }
  return composer

/-- Leaves a context: the groups are those that were on the stack when a group was entered, and no
components go into a composer any more. -/
def leave : Context → Launch Unit
  | .group stack => modifyLauncher fun l => { l with groupStack := stack }
  | .compose => modifyLauncher fun l => { l with composing := none }

def component (args : Bound) : Launch Nat := do
  let l ← getLauncher
  match l.composing with
  | none => told .runtime "Cannot add component outside a compose() node"
  | some composer =>
    let name ← chooseName (args.get "name") (do
      let package ← display (args.get "package")
      let plugin ← textOf (args.get "plugin")
      return package ++ "_" ++ Text.replace plugin "::" "_")
      (args.get "anonymous") (args.get "hidden")
    let ns ← namespaceOf (← groupTip)
    let i ← newComponent (.ref (.node composer)) (args.get "package") (args.get "plugin") name
      (.str ns) (args.get "output") (args.get "remaps") (args.get "params")
    let extra ← match args.get "extra_composer_args" with
      | .map es => pure es
      | _ => pure []
    startComponent i (args.get "use_intra_process_comms") extra
    awaitStage i (args.get "ros_waittime") (args.get "lifecycle_waittime")
      (args.get "lifecycle_target")
    return i

def execute (argv : List String) : Launch (String × Int) := do
  emit (.executed argv)
  match (← get).world.commands.lookup (" ".intercalate argv), argv with
  | some r, _ => return r
  | none, program :: _ => told .fileNotFound program
  | none, [] => silent .outOfRange

def failedCommand (argv : List String) (code : Int) : Fault :=
  let shown := Value.list (argv.map .str)
  let how := if code < 0 then match signalNames.lookup (-code) with
      | some name => s!"died with <Signals.{name}: {-code}>."
      | none => s!"died with unknown signal {-code}."
    else s!"returned non-zero exit status {code}."
  ⟨.commandFailed, "Command '" ++ shown.display Value.plainRef ++ "' " ++ how,
    .args [.int code, shown]⟩

def runCommand (cmd : Value) : Launch Value := do
  let argv ← match cmd with
    | .str s => pure (Text.splitAt s ' ')
    | .list vs | .tuple vs => vs.mapM fun v => match v with
      | .str s => pure s
      | _ => silent .wrongType
    | _ => silent .wrongType
  let (output, code) ← execute argv
  if code != 0 then throw (.fault (failedCommand argv code))
  return .str (Text.trimRightBy (· == '\n') output)

def announceShutdown (l : Launcher) (reason : Value) : Launch Unit := do
  match reason with
  | .null => warn l.logger "Shutdown was called from shutdown, but no reason was given"
  | r => info l.logger s!"Shutdown: {← display r}"

def askToEnd (l : Launcher) (reason signal : Value) (i : Nat) : Launch Unit := do
  let timeout ← defaultTimeout i
  catchFault (shutdownNode i reason signal timeout) fun f => do
    if f.cause == .notImplemented then pure ()
    else
      let name := (← getNode i).name
      error l.logger s!"Node {name} raised an exception during shutdown: {f.text}"

def askServiceToEnd (l : Launcher) (reason signal : Value) : Launch Unit := do
  match (← getLauncher).service with
  | none => pure ()
  | some i =>
    catchFault (shutdownNode i reason signal (.int 0)) fun f =>
      error l.logger s!"ROS2 launch service raised an exception during shutdown: {f.text}"

def addShutdownCallback (callback : Value) : Launch Unit :=
  modifyLauncher fun l => { l with callbacks := l.callbacks ++ [callback] }

def callOnce (call : Value → Launch Unit) (l : Launcher) (cb : Value) : Launch Unit :=
  catchFault (call cb) fun f => warn l.logger s!"Shutdown callback failed: {f.text}"

/-- Calls those that want to know of the end, each of them once. What a callback does is code of its
own, which may come back to the launcher. -/
def tellShutdownBy (call : Value → Launch Unit) (l : Launcher) : Launch Unit := do
  let callbacks := (← getLauncher).callbacks
  modifyLauncher fun l => { l with callbacks := [] }
  callbacks.forM (callOnce call l)

def callPlainly (cb : Value) : Launch Unit := do
  let _ ← callValue cb []

def tellShutdown : Launcher → Launch Unit :=
  tellShutdownBy callPlainly

inductive ShutdownStep where
  | ask (node : Nat)
  | adapter
  | service
  | resolve
  | callbacks
deriving Repr, DecidableEq

def ShutdownStep.takeBy (call : Value → Launch Unit) (l : Launcher) (reason signal : Value) :
    ShutdownStep → Launch Unit
  | .ask i => askToEnd l reason signal i
  | .adapter => catchFault stopAdapter fun f =>
    error l.logger s!"RosAdapter raised an exception during shutdown: {f.text}"
  | .service => askServiceToEnd l reason signal
  | .resolve => settle l.ending { state := .done }
  | .callbacks => tellShutdownBy call l

def ShutdownStep.take : Launcher → Value → Value → ShutdownStep → Launch Unit :=
  takeBy callPlainly

def shutdownSteps (nodes : List Nat) : List ShutdownStep :=
  nodes.map .ask ++ [.adapter, .service, .resolve, .callbacks]

def shutdownBy (call : Value → Launch Unit) (reason signal : Value) : Launch Unit := do
  let l ← getLauncher
  announceShutdown l reason
  let nodes ← allNodes false true false
  (shutdownSteps nodes).forM (ShutdownStep.takeBy call l reason signal)

def shutdownAll : Value → Value → Launch Unit :=
  shutdownBy callPlainly

def onTerminate : Launch Unit := do
  let l ← getLauncher
  if l.terminating then
    critical l.logger "(SIGTERM) received again, terminating process"
    throw (.exit (-1))
  modifyLauncher fun l => { l with terminating := true }
  error l.logger "Using (SIGTERM) can result in orphaned processes!"
  shutdownAll (.str "received (SIGTERM)") (.int Script.termSignal)
  settle l.ending { state := .cancelled }

def onInterrupt : Launch Unit := do
  let l ← getLauncher
  if l.interrupted then
    warn l.logger "Received (SIGINT) again, escalating to sigterm"
    onTerminate
  else
    warn l.logger "Received (SIGINT), forwarding to child processes..."
    modifyLauncher fun l => { l with interrupted := true }
    shutdownAll (.str "user interrupt") (.int interruptSignal)

def spinWith : Nat → Launch Unit
  | 0 => pure ()
  | fuel + 1 => do
    if ← isShutdown then return
    let nodes ← allNodes true true false
    if ← nodes.allM fun i => do return !(← isRunning i).truthy then
      shutdownAll (.str "all nodes have stopped") (.int Script.termSignal)
    else
      nodes.forM fun i => do let _ ← join i .null
      spinWith fuel

def spin (exitWithLast : Bool) : Launch Unit := do
  let _ ← getLauncher
  if exitWithLast then spinWith ((← get).nodes.size + 100)

def runLater (delay callback : Value) (args : List Value) (named : Named) : Launch Value := do
  let p ← newPromise
  addTask (.later p delay callback args named)
  return .ref (.promise p)

def cancelPromise (i : Nat) : Launch Bool := do
  settle i { state := .cancelled }
  return (← getPromise i).state == .cancelled

def awaitPromise (i : Nat) (timeout : Value) : Launch (Except Fault Value) := do
  let p ← getPromise i
  match p.state, p.failure with
  | .pending, _ =>
    match timeout with
    | .null => silent .recursion
    | t =>
      let _ ← seconds t
      silent .timedOut
  | .cancelled, _ => silent .cancelled
  | .failed, some f => return .error f
  | _, _ => return .ok p.value

def promiseResult (i : Nat) (timeout : Value) : Launch Value := do
  match ← awaitPromise i timeout with
  | .ok v => return v
  | .error f => throw (.fault f)

def promiseFailure (i : Nat) (timeout : Value) : Launch Value := do
  match ← awaitPromise i timeout with
  | .ok _ => return .null
  | .error f => return .ref (.other f.cause.label)

def keepPromise (i : Nat) (delay : Value) (x : Launch Value) : Launch Unit := do
  sleep (← seconds delay)
  if (← getPromise i).state == .cancelled then return
  if ← isShutdown then
    settle i { state := .cancelled }
    return
  catchFault (do
    let v ← x
    settle i { state := .done, value := v })
    fun f => settle i { state := .failed, failure := some f }

def saveWorldNow (path : Value) : Launch Value := do
  let i ← nodeWith []
    [("package", .str "better_launch"), ("executable", .str "generate_gz_world"),
      ("params", .map [(.str "output_path", path)])]
  return .ref (.node i)

def runTask : Task → Launch Unit
  | .watchChild i c => watchChild i c true
  | .watchForeign i => watchForeign i
  | .escalate i => escalate i
  | .later p delay callback args named => keepPromise p delay (do
    unless named.isEmpty do silent .wrongType
    callValue callback args)
  | .saveWorld p delay path => keepPromise p delay (do
    let _ ← saveWorldNow path
    return .null)
  | .watchService i => watchService i

/-- Runs waiting threads one after the other, also those that start meanwhile, at most so many;
says how many ran. -/
def runTasks : Nat → Nat → Launch Nat
  | 0, done => return done
  | most + 1, done => do
    match (← get).tasks with
    | [] => return done
    | t :: ts =>
      modify fun s => { s with tasks := ts }
      runTask t
      runTasks most (done + 1)

def watching {α : Type} (x : Launch α) : Launch α := do
  modify fun s => { s with watching := true }
  always x (modify fun s => { s with watching := false })

end Launchpad.Launch
