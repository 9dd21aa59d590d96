import Launchpad.Session.Process

/-!
Foreign nodes: processes that were not started by the launcher and whose command lines tell that
they are nodes.
-/

namespace Launchpad.Launch

def getEntry (pid : Int) : Launch Script.ProcessEntry := do
  match (← get).world.processes.find? fun p => p.pid == pid with
  | some p => return p
  | none => silent .noAttribute

def commandOf (p : Script.ProcessEntry) : Launch (List String) := do
  if p.zombie then throw (Stop.bare .zombieProcess)
  if p.denied then throw (Stop.bare .accessDenied)
  return p.cmdline

def commandUnlessZombie (p : Script.ProcessEntry) : Launch (Option (List String)) :=
  catchFault (do return some (← commandOf p)) fun f =>
    if f.cause == .zombieProcess then return none else throw (.fault f)

def nodeMarks : List String := ["--ros-args", "__ns:=", "__node:=", "__name:="]

def nodeProcesses : Launch (List Int) := do
  (← get).world.processes.filterMapM fun p => do
    match ← commandUnlessZombie p with
    | some cmd =>
      return if p.running && nodeMarks.any cmd.contains then some p.pid else none
    | none => return none

/-- Does a command line name a node by its namespace and its name? An argument is looked at for
the name only if it is not one for the namespace. -/
def namesNode (ns name : Pattern.Regex) : List String → Bool → Bool → Bool
  | [], _, _ => false
  | arg :: args, hasNs, hasName =>
    let isNs := (Pattern.matchAt ns arg).isSome
    let isName := !isNs && (Pattern.matchAt name arg).isSome
    let hasNs := hasNs || isNs
    let hasName := hasName || isName
    (hasNs && hasName) || namesNode ns name args hasNs hasName

def processesOfNode (ns name : Value) : Launch (List Int) := do
  let nsPattern ← lift (Pattern.compile ("__ns:=" ++ ns.display Value.plainRef))
  let namePattern ← lift (Pattern.compile ("__node:=" ++ name.display Value.plainRef))
  (← get).world.processes.filterMapM fun p => do
    match ← commandUnlessZombie p with
    | some cmd =>
      return if namesNode nsPattern.pattern namePattern.pattern cmd false false then some p.pid
        else none
    | none => return none

structure NodeArgs where
  ns : String := ""
  name : String := ""
  params : Entries := []
  remaps : Entries := []
  others : List Value := []

def splitAssignment (arg : Option String) : Launch (String × String) := do
  match arg with
  | none => silent .outOfRange
  | some a => match Text.splitText a ":=" with
    | [k, v] => return (k, v)
    | _ => silent .invalidValue

def readNodeArgs (node : Value) (inMarks : Bool) (acc : NodeArgs) :
    List String → Launch NodeArgs
  | [] => return acc
  | arg :: rest => do
    if arg == "--ros-args" then readNodeArgs node true acc rest
    else if !inMarks then
      readNodeArgs node inMarks { acc with others := acc.others ++ [.str arg] } rest
    else if arg == "-p" || arg == "--param" then
      let (k, v) ← splitAssignment rest.head?
      readNodeArgs node inMarks { acc with params := acc.params.insert (.str k) (.str v) }
        (rest.drop 1)
    else if arg == "-r" || arg == "--remap" then
      let (k, v) ← splitAssignment rest.head?
      if k == "__ns" then readNodeArgs node inMarks { acc with ns := v } (rest.drop 1)
      else if k == "__name" || k == "__node" then
        readNodeArgs node inMarks { acc with name := v } (rest.drop 1)
      else
        match Text.cut? k ":" with
        | some (owner, key) =>
          let mine ← match node with
            | .ref (.node i) => do pure (owner == (← getNode i).name)
            | v => if v.truthy then silent .noAttribute else pure true
          let acc := if mine then { acc with remaps := acc.remaps.insert (.str key) (.str v) }
            else acc
          readNodeArgs node inMarks acc (rest.drop 1)
        | none =>
          readNodeArgs node inMarks { acc with remaps := acc.remaps.insert (.str k) (.str v) }
            (rest.drop 1)
    else if arg == "--params-file" then
      match rest.head? with
      | none => silent .outOfRange
      | some file =>
        let v ← loadParams .null (.str file) .null node
        let params ← lift (Entries.extend acc.params v)
        readNodeArgs node inMarks { acc with params } (rest.drop 1)
    else
      let l ← getLauncher
      warn l.logger "parse_process_args: unhandled ros-arg %s"
      readNodeArgs node inMarks acc rest
termination_by args => args.length
decreasing_by all_goals (simp only [List.length_cons, List.length_drop]; omega)

def parseProcessArgs (pid : Int) (node : Value) : Launch NodeArgs := do
  let cmd ← commandOf (← getEntry pid)
  readNodeArgs node false {} (cmd.drop 1)

def processOf (v : Value) : Launch Int := do
  match v with
  | .ref (.process pid) => return pid
  | _ => silent .noAttribute

def newForeignNode (process package name ns remaps params cmdArgs output : Value) : Launch Nat := do
  let pid ← processOf process
  let cmd ← commandOf (← getEntry pid)
  match cmd with
  | [] => silent .outOfRange
  | exe :: _ =>
    let i ← newNode package (.str exe) name ns remaps params output
      (.foreign { process := .found pid, cmdArgs })
    addTask (.watchForeign i)
    return i

def wrapParsed (pid : Int) (args : NodeArgs) : Launch Nat := do
  let cmd ← commandOf (← getEntry pid)
  let dir ← match cmd with
    | [] => silent .outOfRange
    | exe :: _ => pure (Path.dirName exe)
  let package := ((← packageForPath dir).map (·.1)).getD .null
  if args.ns == "" then warn (← getLauncher).logger "Process did not specify a node namespace"
  if args.name == "" then warn (← getLauncher).logger "Process did not specify a node name"
  newForeignNode (.ref (.process pid)) package (.str args.name) (.str args.ns) (.map args.remaps)
    (.map args.params) (.list args.others) (.str "screen")

def wrapProcess (process : Value) : Launch Nat := do
  let pid ← processOf process
  let args ← parseProcessArgs pid .null
  wrapParsed pid args

def getForeign (i : Nat) : Launch ForeignNode := do
  match (← getNode i).kind with
  | .foreign f => return f
  | _ => silent .noAttribute

def modifyForeign (i : Nat) (f : ForeignNode → ForeignNode) : Launch Unit :=
  modifyNode i fun n => match n.kind with
    | .foreign x => { n with kind := .foreign (f x) }
    | _ => n

def modifyEntry (pid : Int) (f : Script.ProcessEntry → Script.ProcessEntry) : Launch Unit :=
  modifyWorld fun w => { w with
    processes := w.processes.map fun p => if p.pid == pid then f p else p }

def waitEntry (pid : Int) (timeout : Value) : Launch (Option (Option Int)) := do
  let p ← getEntry pid
  if !p.running then return some p.exitGone
  if !(← endsInTime p.lifetime timeout) then return none
  modifyEntry pid fun p => { p with running := false }
  return some p.exit

/-- Waits for the process of a foreign node: its code, or nothing if the time has run out. The code
of a process that has ended before is not known any more. -/
def waitForeign (i : Nat) (timeout : Value) : Launch (Option Value) := do
  let code (c : Option Int) : Value := match c with
    | some n => .int n
    | none => .null
  match (← getForeign i).process with
  | .gone => return some .null
  | .started c =>
    if (← getChild c).code.isSome then return some .null
    return (← waitChild c timeout).map fun n => .int n
  | .found pid => return (← waitEntry pid timeout).map code

def joinForeign (i : Nat) (timeout : Value) : Launch Value := do
  match ← waitForeign i timeout with
  | some v => return v
  | none => throw (Stop.bare .timedOut)

def watchForeign (i : Nat) : Launch Unit := do
  let code ← joinForeign i .null
  let logger := (← getNode i).logger
  match code with
  | .null => warn logger "Process has already finished"
  | .int 0 => warn logger "Process has finished cleanly"
  | v => critical logger s!"Process has died with exit code {← display v}"

def signalEntry (pid signal : Int) : Launch Unit := do
  let p ← getEntry pid
  emit (.signalled signal pid)
  if !p.ignore.contains signal then modifyEntry pid fun p => { p with running := false }

def awaitForeign (i : Nat) (timeout : Value) : Launch Unit := do
  if timeout == .int 0 then return
  match ← waitForeign i timeout with
  | some _ => pure ()
  | none => told .timedOut "Node did not shutdown within the specified timeout"

def signalForeign (i : Nat) (num : Int) : Launch Unit := do
  match (← getForeign i).process with
  | .found pid => signalEntry pid num
  | .started c => signalChild c num
  | .gone => silent .noAttribute

def askForeign (i : Nat) (reason signal : Value) : Launch Unit :=
  askNode i "Forwarding shutdown signal to foreign process" reason signal (signalForeign i)

def shutdownForeign (i : Nat) (reason signal timeout : Value) : Launch Unit :=
  askThenWait i (askForeign i reason signal) (awaitForeign i timeout)

def startForeign (i : Nat) : Launch Unit := do
  let n ← getNode i
  if ← isShutdown then
    warn n.logger s!"Node {← nodeText i} will not be started as the launcher has already shut down"
    return
  if (← isRunning i).truthy then
    warn n.logger s!"Node {← nodeText i} is already started"
    return
  let f ← getForeign i
  let own ← match f.cmdArgs with
    | .list vs => pure vs
    | _ => silent .wrongType
  let params ← lift (paramArgs (← flatParams i))
  let remaps := remapArgs (← graphArgs i)
  let cmd := n.executable :: own ++ [.str "--ros-args"] ++ params ++ remaps
  let argv ← match Substitution.texts? cmd with
    | some ts => pure ts
    | none => silent .wrongType
  info n.logger ("Starting process '" ++ " ".intercalate argv ++ "'")
  let c ← spawn argv (.spawned (argv.map .str) (.bool false) none)
  modifyForeign i fun f => { f with process := .started c }
  addTask (.watchForeign i)

def killForeign (i : Nat) : Launch Unit := do
  match (← getForeign i).process with
  | .found pid =>
    emit (.killed pid)
    modifyEntry pid fun p => { p with running := false }
  | .started c =>
    let child ← getChild c
    emit (.killed child.pid)
    modifyChild c fun c => { c with code := some (-killSignal) }
  | .gone => silent .noAttribute

/-- Waits for a foreign process to run, which is looked at ten times a second; after a while it is
killed. -/
def killLater (i : Nat) (killAfter : Value) (start : Float) : Nat → Launch Unit
  | 0 => throw (Stop.bare .endless)
  | n + 1 => do
    if (← isRunning i).truthy then return
    sleepOn 0.1
    let elapsed := (← now) - start
    if ← lessThan (.int 0) killAfter then
      if ← lessThan killAfter (.float elapsed) then
        killForeign i
        return
    killLater i killAfter start n

def endForeign (i : Nat) (killAfter : Value) : Launch Unit := do
  let start ← now
  shutdownForeign i (.str "Taking over node") (.int Script.termSignal) (.int 0)
  killLater i killAfter start (longestWait / 100 + 2)

def replaceForeign (i : Nat) (named : Named) : Launch Value := do
  let n ← getNode i
  info n.logger "Old process has terminated, restarting node"
  let params ← nodeParams i
  let f ← getForeign i
  let given : Named := [("package", n.package), ("executable", n.executable),
    ("name", .str n.name), ("namespace", .str n.ns), ("remaps", n.remaps), ("params", params),
    ("cmd_args", f.cmdArgs)] ++ named
  let twice := (named.map (·.1)).any fun k => ((given.take 7).lookup k).isSome
  if twice then silent .wrongType
  let args ← match Script.newNodeSignature.bind [] given true with
    | .ok b => pure b
    | .error e => throw (.fault e.fault)
  let node ← newProcessNode args (args.get "namespace")
  match ← findGroup (.str n.ns) true with
  | .ref (.group g) => addNode g node
  | _ => silent .noAttribute
  startProcess node
  modifyForeign i fun f => { f with process := .gone }
  return .ref (.node node)

def takeover (i : Nat) (killAfter : Value) (named : Named) : Launch Value := do
  endForeign i killAfter
  replaceForeign i named

end Launchpad.Launch
