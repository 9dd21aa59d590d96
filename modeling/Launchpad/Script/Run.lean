import Launchpad.Session.Perform
import Launchpad.Session.Terminal
import Launchpad.Session.Program

/-!
Running scripts: a step changes the session and answers with what came out, what was written to
the screen, and what happened meanwhile. The answers of a script are those of its steps, in order.
-/

namespace Launchpad.Launch

open Script

def newCallback (c : Callback) : Launch Value := do
  let s ← get
  set { s with callbacks := s.callbacks.push c }
  return .ref (.callback s.callbacks.size)

def atPlace (p : Place) : Launch Value := do
  let start ← if p.label == "bl" then pure (.ref .launcher)
    else match (← get).kept.lookup p.label with
      | some v => pure v
      | none => silent .unknownKey
  p.via.foldlM lookUp start

mutual

def evalTerm : Term → Launch Value
  | .value v => pure v
  | .list ts => do return .list (← evalTerms ts)
  | .tuple ts => do return .tuple (← evalTerms ts)
  | .set ts => do return .set (← lift (Expr.members (← evalTerms ts)))
  | .map es => do return .record (← evalFields es)
  | .kept p => atPlace p
  | .process pid => return .ref (.process pid)
  | .callback name result failure => do
    newCallback ⟨name, ← evalTerm result, failure⟩
  | .entity kind module props methods => do
    newEntity { kind, module, props := ← evalFields props, methods }

def evalTerms : List Term → Launch (List Value)
  | [] => return []
  | t :: ts => do
    let v ← evalTerm t
    return v :: (← evalTerms ts)

def evalFields : List (String × Term) → Launch Named
  | [] => return []
  | (k, t) :: es => do
    let v ← evalTerm t
    return (k, v) :: (← evalFields es)

end

def keep (label : Option String) (v : Value) : Launch Unit :=
  match label with
  | none => pure ()
  | some l => modify fun s => { s with kept := (l, v) :: s.kept.filter (·.1 != l) }

def nodeAt (p : Place) : Launch Nat := do
  nodeOf (← atPlace p)

def commonFields (i : Nat) : Launch (List (String × Report)) := do
  let n ← getNode i
  let args ← graphArgs i
  let s ← get
  return [("class", .str n.kindName), ("id", .int n.id), ("name", .str n.name),
    ("namespace", .str n.ns), ("fullname", .str n.fullname), ("package", s.report n.package),
    ("executable", s.report n.executable), ("remaps", s.report n.remaps),
    ("params", s.report n.params), ("ros_args", s.report (.map args))]

def kindFields (i : Nat) : Launch (List (String × Report)) := do
  match (← getNode i).kind with
  | .process p =>
    let pid ← reportOf (← pidOf i)
    let text ← nodeText i
    let s ← get
    return [("cmd_args", s.report p.cmdArgs), ("env", s.report p.env),
      ("log_level", s.report p.logLevel), ("respawns", .int p.retries), ("pid", pid),
      ("repr", .str text)]
  | .foreign f =>
    let pid ← reportOf (← pidOf i)
    return [("cmd_args", ← reportOf f.cmdArgs), ("pid", pid), ("repr", .str (← nodeText i))]
  | .component c =>
    return [("component_id", ← reportOf c.componentId),
      ("loaded", .bool c.isLoaded), ("repr", .str (← nodeText i)),
      ("composer", ← reportOf (nodeValue c.composer))]
  | .composer _ =>
    return [("language", .null), ("components", ← reportOf (nodeValues (← managedComponents i)))]
  | _ => return []

def describe (i : Nat) : Launch Report := do
  let common ← commonFields i
  return .record (common ++ (← kindFields i))

def describeGroups : Launch Report := do
  let l ← getLauncher
  let stack ← l.groupStack.mapM fun g => reportOf (.ref (.group g))
  let all ← (← allGroups).mapM fun i => do
    let g ← getGroup i
    let keys := (g.children.map (·.1)).mergeSort fun a b => !(b < a)
    let names ← g.nodes.mapM fun n => do return Report.str (← getNode n).name
    return Report.list [.str (← namespaceOf i), .str g.ns, .list (keys.map .str), .list names]
  return .record [("stack", .list stack), ("all", .list all)]

def leaveContext : Launch Unit := do
  match (← get).contexts with
  | [] => silent .outOfRange
  | c :: cs =>
    modify fun s => { s with contexts := cs }
    leave c

def enterContext (c : Context) : Launch Unit :=
  modify fun s => { s with contexts := c :: s.contexts }

def replaceNamed {α : Type} (old new : List (String × α)) : List (String × α) :=
  new.foldl (fun acc (k, v) => Log.setAssoc k v acc) old

def endProcess (v : Value) (code : Int) : Launch Unit := do
  let i ← nodeOf v
  match (← getNode i).kind with
  | .process p => match p.child with
    | some c => endChild c code
    | none => silent .noAttribute
  | .foreign f => match f.process with
    | .found pid => modifyEntry pid fun p => { p with running := false, exitGone := some code }
    | .started c => endChild c code
    | .gone => silent .noAttribute
  | _ => silent .noAttribute

def modifyGraph (f : Graph → Graph) : Launch Unit :=
  modifyWorld fun w => { w with graph := f w.graph }

def setVariables (env : TextPairs) (vars : List (String × Option String)) : TextPairs :=
  vars.foldl (fun env (k, v) => match v with
    | some v => Log.setAssoc k v env
    | none => env.filter (·.1 != k)) env

def change : Change → Launch Unit
  | .addNodes es => modifyGraph fun g => { g with nodes := g.nodes ++ es }
  | .addTopics es => modifyGraph fun g => { g with topics := g.topics ++ es }
  | .addServices es => modifyGraph fun g => { g with services := g.services ++ es }
  | .removeNodes ns => modifyGraph fun g =>
    { g with nodes := g.nodes.filter fun e => !ns.contains e.name }
  | .removeTopics ns => modifyGraph fun g =>
    { g with topics := g.topics.filter fun e => !ns.contains e.name }
  | .removeServices ns => modifyGraph fun g =>
    { g with services := g.services.filter fun e => !ns.contains e.name }
  | .responses rs => modifyWorld fun w => { w with responses := replaceNamed w.responses rs }
  | .ended p code => do endProcess (← atPlace p) code
  | .advance ms => advance ms
  | .env vars => modifyWorld fun w => { w with env := setVariables w.env vars }
  | .scripts ps => modifyWorld fun w => { w with scripts := ps }
  | .processes ps => modifyWorld fun w => { w with processes := ps }
  | .serviceIgnores ss => modifyWorld fun w => { w with serviceIgnores := ss }
  | .serviceLost b => modifyWorld fun w => { w with serviceLost := b }
  | .serviceForeign b => modifyWorld fun w => { w with serviceForeign := b }
  | .graphError b => modifyGraph fun g => { g with failing := b }
  | .adapterError t => modifyWorld fun w => { w with adapterError := t }
  | .platform n => modifyWorld fun w => { w with platform := n }
  | .commands cs => modifyWorld fun w => { w with commands := cs }
  | .which ps => modifyWorld fun w => { w with programs := ps }
  | .packages ps => modifyWorld fun w => { w with packages := ps }

def receiveSignal (signal : Int) : Launch Unit := do
  if !(← get).programSignals then return
  if signal == interruptSignal then
    modify fun s => { s with interrupts := s.interrupts + 1 }
    if (← get).interrupts == 1 then return
  if (← get).launcher.isNone then begin .null .null (.str "/")
  if signal == interruptSignal then onInterrupt else onTerminate

def sentRecord (r : SentRecord) : Launch Log.Record := do
  let created ← now
  lift (Log.Record.ofValues r.name r.level r.msg (.tuple []) created (Log.millisOf created))

def assignPart (p : ProcessNode) (field : String) (v : Value) : ProcessNode :=
  match field with
  | "env" => { p with env := v }
  | "isolate_env" => { p with isolateEnv := v }
  | "cmd_args" => { p with cmdArgs := v }
  | "node_log_level" => { p with logLevel := v }
  | "use_shell" => { p with useShell := v }
  | "max_respawns" => { p with maxRespawns := v }
  | "respawn_delay" => { p with respawnDelay := v }
  | "raw" => { p with raw := v }
  | _ => p

/-- What a thing only tells of and does not take. -/
def fixedFields : List String :=
  ["node_id", "package", "executable", "name", "namespace", "fullname", "params", "remaps",
    "is_running", "lifecycle", "pid", "launchfile", "launch_args", "ros_adapter", "shared_node",
    "group_root", "group_tip", "is_shutdown", "current_stage", "ros_state"]

/-- Replaces a field of a thing. What it has no use for it takes all the same. -/
def assign (target : Value) (field : String) (v : Value) : Launch Unit := do
  match target with
  | .ref (.group _) => pure ()
  | .ref r =>
    if fixedFields.contains field then silent .noAttribute
    match r, field with
    | .node i, "_params" => modifyNode i fun n => { n with params := v }
    | .node i, "_remaps" => modifyNode i fun n => { n with remaps := v }
    | .node i, "_pkg" => modifyNode i fun n => { n with package := v }
    | .node i, "_exec" => modifyNode i fun n => { n with executable := v }
    | .node i, _ =>
      if (← getNode i).kind matches .foreign _ && field == "cmd_args" then silent .noAttribute
      modifyProcess i fun p => assignPart p field v
    | _, _ => pure ()
  | _ => silent .noAttribute

def act (runBody : RunBody) : Step → Launch Report
  | .call target name args label => do
    let call ← match target with
      | .launcher => pure (callMethod runBody (.ref .launcher))
      | .kept p => do pure (callMethod runBody (← atPlace p))
      | .function owner => pure (callStatic runBody owner)
    let positional ← evalTerms args.positional
    let named ← evalFields args.named
    let v ← call name positional named
    keep label v
    reportOf v
  | .assign p field t => do
    let v ← evalTerm t
    assign (← atPlace p) field v
    return .null
  | .enterGroup args label => do
    let positional ← evalTerms args.positional
    let named ← evalFields args.named
    let b ← bindArgs [req "namespace"] positional named
    let old := (← getLauncher).groupStack
    let g ← enterGroup (b.get "namespace")
    enterContext (.group old)
    keep label (.ref (.group g))
    reportOf (.ref (.group g))
  | .enterCompose args label => do
    let positional ← evalTerms args.positional
    let named ← evalFields args.named
    let i ← compose (← bindArgs composeSignature positional named)
    enterContext .compose
    keep label (nodeValue i)
    reportOf (nodeValue i)
  | .leave _ => do
    leaveContext
    return .bool false
  | .describe p => do describe (← nodeAt p)
  | .listGroups => describeGroups
  | .handler key mode args => do
    let v ← handle key mode (← evalTerms args.positional)
    reportOf v
  | .change cs => do
    cs.forM change
    return .null
  | .threads most skip => do
    modify fun s => { s with tasks := s.tasks.drop skip }
    return .int (← watching (runTasks most 0))
  | .transitionEvent topic state => do return .int (← deliverState topic state)
  | .collect p chunks linewise => do
    let logger := (← getNode (← nodeAt p)).logger
    return .str (← chunks.foldlM (collect (!linewise) logger) "")
  | .watch p gather => do
    let i ← nodeAt p
    match (← getProcess i).child with
    | none => silent .noAttribute
    | some c =>
      watching (watchChild i c gather)
      return .null
  | .pushRecords p records => do
    let i ← nodeAt p
    let rs ← records.mapM fun r => match r with
      | some r => do return some (← sentRecord r)
      | none => return none
    modifyService i fun s => { s with records := s.records ++ rs }
    return .null
  | .raiseSignal signal => do
    receiveSignal signal
    return .null
  | .openTerminal args columns => do
    openTerminal (← evalTerms args.positional) (← evalFields args.named) columns
    describeTerminal true
  | .pressKey name => do describeTerminal (← press name)
  | .typeText text => do
    setSearch text
    describeTerminal true
  | .quit reason => do
    quitTerminal reason
    describeTerminal true
  | .menu name args => do
    performMenu name (← evalTerms args.positional) (← evalFields args.named)

/-- The answer of a step: what it came to, and what it did meanwhile. What was written to the
screen is also written for the script around it. -/
def answerOf (x : Launch Report) : Launch Answer := do
  let before ← get
  set { before with out := "", calls := [], events := [] }
  let outcome ← tryCatch (do return Outcome.ok (← x)) fun e => do
    return (← get).outcome (.error e)
  let after ← get
  let clock := if after.world.clock == before.world.clock then none else some after.world.clock
  set { after with
    out := before.out ++ after.out, calls := before.calls, events := before.events }
  return .mk outcome after.out after.calls after.events clock []

def runSteps : Nat → List Step → Launch (List Answer)
  | 0, _ => silent .recursion
  | depth + 1, steps => steps.mapM fun s => answerOf (act (runSteps depth) s)

def includeDepth : Nat := 200

def runLaunchFile (spec : LaunchSpec) (argv : List String) (mainThread : Bool) (times : Nat) :
    Launch Unit :=
  (List.range times).forM fun _ => runProgram (runSteps includeDepth) spec argv mainThread

def runIncluded (spec : LaunchSpec) (given : Named) : Launch Unit :=
  runOffered (runSteps includeDepth) spec given

/-- What an operation wrote to the screen and did, beside its value. -/
structure Observed (α : Type) where
  value : α
  out : String
  events : List Event

def observe {α : Type} (x : Launch α) : Launch (Observed α) := do
  modify fun s => { s with out := "", events := [] }
  let value ← x
  let s ← get
  return { value, out := s.out, events := s.events }

def Event.lasts : Event → Bool
  | .invalidated | .focused _ | .appLeft => false
  | _ => true

/-- A run of the terminal: the script of the launch function, the states after each key, and the
state at the end. -/
structure TerminalRun where
  body : List Answer
  keys : Observed (List Report)
  final : Observed Report
  shutdown : Bool

def runTerminal (args : Arguments) (body : List Step) (keys : List String) :
    Launch TerminalRun := do
  openTerminal (← evalTerms args.positional) (← evalFields args.named) 80
  let body ← runSteps includeDepth body
  let lasting {α : Type} (o : Observed α) : Observed α :=
    { o with events := o.events.filter Event.lasts }
  let keys ← observe ((keys ++ ["c-c"]).mapM fun k => do
    strike k
    describeTerminal true)
  let final ← observe (do
    strike "enter"
    quitTerminal "launch function exited"
    describeTerminal true)
  let shutdown ← isShutdown
  return { body, keys := lasting keys, final := lasting final, shutdown }

end Launchpad.Launch
