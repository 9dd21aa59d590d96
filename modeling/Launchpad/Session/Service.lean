import Launchpad.Session.Process

/-!
The launch service: a process beside the launcher that is given actions of the other launch
system, and that sends back its log records.
-/

namespace Launchpad.Launch

def newService (name args output : Value) : Launch Nat :=
  newNode (.str "ros2/launch") (.str "launch_service.py") name (.str "/") .null .null output
    (.service { args })

def getService (i : Nat) : Launch ServiceNode := do
  match (← getNode i).kind with
  | .service s => return s
  | _ => silent .noAttribute

def modifyService (i : Nat) (f : ServiceNode → ServiceNode) : Launch Unit :=
  modifyNode i fun n => match n.kind with
    | .service s => { n with kind := .service (f s) }
    | _ => n

def startService (i : Nat) : Launch Unit := do
  let n ← getNode i
  if (← isRunning i).truthy then
    warn n.logger s!"LaunchService {n.name} is alrady running"
    return
  let s ← getService i
  emit (.serviceStarted n.name (← plainReportOf s.args))
  let pid := (← get).world.nextPid
  modifyWorld fun w => { w with nextPid := pid + 1 }
  modifyService i fun s => { s with process := .alive pid }
  addTask (.watchService i)

def receiveRecords (i : Nat) : List (Option Log.Record) → Launch Unit
  | [] => do
    let _ ← isRunning i
  | r :: rs => do
    if (← isRunning i).truthy then
      modifyService i fun s => { s with records := rs }
      let logger := (← getNode i).logger
      match r with
      | none => error logger "Receiving log record failed: broken record"
      | some record =>
        catchFault (do
          let s ← get
          let (sys, lines, r) := s.log.handle logger record
          set { s with log := sys }
          lines.forM writeTo
          lift r) fun f => error logger ("Receiving log record failed: " ++ f.text)
      receiveRecords i rs

def watchService (i : Nat) : Launch Unit := do
  receiveRecords i (← getService i).records
  match (← getService i).process with
  | .none => silent .noAttribute
  | _ => modifyService i fun s => { s with process := .closed }

def endService (i : Nat) (pid : Int) : Launch Unit :=
  modifyService i fun s => { s with process := .ended pid }

def joinServiceProcess (i : Nat) (timeout : Value) : Launch Unit := do
  match (← getService i).process with
  | .none => silent .noAttribute
  | .closed => silent .invalidValue
  | .ended _ => pure ()
  | .alive pid => match timeout with
    | .null => endService i pid
    | v => pause v

def joinService (i : Nat) (timeout : Value) : Launch Unit := do
  match (← getService i).process with
  | .none => pure ()
  | _ => joinServiceProcess i timeout

def closeService (i : Nat) (pid : Int) (signal : Value) : Launch Unit := do
  if signal == .int interruptSignal || signal == .int Script.termSignal then
    emit (.executed ["taskkill", "/PID", toString pid, "/T"])
  else if signal == .int killSignal then
    emit (.executed ["taskkill", "/F", "/T", "/PID", toString pid])
    endService i pid

def signalGroup (i : Nat) (pid num : Int) : Launch Unit := do
  let w := (← get).world
  emit (.groupSignalled num pid)
  if w.serviceLost then throw (Stop.bare .processGone)
  if !w.serviceIgnores.contains num then endService i pid

def signalNumber (v : Value) : Launch Int :=
  match v.number? with
  | some (.whole n) => pure n
  | _ => silent .wrongType

def signalService (i : Nat) (signal : Value) : Launch Unit := do
  if !(← isRunning i).truthy then return
  match (← getService i).process with
  | .alive pid =>
    if (← get).world.platform == "Windows" then closeService i pid signal
    else signalGroup i pid (← signalNumber signal)
  | _ => silent .wrongType

def awaitTermination (i : Nat) : Launch Unit := do
  if (← getService i).terminateRequested then
    if (← isRunning i).truthy then
      catchFault (joinServiceProcess i (.float 0.5)) fun _ => pure ()

/-- Sends the next signal to a launch service: it is interrupted first, then it is told to
terminate, and then it is killed. -/
def requestEnd (i : Nat) (n : Node) (why : String) (kill : Bool) : Launch Unit := do
  let s ← getService i
  if s.terminateRequested || kill then
    warn n.logger (s!"{why} - {n.name} was asked to terminate with SIGKILL. Killing the ROS2 " ++
      "launch service may leave stale processes behind!")
    signalService i (.int killSignal)
  else if s.shutdownRequested then
    modifyService i fun s => { s with terminateRequested := true }
    info n.logger s!"{n.name} is still runing, escalating to SIGTERM ({why})"
    signalService i (.int Script.termSignal)
  else
    modifyService i fun s => { s with shutdownRequested := true }
    info n.logger s!"Asking {n.name} to shutdown gracefully via SIGINT ({why})"
    signalService i (.int interruptSignal)

def shutdownService (i : Nat) (reason signal timeout : Value) : Launch Unit := do
  awaitTermination i
  if !(← isRunning i).truthy then return
  let n ← getNode i
  let why ← display reason
  catchFault (requestEnd i n why (signal == .int killSignal)) fun _ => pure ()
  if timeout == .int 0 then return
  joinServiceProcess i timeout

def queueActions (i : Nat) (actions : List Value) : Launch Unit :=
  modifyService i fun s => { s with loaded := s.loaded ++ [actions] }

def indentText : String := "    "

def entityText (entities : Array Entity) : RefText
  | .entity j => "<" ++ (entities[j]?.map Entity.kind).getD "object" ++ ">"
  | r => Value.plainRef r

def describeEntity (entities : Array Entity) : Nat → Nat → Entity → String
  | 0, _, e => e.kind
  | fuel + 1, depth, e =>
    let props := e.props.filter fun (k, _) => k != "self" && !Text.startsWith k "_"
    let props := props.mergeSort fun a b => !(b.1 < a.1)
    let inner := Text.repeatText indentText (depth + 1)
    let lines := props.map fun (k, v) =>
      let text := match v with
        | .null => "None"
        | .str s => "'" ++ s ++ "'"
        | .ref (.entity j) => match entities[j]? with
          | some d =>
            if Text.startsWith d.module "launch" then describeEntity entities fuel (depth + 1) d
            else "<" ++ d.kind ++ ">"
          | none => "None"
        | v => v.display (entityText entities)
      "\n" ++ inner ++ k ++ " = " ++ text ++ ","
    e.kind ++ "(" ++ String.join lines ++ "\n" ++ Text.repeatText indentText depth ++ ")"

def describeActions (i : Nat) : Launch String := do
  let s ← getService i
  let entities := (← get).entities
  let texts := s.loaded.zipIdx.map fun (actions, k) =>
    let lines := actions.map fun a => match a with
      | .ref (.entity j) => match entities[j]? with
        | some e => "\n  " ++ describeEntity entities (entities.size + 1) 1 e ++ ","
        | none => ""
      | v => "\n  " ++ v.typeName ++ "(\n" ++ indentText ++ "),"
    s!"({k}) LaunchDescription([" ++ String.join lines ++ "\n])"
  return "\n".intercalate texts

def launchService (name args output : Value) (start : Bool) : Launch Nat := do
  let l ← getLauncher
  let i ← match l.service with
    | some i => pure i
    | none => do
      let i ← newService name args output
      modifyLauncher fun l => { l with service := some i }
      pure i
  if start then
    if !(← isRunning i).truthy then startService i
  return i

def launchActions (actions : List Value) : Launch Nat := do
  let i ← launchService (.str "LaunchService") .null (.str "screen") true
  queueActions i actions
  return i

def newEntity (e : Entity) : Launch Value := do
  let s ← get
  set { s with entities := s.entities.push e }
  return .ref (.entity s.entities.size)

def includeForeign (path : String) (args : Entries) : Launch Unit := do
  let source ← newEntity
    { kind := "AnyLaunchDescriptionSource", module := "launch.launch_description_sources",
      props := [("location", .str path)], methods := [] }
  let pairs ← args.mapM fun (k, v) => do
    let text ← match v with
      | .null => pure ""
      | v => display v
    return Value.tuple [k, .str text]
  let action ← newEntity
    { kind := "IncludeLaunchDescription", module := "launch.actions",
      props := [("launch_arguments", .list pairs), ("launch_description_source", source)],
      methods := [] }
  let _ ← launchActions [action]

end Launchpad.Launch
