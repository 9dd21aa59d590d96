import Launchpad.LaunchFile.Spec
import Launchpad.Files.Glob
import Launchpad.Files.Missing
import Launchpad.Log.Registry
import Launchpad.Lifecycle.Path
import Launchpad.Gazebo.Bridge
import Launchpad.Report
import Launchpad.Terminal
import Launchpad.Unique

/-!
The state of a session: the world around the launcher as far as it can be observed, and what the
launcher itself keeps.
-/

namespace Launchpad

open Script (GraphEntry Response ChildScript ProcessEntry)

/-- A pipe from a child process: text that was written and not yet read, and whether the next read
fails. -/
structure Pipe where
  text : String := ""
  failing : Bool := false

/-- A child process that was started. The pipes that may hold something are listed in the order in
which they got it, the one for errors as `true`; a pipe that was read stays in its place until the
pipes are looked at again. -/
structure Child where
  pid : Int
  script : ChildScript
  code : Option Int := none
  polled : Nat := 0
  pending : List (Bool × Bool × String) := []
  stdout : Pipe := {}
  stderr : Pipe := {}
  ready : List Bool := []
deriving Inhabited

structure NodeEndpoints where
  publishers : List (String × List String) := []
  subscribers : List (String × List String) := []
  services : List (String × List String) := []

structure Graph where
  nodes : List GraphEntry := []
  topics : List GraphEntry := []
  services : List GraphEntry := []
  failing : Bool := false
  byNode : List (String × NodeEndpoints) := []

structure World where
  clock : Int := 0
  env : TextPairs := []
  files : FileTree Content := {}
  cwd : String := "/"
  packages : TextPairs := []
  graph : Graph := {}
  responses : List (String × List Response) := []
  scripts : List (String × ChildScript) := []
  children : Array Child := #[]
  processes : List ProcessEntry := []
  commands : List (String × String × Int) := []
  programs : TextPairs := []
  platform : String := "Linux"
  adapterError : Option String := none
  serviceIgnores : List Int := []
  serviceLost : Bool := false
  serviceForeign : Bool := false
  nextPid : Int := 1000
  nextUnique : Nat := 1
  uniqueText : Nat → String := Unique.suffix

structure Group where
  parent : Option Nat
  ns : String
  children : List (String × Nat) := []
  nodes : List Nat := []
deriving Repr, Inhabited, DecidableEq

/-- What is known of a managed node: its stage, unless its state has none, and its state. -/
structure LifecycleState where
  stage : Option Stage := some .pristine
  state : Int := Lifecycle.unconfigured
deriving Repr, DecidableEq

structure ProcessNode where
  env : Value
  isolateEnv : Value
  cmdArgs : Value
  logLevel : Value
  useShell : Value
  maxRespawns : Value
  respawnDelay : Value
  onExit : Value
  raw : Value
  retries : Nat := 0
  child : Option Nat := none

/-- What runs a foreign node: a process that was there, or one started again. -/
inductive ForeignProcess where
  | found (pid : Int)
  | started (child : Nat)
  | gone
deriving Repr, Inhabited, DecidableEq

structure ForeignNode where
  process : ForeignProcess
  cmdArgs : Value
deriving Inhabited

structure ComponentNode where
  composer : Nat
  componentId : Value := .null
  terminated : Bool := true

namespace ComponentNode

def isLoaded (n : ComponentNode) : Bool :=
  !(n.componentId matches .null)

def assigned (v : Value) (n : ComponentNode) : ComponentNode :=
  { n with componentId := v, terminated := false }

def released (n : ComponentNode) : ComponentNode :=
  { n with componentId := .null, terminated := true }

def unnumbered (n : ComponentNode) : ComponentNode :=
  { n with componentId := .null }

end ComponentNode

structure ComposerNode where
  wrapped : Nat
  remaps : Value
  components : List (Value × Nat) := []

inductive ServiceProcess where
  | none
  | alive (pid : Int)
  | ended (pid : Int)
  | closed
deriving Repr, DecidableEq

structure ServiceNode where
  args : Value
  process : ServiceProcess := .none
  loaded : List (List Value) := []
  records : List (Option Log.Record) := []
  shutdownRequested : Bool := false
  terminateRequested : Bool := false

inductive NodeKind where
  | bare
  | process (p : ProcessNode)
  | foreign (f : ForeignNode)
  | component (c : ComponentNode)
  | composer (c : ComposerNode)
  | service (s : ServiceNode)
deriving Inhabited

structure Node where
  id : Nat
  package : Value
  executable : Value
  name : String
  ns : String
  remaps : Value
  params : Value
  logger : String
  lifecycle : Option LifecycleState := none
  liveParamsReady : Bool := false
  kind : NodeKind
deriving Inhabited

def Node.fullname (n : Node) : String :=
  let ns := Text.trimBy (· == '/') n.ns
  if ns == "" then "/" ++ n.name else "/" ++ ns ++ "/" ++ n.name

def Node.kindName (n : Node) : String :=
  match n.kind with
  | .bare => "AbstractNode"
  | .process _ => "Node"
  | .foreign _ => "ForeignNode"
  | .component _ => "Component"
  | .composer _ => "Composer"
  | .service _ => "Ros2LaunchWrapper"

structure Callback where
  name : String
  result : Value
  failure : Option String

structure Entity where
  kind : String
  module : String
  props : Named
  methods : List String

structure Promise where
  state : PromiseState := .pending
  value : Value := .null
  failure : Option Fault := none

structure Reply where
  topic : Value
  message : Nat
  ready : Int
  seen : Bool := false
  destroys : Bool := false

structure Message where
  typeName : String
  fields : Named

inductive Subscriber where
  | lifecycle (node : Nat)
  | callback (f : Value)

inductive Task where
  | watchChild (node : Nat) (child : Nat)
  | watchForeign (node : Nat)
  | escalate (node : Nat)
  | later (promise : Nat) (delay : Value) (callback : Value) (args : List Value)
      (named : Named)
  | saveWorld (promise : Nat) (delay : Value) (path : Value)
  | watchService (node : Nat)

inductive Context where
  | group (stack : List Nat)
  | compose

structure Launcher where
  logger : String
  rootGroup : Nat
  groupStack : List Nat
  composing : Option Nat := none
  service : Option Nat := none
  interrupted : Bool := false
  terminating : Bool := false
  ending : Nat
  callbacks : List Value := []
  adapterRunning : Bool := false
deriving Inhabited

structure Session where
  world : World := {}
  log : Log.Registry := {}
  launchFile : Option String := none
  launchArgs : Value := .map []
  launcher : Option Launcher := none
  groups : Array Group := #[]
  nodes : Array Node := #[]
  nodeCounter : Nat := 0
  callbacks : Array Callback := #[]
  entities : Array Entity := #[]
  promises : Array Promise := #[]
  replies : Array Reply := #[]
  messages : Array Message := #[]
  bridges : Array Gazebo.Bridge := #[]
  topics : Array Value := #[]
  subscribers : List (Value × Subscriber) := []
  tasks : List Task := []
  watching : Bool := false
  contexts : List Context := []
  kept : Named := []
  simExecutable : Option String := none
  simWorld : Option String := none
  interrupts : Nat := 0
  programSignals : Bool := false
  announced : Bool := false
  terminal : Option Terminal := none
  out : String := ""
  err : String := ""
  calls : List GraphCall := []
  events : List Event := []
deriving Inhabited

abbrev Launch := EStateM Stop Session

namespace Launch

def told {α : Type} (c : Cause) (s : String) : Launch α :=
  throw (Stop.told c s)

def silent {α : Type} (c : Cause) (s : String := "") : Launch α :=
  throw (Stop.silent c s)

def lift {α : Type} (r : Try α) : Launch α :=
  match r with
  | .ok a => pure a
  | .error e => throw e

def modifyWorld (f : World → World) : Launch Unit :=
  modify fun s => { s with world := f s.world }

def catchFault {α : Type} (x : Launch α) (h : Fault → Launch α) : Launch α :=
  tryCatch x fun e => match e.handled? with
    | some f => h f
    | none => throw e

def always {α : Type} (x : Launch α) (y : Launch Unit) : Launch α := do
  let r ← tryCatch x fun e => do
    y
    throw e
  y
  pure r

def emit (e : Event) : Launch Unit :=
  modify fun s => { s with events := s.events ++ [e] }

def noteCall (c : GraphCall) : Launch Unit :=
  modify fun s => { s with calls := s.calls ++ [c] }

def write (t : String) : Launch Unit :=
  modify fun s => { s with out := s.out ++ t }

def writeTo (t : Log.Target × String) : Launch Unit :=
  match t.1 with
  | .screen => write t.2
  | .file p => modifyWorld fun w =>
    let old := match w.files.read? p with
      | some (.text s) => s
      | _ => ""
    { w with files := w.files.put p (.file (.text (old ++ t.2)) false) }

def timeOf (ms : Int) : Float :=
  Float.ofInt (1000000 + ms) / 1000.0

def now : Launch Float := do
  return timeOf (← get).world.clock

def millis (s : Float) : Launch Int := do
  let ms := s * 1000.0
  if ms.isNaN then silent .invalidValue
  if ms.isInf then silent .overflow
  return Calendar.roundEven ms

def advance (ms : Int) : Launch Unit :=
  modifyWorld fun w => { w with clock := w.clock + ms }

def sleep (s : Float) : Launch Unit := do
  advance (← millis s)

def log (logger : String) (level : Int) (msg : String) (args : List Value := []) : Launch Unit := do
  let s ← get
  let (sys, lines, r) := s.log.log logger (.int level) (.str msg) (timeOf s.world.clock) args
  set { s with log := sys }
  lines.forM writeTo
  lift r

def info (logger msg : String) : Launch Unit := log logger Log.info msg
def warn (logger msg : String) : Launch Unit := log logger Log.warning msg
def error (logger msg : String) : Launch Unit := log logger Log.error msg
def critical (logger msg : String) : Launch Unit := log logger Log.critical msg

def getEnv? (k : String) : Launch (Option String) := do
  return (← get).world.env.lookup k

def getNode (i : Nat) : Launch Node := do
  match (← get).nodes[i]? with
  | some n => pure n
  | none => silent .noAttribute

def modifyNode (i : Nat) (f : Node → Node) : Launch Unit :=
  modify fun s => { s with nodes := s.nodes.modify i f }

def getGroup (i : Nat) : Launch Group := do
  match (← get).groups[i]? with
  | some g => pure g
  | none => silent .noAttribute

def getLauncher : Launch Launcher := do
  match (← get).launcher with
  | some l => pure l
  | none => silent .noAttribute

def modifyLauncher (f : Launcher → Launcher) : Launch Unit :=
  modify fun s => { s with launcher := s.launcher.map f }

def newPromise : Launch Nat := do
  let s ← get
  set { s with promises := s.promises.push {} }
  return s.promises.size

def getPromise (i : Nat) : Launch Promise := do
  match (← get).promises[i]? with
  | some p => pure p
  | none => silent .noAttribute

def settle (i : Nat) (p : Promise) : Launch Unit :=
  modify fun s => { s with
    promises := s.promises.modify i fun old => if old.state == .pending then p else old }

def isShutdown : Launch Bool := do
  return (← getPromise (← getLauncher).ending).state != .pending

def textOf (v : Value) : Launch String :=
  match v with
  | .str s => pure s
  | _ => silent .noAttribute

end Launch

end Launchpad
