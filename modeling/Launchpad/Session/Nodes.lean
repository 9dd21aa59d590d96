import Launchpad.Session.Child
import Launchpad.Session.Logging
import Launchpad.Session.Params

/-!
Nodes: what all kinds of nodes have in common. A node has a name and a namespace that begins with
a slash, parameters, remappings and a logger of its own.
-/

namespace Launchpad.Launch

def orElse (v d : Value) : Value :=
  if v.truthy then v else d

def namespaceText (ns : Value) : Launch String :=
  if ns.truthy then textOf ns else pure "/"

def takeUp (node : Node) (output : Value) : Launch Nat := do
  let node := { node with logger := node.fullname }
  useLogger node.logger
  configureLogger node.logger output
  let s ← get
  set { s with nodes := s.nodes.push node }
  return s.nodes.size

def newNode (package executable name ns remaps params output : Value) (kind : NodeKind) :
    Launch Nat := do
  if !name.truthy then told .invalidValue "Name cannot be empty"
  let ns ← namespaceText ns
  if !Text.startsWith ns "/" then told .invalidValue "namespace must start with a '/'"
  let id := (← get).nodeCounter
  modify fun s => { s with nodeCounter := id + 1 }
  match name with
  | .str name =>
    takeUp { id, package, executable, name, ns, remaps := orElse remaps (.map []),
             params := orElse params (.map []), logger := "", kind } output
  | _ => silent .wrongType

/-- The parameters of a node. Those that are given as the name of a file are read when they are
first asked for. -/
def nodeParams (i : Nat) : Launch Value := do
  let n ← getNode i
  match n.params, (← get).launcher with
  | .str p, some _ =>
    let v ← loadParams .null (.str p) .null (.ref (.node i))
    modifyNode i fun n => { n with params := v }
    return v
  | v, _ => return v

def hasMap : List Value → Bool
  | [] => false
  | .map _ :: _ => true
  | _ :: vs => hasMap vs

mutual

def flatten (path : Value) : Value → Entries → Try Entries
  | .map es, acc => flattenAll path es acc
  | .list vs, acc =>
    if hasMap vs then .error (.told .invalidValue "ROS2 does not support lists of dicts :(")
    else .ok (acc.insert path (.list vs))
  | v, acc => .ok (acc.insert path v)

def flattenAll (path : Value) : List (Value × Value) → Entries → Try Entries
  | [], acc => .ok acc
  | (k, v) :: es, acc => do
    let key := if path.truthy then
        .str (path.display Value.plainRef ++ "." ++ k.display Value.plainRef)
      else k
    let acc ← flatten key v acc
    flattenAll path es acc

end

def flatParams (i : Nat) : Launch Entries := do
  let v ← nodeParams i
  lift (flatten (.str "") v [])

def graphArgs (i : Nat) : Launch Entries := do
  let n ← getNode i
  let es ← lift (Entries.extend [] n.remaps)
  return Entries.insert (Entries.insert es (.str "__ns") (.str n.ns)) (.str "__node") (.str n.name)

def foreignRunning (f : ForeignNode) : Launch Value := do
  match f.process with
  | .gone => return .null
  | .started c => return .bool (← getChild c).code.isNone
  | .found pid =>
    let p := (← get).world.processes.find? fun p => p.pid == pid
    return .bool ((p.map Script.ProcessEntry.running).getD false)

def serviceRunning (s : ServiceNode) : Launch Value := do
  let ask (alive : Bool) : Launch Value := do
    if (← get).world.serviceForeign then told .assertion "can only test a child process"
    else return .bool alive
  match s.process with
  | .none => return .null
  | .alive _ => ask true
  | .ended _ => ask false
  | .closed => return .bool false

/-- Is a node with this name in the graph, now or within some seconds? Nothing is known if the
graph cannot be seen. -/
def connectedByName (i : Nat) (timeout : Value) : Launch Value := do
  if (← get).launcher.isNone then return .null
  catchFault (do
    let found ← wait (do
      let names ← graphNodeNames
      return names.contains (← getNode i).fullname) timeout true
    return .bool found) fun _ => return .null

def runningWith : Nat → Nat → Launch Value
  | 0, _ => silent .recursion
  | fuel + 1, i => do
    let n ← getNode i
    match n.kind with
    | .bare => throw (Stop.bare .notImplemented)
    | .process p => match p.child with
      | none => return .bool false
      | some c => return .bool (← pollChild c).isNone
    | .foreign f => foreignRunning f
    | .component c =>
      match c.componentId with
      | .null => return .bool false
      | _ => connectedByName i (.float 0.0)
    | .composer c => runningWith fuel c.wrapped
    | .service s => serviceRunning s

def isRunning (i : Nat) : Launch Value := do
  runningWith ((← get).nodes.size + 1) i

def isConnected (i : Nat) (timeout : Value) : Launch Value := do
  let n ← getNode i
  match n.kind with
  | .service _ => isRunning i
  | _ => connectedByName i timeout

def publishedServices (i : Nat) : Launch Entries := do
  if !(← isConnected i (.float 0.0)).truthy then return []
  let n ← getNode i
  let services ← graphServices
  return (services.filter fun e => Text.startsWith e.name n.fullname).foldl
    (fun es e => Entries.insert es (.str e.name) (.list (e.types.map .str))) []

def endpointsOf (i : Nat) : Launch NodeEndpoints := do
  useAdapter
  let n ← getNode i
  let key := n.ns ++ (if Text.endsWith n.ns "/" then "" else "/") ++ n.name
  return ((← get).world.graph.byNode.lookup key).getD {}

def topicEntries (ts : List (String × List String)) : Entries :=
  ts.foldl (fun es (k, v) => Entries.insert es (.str k) (.list (v.map .str))) []

def publishedTopics (i : Nat) : Launch Entries := do
  if !(← isConnected i (.float 0.0)).truthy then return []
  return topicEntries (← endpointsOf i).publishers

def subscribedTopics (i : Nat) : Launch Entries := do
  if !(← isConnected i (.float 0.0)).truthy then return []
  return topicEntries (← endpointsOf i).subscribers

def pidOf (i : Nat) : Launch Value := do
  let n ← getNode i
  match n.kind with
  | .process p =>
    if (← isRunning i).truthy then
      match p.child with
      | some c => return .int (← getChild c).pid
      | none => return .int (-1)
    else return .int (-1)
  | .foreign f =>
    if (← isRunning i).truthy then
      match f.process with
      | .found pid => return .int pid
      | .started c => return .int (← getChild c).pid
      | .gone => return .int (-1)
    else return .int (-1)
  | .service s => match s.process with
    | .none => return .int (-1)
    | .alive pid | .ended pid => return .int pid
    | .closed => silent .invalidValue
  | _ => silent .noAttribute

def nodeText (i : Nat) : Launch String := do
  let n ← getNode i
  let pkg ← display n.package
  let exe ← display n.executable
  match n.kind with
  | .process _ =>
    let pid ← display (← pidOf i)
    let running ← display (← isRunning i)
    return s!"{n.name} [node {n.id}, cmd {pkg}/{exe}, pid {pid}, running {running}]"
  | .component _ => return s!"{n.kindName} {pkg}/{exe}"
  | _ => return "AbstractNode " ++ n.fullname

end Launchpad.Launch
