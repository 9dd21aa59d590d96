import Launchpad.Graph.Type
import Launchpad.Session.Describe

/-!
The launcher's part in the node graph: the adapter through which it takes part, what it sees
there, and its calls.
-/

namespace Launchpad.Launch

def useAdapter : Launch Unit := do
  let l ← getLauncher
  unless l.adapterRunning do
    noteCall .adapterStart
    modifyLauncher fun l => { l with adapterRunning := true }

def stopAdapter : Launch Unit := do
  let l ← getLauncher
  if l.adapterRunning then
    noteCall .adapterStop
    modifyLauncher fun l => { l with adapterRunning := false }
    match (← get).world.adapterError with
    | some t => told .runtime t
    | none => pure ()

def visible (clock : Int) (es : List Script.GraphEntry) : List Script.GraphEntry :=
  es.filter fun e => decide (e.since ≤ clock)

def graphNodeNames : Launch (List String) := do
  useAdapter
  let w := (← get).world
  if w.graph.failing then silent .runtime
  return (visible w.clock w.graph.nodes).map fun e =>
    e.ns ++ (if Text.endsWith e.ns "/" then "" else "/") ++ e.name

def graphTopics : Launch (List Script.GraphEntry) := do
  useAdapter
  let w := (← get).world
  return visible w.clock w.graph.topics

def graphServices : Launch (List Script.GraphEntry) := do
  useAdapter
  let w := (← get).world
  return visible w.clock w.graph.services

def seconds (v : Value) : Launch Float :=
  match v.number? with
  | some n => lift n.toFloat
  | none => silent .wrongType

def limitOf (timeout : Value) : Launch Int := do
  let x ← seconds timeout
  if x < 0.0 then return 0 else millis x

/-- Waits for what does not happen. -/
def pause (timeout : Value) : Launch Unit := do
  advance (← limitOf timeout)

/-- Waits for a process that is running: does it end in time? -/
def endsInTime (life : Script.Lifetime) (timeout : Value) : Launch Bool := do
  match timeout with
  | .null => match life with
    | .awaited => return true
    | .lasts ms => do
      advance ms
      return true
    | .endless => throw (Stop.bare .endless)
  | v => match life with
    | .lasts ms => do
      let limit ← limitOf v
      advance (min ms limit)
      return ms ≤ limit
    | _ => do
      pause v
      return false

def longestWait : Nat := 3600000

/-- Sleeps in a wait for something that may never come, which is endless if it is not over when an
hour of the clock has passed. -/
def sleepOn (x : Float) : Launch Unit := do
  sleep x
  if (← get).world.clock > longestWait then throw (Stop.bare .endless)

def timedOut (start : Float) (timeout : Value) (reached : Bool) : Launch Bool := do
  match timeout with
  | .null => return false
  | v =>
    let limit := start + (← seconds v)
    let t ← now
    return if reached then t ≥ limit else t > limit

/-- How often a wait looks at most: until everything that will be in the graph is there and the
time has run out. -/
def waitRounds (timeout : Value) : Launch Nat := do
  let g := (← get).world.graph
  let now := (← get).world.clock
  let last := (g.nodes ++ g.topics ++ g.services).foldl (fun m e => max m (e.since - now).toNat) 0
  let span : Int := match timeout.number?.map Number.toFloat with
    | some (.ok x) => Calendar.wholeInt x
    | _ => 0
  return last / 100 + 10 * span.toNat + 15

def waitUntil (found : Launch Bool) (timeout : Value) (reached : Bool) (start : Float) :
    Nat → Launch Bool
  | 0 => return false
  | n + 1 => do
    if ← found then return true
    else if ← timedOut start timeout reached then return false
    else
      sleep 0.1
      waitUntil found timeout reached start n

def wait (found : Launch Bool) (timeout : Value) (reached : Bool) : Launch Bool := do
  let n ← waitRounds timeout
  waitUntil found timeout reached (← now) n

def waitForTopic (topic timeout : Value) : Launch Bool :=
  wait (do return (← graphTopics).any fun e => Value.str e.name == topic) timeout false

def waitForService (service timeout : Value) : Launch Bool :=
  wait (do return (← graphServices).any fun e => Value.str e.name == service) timeout false

def typeFor (v : Value) : Launch String := do
  match v with
  | .str s => lift (Graph.findType s)
  | .ref (.messageType n) => return n
  | _ => silent .noAttribute

def serviceQuality (v : Value) : Launch Report := do
  if v.truthy then plainReportOf v else return .str "services_default"

def keepTopic (topic : Value) : Launch Nat := do
  let s ← get
  set { s with topics := s.topics.push topic }
  return s.topics.size

def openClient (topic : Value) (type : String) (qos : Report) : Launch Nat := do
  useAdapter
  noteCall (.opened "client" (← reportOf topic) type qos)
  keepTopic topic

def awaitService (kind : String) (topic : Value) (t : Float) : Launch Bool := do
  let w := (← get).world
  let told ← reportOf topic
  let span ← millis t
  let limit := w.clock + span
  let times := (w.graph.services.filter fun e => topic.same (.str e.name)).map (·.since)
  match times with
  | [] =>
    advance span
    noteCall (.waited kind told false)
    return false
  | x :: xs =>
    let since := xs.foldl min x
    if since ≤ limit then
      if since > w.clock then modifyWorld fun w => { w with clock := since }
      noteCall (.waited kind told true)
      return true
    else
      advance span
      noteCall (.waited kind told false)
      return false

def typeText (name : String) : String :=
  "<class '" ++ Text.replace name "/" "." ++ "'>"

def serviceClient (topic : Value) (type : String) (timeout qos : Value) : Launch Nat := do
  let q ← serviceQuality qos
  let c ← openClient topic type q
  if (← seconds timeout) > 0.0 then
    if !(← awaitService "wait_for_service" topic (← seconds timeout)) then
      told .timedOut s!"Service client timed out ({← display topic}, {typeText type})"
  return c

def takeResponse (topic : Value) : Launch Script.Response := do
  let w := (← get).world
  match w.responses.find? fun e => topic.same (.str e.1) with
  | some (name, r :: rs) =>
    let left := if rs.isEmpty then [r] else rs
    modifyWorld fun w => { w with
      responses := w.responses.map fun (k, v) => if k == name then (k, left) else (k, v) }
    return r
  | _ => return {}

def setLifecycle (node : Nat) (state : Int) : Launch Unit :=
  modifyNode node fun n => { n with
    lifecycle := n.lifecycle.map fun _ => { stage := Lifecycle.stageOf? state, state } }

def callValue (f : Value) (args : List Value) : Launch Value := do
  match f with
  | .ref (.callback i) => match (← get).callbacks[i]? with
    | some c =>
      let s ← get
      emit (.called c.name (args.map s.report))
      match c.failure with
      | some t => throw (Stop.silent .runtime t)
      | none => return c.result
    | none => silent .wrongType
  | v => silent .wrongType s!"'{← kindOf v}' object is not callable"

def deliverState (topic : String) (state : Int) : Launch Nat := do
  let heard := (← get).subscribers.filter fun e => e.1.same (.str topic)
  heard.forM fun (_, s) => match s with
    | .lifecycle n => setLifecycle n state
    | .callback f => do
      let s ← get
      let m : Message := ⟨"TransitionEvent", [("goal_state", .record [("id", .int state)])]⟩
      set { s with messages := s.messages.push m }
      let _ ← callValue f [.ref (.message s.messages.size)]
  return heard.length

def stateTopic (topic : String) : String :=
  match Text.cutLast? topic "/" with
  | some (a, _) => a ++ "/transition_event"
  | none => topic ++ "/transition_event"

def request (asynchronous : Bool) (topic : Value) (type : String) (fields : Named) :
    Launch (Named × Int) := do
  let s ← get
  noteCall (.called asynchronous (s.report topic) type
    (fields.map fun (k, v) => (k, s.plainReport v)))
  let r ← takeResponse topic
  r.events.forM fun e => do
    let _ ← deliverState (stateTopic (← textOf topic)) e
  let defaults := match Graph.form? type with
    | some (.service _ response) => response
    | _ => []
  return (r.fields.foldl (fun fs (k, v) => Graph.setField fs k v) defaults, r.delay)

def keepMessage (type : String) (fields : Named) : Launch Nat := do
  let s ← get
  set { s with messages := s.messages.push ⟨type, fields⟩ }
  return s.messages.size

def callWith (topic : Value) (type : String) (fields : Named) (timeout qos : Value) :
    Launch Named := do
  let _ ← serviceClient topic type timeout qos
  let (answer, _) ← request false topic type fields
  return answer

def callAsync (topic : Value) (type : String) (fields : Named) (timeout qos : Value) :
    Launch Nat := do
  let _ ← serviceClient topic type timeout qos
  let (answer, delay) ← request true topic type fields
  let m ← keepMessage type answer
  let s ← get
  let r : Reply :=
    { topic, message := m, ready := s.world.clock + delay, destroys := true }
  set { s with replies := s.replies.push r }
  return s.replies.size

def replyDone (i : Nat) : Launch Bool := do
  let s ← get
  match s.replies[i]? with
  | none => silent .noAttribute
  | some r =>
    if r.ready ≤ s.world.clock then
      if !r.seen then
        set { s with replies := s.replies.modify i fun r => { r with seen := true } }
        if r.destroys then noteCall (.destroyed (s.report r.topic))
      return true
    else return false

def requestOf (type : String) (args : Value) : Launch Named := do
  match Graph.form? type with
  | some (.service defaults _) =>
    match args with
    | .map es =>
      let given ← es.mapM fun (k, v) => match k with
        | .str s => pure (s, v)
        | _ => silent .wrongType
      lift (Graph.construct defaults given)
    | _ => return defaults
  | _ => silent .noAttribute

def callService (topic type args timeout qos : Value) (asynchronous : Bool) : Launch Value := do
  let t ← typeFor type
  let fields ← requestOf t args
  if asynchronous then
    return .ref (.reply (← callAsync topic t fields timeout qos))
  else
    let answer ← callWith topic t fields timeout qos
    return .ref (.message (← keepMessage t answer))

def subscriber (topic type callback qos : Value) : Launch Value := do
  let t ← typeFor type
  useAdapter
  noteCall (.opened "subscription" (← reportOf topic) t (← plainReportOf qos))
  modify fun s => { s with subscribers := s.subscribers ++ [(topic, .callback callback)] }
  return .ref (.endpoint (← keepTopic topic))

def publisher (topic type qos : Value) : Launch Value := do
  let t ← typeFor type
  useAdapter
  noteCall (.opened "publisher" (← reportOf topic) t (← plainReportOf qos))
  return .ref (.endpoint (← keepTopic topic))

def publishMessage (topic type args qos delay : Value) : Launch Unit := do
  let t ← typeFor type
  let _ ← publisher topic (.ref (.messageType t)) qos
  let given ← match args with
    | .map es => es.mapM fun (k, v) => match k with
      | .str s => pure (s, v)
      | _ => silent .wrongType
    | _ => silent .wrongType
  let defaults ← match Graph.form? t with
    | some (.message fs) => pure fs
    | _ => pure []
  let fields ← lift (Graph.construct defaults given)
  let s ← get
  noteCall (.published (s.report topic) (fields.map fun (k, v) => (k, s.plainReport v)))
  match delay with
  | .null => pure ()
  | d =>
    if (← seconds d) > 0.0 then sleep (← seconds d)
  noteCall (.destroyed (s.report topic))

def service (topic type qos : Value) : Launch Value := do
  let t ← typeFor type
  let q ← serviceQuality qos
  useAdapter
  noteCall (.opened "service" (← reportOf topic) t q)
  return .ref (.endpoint (← keepTopic topic))

def actionServer (topic type qos : Value) : Launch Value := do
  let t ← typeFor type
  let q ← serviceQuality qos
  useAdapter
  noteCall (.openedAction "action_server" (← reportOf topic) t q)
  return .ref (.actionServer (← keepTopic topic))

def actionClient (topic type timeout qos : Value) : Launch Value := do
  let t ← typeFor type
  let q ← serviceQuality qos
  useAdapter
  noteCall (.openedAction "action_client" (← reportOf topic) t q)
  if (← seconds timeout) > 0.0 then
    if !(← awaitService "wait_for_server" topic (← seconds timeout)) then
      told .timedOut s!"Action client timed out ({← display topic}, {typeText t})"
  return .ref (.actionClient (← keepTopic topic))

end Launchpad.Launch
