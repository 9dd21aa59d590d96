import Launchpad.Log.Relay

/-!
The process of the launch service. It tells its parent what the service logs, includes the launch
descriptions that come through a queue, and ends with the queue or with a signal.
-/

namespace Launchpad.Service

inductive Stopping where
  | nothing | fails | pending
deriving DecidableEq, Repr

structure Job where
  name : String
  args : Option (List Value)
  queue : List (Option Value)
  logs : List Log.Record
  failure : Option String
  connected : Bool
  signals : List Int
  stopping : Stopping
  now : Float

inductive Act where
  | titled (title : String)
  | started (args : Option (List Value))
  | included (description : Value)
  | shutdown
  | stopped (reason : String) (interrupted : Bool)
  | stopClosed
  | exited (code : Int)

structure Worker where
  relay : Log.Relay
  acts : List Act := []
  records : List Log.Record := []
  queue : List (Option Value) := []
  ended : Bool := false

abbrev Work := EStateM Stop Worker

namespace Work

def act (a : Act) : Work Unit :=
  modify fun w => { w with acts := w.acts ++ [a] }

def send (j : Job) (r : Log.Record) : Work Unit := do
  let (result, relay) := (← get).relay.handle r
  modify fun w => { w with relay }
  match result with
  | .error e => throw e
  | .ok x =>
    if j.connected then
      modify fun w => { w with records := w.records ++ (x.record.map (·.1)).toList }

def log (j : Job) (level : Int) (msg : String) : Work Unit :=
  send j (Log.Record.make j.name level msg j.now)

def interruptSignal : Int := 2

def receive (j : Job) (signal : Int) : Work Unit := do
  if signal == interruptSignal then
    act (.stopped "SIGINT" true)
    if j.stopping == .pending then act .stopClosed
  act (.exited 0)
  modify fun w => { w with ended := true }

def drain : List (Option Value) → Work Unit
  | [] => modify fun w => { w with queue := [] }
  | none :: rest => do
    act .shutdown
    modify fun w => { w with queue := rest }
  | some d :: rest => do
    act (.included d)
    drain rest

def serve (j : Job) : Work Unit := do
  log j Log.info "Starting ROS2 launch service"
  match j.failure with
  | some t => throw (.told .runtime t)
  | none => pure ()
  j.logs.forM (send j)
  match j.signals with
  | s :: _ => receive j s
  | [] =>
    drain j.queue
    log j Log.info "ROS2 launch service has terminated"

def work (j : Job) : Work Unit := do
  act (.titled s!"python3 ({j.name})")
  act (.started j.args)
  tryCatch (serve j) fun
    | .fault f => do
      log j Log.warning s!"Error while running ROS2 launch service: {f.text}"
      throw (.fault f)
    | e => throw e

end Work

/-- The relay between the service and its parent: it recognises the source, severity and time that
a process writes in front of its messages. -/
def serviceRelay : Try Log.Relay := do
  let pretty ← Log.Pretty.make
    { pattern := .str Log.servicePattern
      parts := .list [.str "name", .str "levelname", .str "created", .str "msg"] }
  return { kind := .stubborn, level := .int Log.info, formatter := .pretty pretty, hue := 0.3 }

def Worker.start (j : Job) : Try Worker := do
  return { relay := ← serviceRelay, queue := j.queue }

def Job.run (j : Job) : Try Unit × Worker :=
  match Worker.start j with
  | .error e => (.error e, { relay := default })
  | .ok w =>
    match (Work.work j).run w with
    | .ok _ w => (.ok (), w)
    | .error e w => (.error e, w)

end Launchpad.Service
