import Launchpad.Session.Process

/-!
Managed nodes: nodes that tell their state and change it on request.
-/

namespace Launchpad.Launch

def offers (i : Nat) (suffix type : String) (timeout : Value) : Launch Bool :=
  wait (do
    let services ← publishedServices i
    let name := (← getNode i).fullname ++ suffix
    return services.any fun (k, ts) => k == .str name && match ts with
      | .list ts => ts.contains (.str type)
      | _ => false) timeout false

def isManaged (i : Nat) (timeout : Value) : Launch Bool :=
  offers i "/get_state" "lifecycle_msgs/srv/GetState" timeout

def manage (i : Nat) : Launch Unit := do
  let n ← getNode i
  useAdapter
  let events := n.fullname ++ "/transition_event"
  noteCall (.opened "subscription" (.str events) "lifecycle_msgs/msg/TransitionEvent" (.int 10))
  modify fun s => { s with subscribers := s.subscribers ++ [(.str events, .lifecycle i)] }
  let topic : Value := .str (n.fullname ++ "/change_state")
  let _ ← openClient topic "lifecycle_msgs/srv/ChangeState" .null
  if !(← awaitService "wait_for_service" topic 5.0) then
    told .runtime "Could not connect to lifecycle transition service"
  modifyNode i fun n => { n with lifecycle := some {} }

def isLifecycleNode (i : Nat) (timeout : Value) : Launch Bool := do
  let n ← getNode i
  match n.kind with
  | .service _ => return false
  | _ =>
    if n.lifecycle.isNone then
      if ← isManaged i timeout then manage i
    return (← getNode i).lifecycle.isSome

def getLifecycle (i : Nat) : Launch LifecycleState := do
  match (← getNode i).lifecycle with
  | some l => return l
  | none => silent .noAttribute

def stageRank : Option Stage → Int
  | some s => s.rank
  | none => -1

def followPath (i : Nat) (target topic : Value) : List Int → Launch Bool
  | [] => return true
  | t :: ts => do
    let (answer, _) ← request false topic "lifecycle_msgs/srv/ChangeState"
      [Graph.transitionField t]
    if ((answer.lookup "success").getD .null).truthy then followPath i target topic ts
    else
      let n ← getNode i
      error n.logger
        s!"Lifecycle transition {t} for {n.name} towards stage {← display target} failed"
      return false

def transition (i : Nat) (target : Value) : Launch Bool := do
  let l ← getLifecycle i
  if target.whole? == some (stageRank l.stage) then return true
  match target.whole?.bind Stage.ofRank? with
  | none =>
    if target.isKey then silent .unknownKey else silent .wrongType
  | some goal =>
    let path := Lifecycle.findPath l.state (Lifecycle.stateOf goal)
    if path.isEmpty then
      told .invalidValue (s!"Could not find a valid transition sequence for {stageRank l.stage}" ++
        s!" -> {← display target}")
    let n ← getNode i
    followPath i target (.str (n.fullname ++ "/change_state")) path

end Launchpad.Launch
