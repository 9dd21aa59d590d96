import Launchpad.Session.Composition

/-!
Info sheets: what is known of a node, as marked-up text in three sections.
-/

namespace Launchpad.Launch

def stageText (i : Nat) : Launch String := do
  match (← getNode i).lifecycle with
  | none => return "None"
  | some l => match l.stage with
    | some s => return s.name
    | none => silent .noAttribute

def kindSection (i : Nat) : Launch String := do
  match (← getNode i).kind with
  | .process p =>
    let pid ← display (← pidOf i)
    let most ← display p.maxRespawns
    return s!"\n<bold>Process</bold>\n  PID:       {pid}\n  Respawns:  {p.retries} / {most}\n" ++
      s!"  Cmd Args:  {← display p.cmdArgs}\n  Env:       {← display p.env}\n"
  | .foreign f =>
    let pid ← display (← pidOf i)
    return s!"\n<bold>Process</bold>\n  PID:       {pid}\n  Cmd Args:  {← display f.cmdArgs}\n"
  | .composer _ =>
    let lines ← (← managedComponents i).mapM fun j => do
      return "  - " ++ (← display (← getNode j).executable)
    return "\n<bold>Components</bold>\n" ++ "\n".intercalate lines ++ "\n"
  | .service _ =>
    let pid ← display (← pidOf i)
    return s!"<bold>Launch Service</bold>\n  PID:       {pid}\n"
  | _ => return ""

def generalSection (i : Nat) : Launch String := do
  let n ← getNode i
  let status := if (← isRunning i).truthy then "<green>alive</green>" else "<red>dead</red>"
  let stage ← stageText i
  let own := s!"<bold>{n.name} ({n.kindName})</bold>\n  Status:    {status}\n" ++
    s!"  Lifecycle: {stage}\n  Package:   {← display n.package}\n" ++
    s!"  Command:   {← display n.executable}\n  Namespace: {n.ns}\n"
  return own ++ (← kindSection i)

def configSection (i : Nat) : Launch String := do
  let params ← display (← nodeParams i)
  let remaps ← display (← getNode i).remaps
  return s!"<bold>Config</bold>\n  Node Args: {params}\n  Remaps:    {remaps}\n"

def topicLe (a b : String × List String) : Bool :=
  if a.1 == b.1 then !(b.2 < a.2) else a.1 < b.1

def topicLines (ts : List (String × List String)) : String :=
  String.join ((ts.mergeSort topicLe).map fun (topic, types) =>
    s!"\n  {topic} [" ++ ", ".intercalate types ++ "]")

def graphSection (i : Nat) : Launch String := do
  match (← getNode i).kind with
  | .service _ => return s!"<bold>Loaded Actions</bold>\n{← describeActions i}\n"
  | _ =>
    let e ← if (← isConnected i (.float 0.0)).truthy then endpointsOf i else pure {}
    return s!"<bold>Publishers:</bold> {topicLines e.publishers}\n\n" ++
      s!"<bold>Subscriptions:</bold> {topicLines e.subscribers}\n\n" ++
      s!"<bold>Services:</bold> {topicLines e.services}\n"

def infoSheet (i : Nat) : Launch String := do
  let general ← generalSection i
  let config ← configSection i
  let graph ← graphSection i
  return "\n".intercalate [general, config, graph]

end Launchpad.Launch
