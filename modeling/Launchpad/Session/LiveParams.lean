import Launchpad.Session.Nodes

/-!
The parameters of a node that runs, which are asked for and set through its services.
-/

namespace Launchpad.Launch

def paramService (i : Nat) (name type : String) (fields : Named) (timeout : Value) :
    Launch Named := do
  let n ← getNode i
  callWith (.str (n.fullname ++ "/" ++ name)) ("rcl_interfaces/srv/" ++ type) fields timeout .null

def listLiveParams (i : Nat) (timeout : Value) : Launch Value := do
  let answer ← paramService i "list_parameters" "ListParameters" [] timeout
  return (answer.lookup "names").getD (.list [])

def getLiveParams (i : Nat) (names : List Value) (timeout : Value) : Launch Value := do
  let n ← getNode i
  if !n.liveParamsReady then
    modifyNode i fun n => { n with liveParamsReady := true }
    let _ ← serviceClient (.str (n.fullname ++ "/get_parameters"))
      "rcl_interfaces/srv/GetParameters" timeout .null
  let names ← if names.isEmpty then do
      match ← listLiveParams i timeout with
      | .list vs => pure vs
      | _ => silent .wrongType
    else pure names
  let answer ← paramService i "get_parameters" "GetParameters" [("names", .list names)] timeout
  match answer.lookup "values" with
  | some (.list vs) =>
    let pairs := names.zip vs
    unless pairs.all (·.1.isKey) do silent .wrongType
    return Value.ofEntries pairs
  | _ => return .map []

def sentParams (params : Value) : Launch (Entries × Value) := do
  match params with
  | .map es =>
    let ps ← es.mapM fun (k, v) => lift (Graph.parameter k v)
    return (es, .list ps)
  | _ => silent .noAttribute

def setLiveParams (i : Nat) (params timeout : Value) : Launch Value := do
  let (es, sent) ← sentParams params
  let answer ← paramService i "set_parameters" "SetParameters" [("parameters", sent)] timeout
  match answer.lookup "results" with
  | some (.list vs) => return Value.ofEntries ((Entries.keys es).zip vs)
  | _ => return .map []

def setLiveParamsAtomic (i : Nat) (params timeout : Value) : Launch Value := do
  let (_, sent) ← sentParams params
  let answer ← paramService i "set_parameters_atomically" "SetParametersAtomically"
    [("parameters", sent)] timeout
  return (answer.lookup "successful").getD .null

end Launchpad.Launch
