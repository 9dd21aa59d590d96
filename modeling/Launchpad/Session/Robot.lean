import Launchpad.Session.Launcher

/-!
Nodes that many launches need: a viewer, the publishers around a robot description, and static
transforms.
-/

namespace Launchpad.Launch

/-- The arguments of a node that are fixed together with those that are passed on; none may be
given twice. -/
def withFixed (fixed extra : Named) : Launch Named := do
  if fixed.any fun e => (extra.lookup e.1).isSome then silent .wrongType
  return fixed ++ extra

def namedOf : Value → Named
  | .map es => es.filterMap fun (k, v) => k.text?.map fun k => (k, v)
  | _ => []

def elementsOf (v : Value) : Launch (List Value) :=
  match v.elements? with
  | some xs => pure xs
  | none => silent .wrongType

def elementsIfAny (v : Value) : Launch (List Value) :=
  if v.truthy then elementsOf v else pure []

def rviz (package config subdir extra : Value) : Launch Nat := do
  let _ ← getLauncher
  let args ← if config.truthy then do
      let file ← find package config subdir
      pure [.str "-d", file]
    else pure []
  let extra ← elementsIfAny extra
  nodeWith [.str "rviz2", .str "rviz2", .str "rviz2"]
    [("anonymous", .bool true), ("cmd_args", .list (args ++ extra)), ("log_level", .null)]

def readDescription (package file subdir xacroArgs : Value) : Launch Value := do
  let _ ← getLauncher
  let path ← textOf (← find package file subdir)
  match xacroArgs, Text.endsWith path "xacro" with
  | .null, false => return .str (← readText path)
  | args, _ =>
    let extra ← (← elementsIfAny args).mapM fun v => match v with
      | .str s => pure s
      | _ => silent .wrongType
    let (output, code) ← execute ("xacro" :: path :: extra)
    if code != 0 then told .invalidValue s!"Xacro failed ({code}): {output}"
    return .str (Text.trimRightBy (· == '\n') output)

def withDefault (named : Named) (k : String) (v : Value) : Named :=
  if (named.lookup k).isSome then named else named ++ [(k, v)]

def jointStatePublisher (gui name extra : Value) : Launch Nat := do
  let _ ← getLauncher
  let named := withDefault (namedOf extra) "anonymous" (.bool true)
  let what : Value :=
    .str (if gui.truthy then "joint_state_publisher_gui" else "joint_state_publisher")
  nodeWith [what, what, orElse name what] named

def robotStatePublisher (package file subdir xacroArgs name extra : Value) : Launch Nat := do
  let description ← readDescription package file subdir xacroArgs
  let named := withDefault (namedOf extra) "anonymous" (.bool true)
  let params ← match named.lookup "params" with
    | none => pure []
    | some (.map es) => pure es
    | some _ => silent .wrongType
  let params := Entries.insert params (.str "robot_description") description
  let what : Value := .str "robot_state_publisher"
  nodeWith [what, what, name] (("params", .map params) :: removeNamed named "params")

def axisArgs (v : Value) (axes : List String) : Launch (List Value) := do
  let parts ← axes.zipIdx.mapM fun (axis, k) => do
    return [Value.str ("--" ++ axis), ← lift (Value.item v (.int k))]
  return parts.flatten

def countOf (v : Value) : Launch Nat :=
  match v with
  | .str s => pure s.length
  | .list xs | .tuple xs | .set xs => pure xs.length
  | .map es => pure es.length
  | _ => silent .wrongType

def dubious (what : String) (n : Nat) : Fault :=
  let text := what ++ " has dubious length %d"
  ⟨.invalidValue, Value.display Value.plainRef (.tuple [.str text, .int n]),
    .args [.str text, .int n]⟩

def placeArgs (pos rot : Value) : Launch (List Value × Value) := do
  match pos with
  | .null => return ([], rot)
  | pos =>
    let args ← axisArgs pos ["x", "y", "z"]
    let n ← countOf pos
    if n == 3 then return (args, rot)
    if n == 4 then
      let last ← lift (Value.item pos (.int 3))
      if last == .float 1.0 then return (args, rot)
    if n == 6 || n == 7 then
      return (args, .list ((← elementsOf pos).drop 3))
    throw (.fault (dubious "Position" n))

def turnArgs (rot : Value) : Launch (List Value) := do
  match rot with
  | .null => return []
  | rot =>
    let n ← countOf rot
    if n == 3 then axisArgs rot ["roll", "pitch", "yaw"]
    else if n == 4 then axisArgs rot ["qx", "qy", "qz", "qw"]
    else throw (.fault (dubious "Rotation" n))

def staticTransform (parent child pos rot : Value) : Launch Nat := do
  let (place, rot) ← placeArgs pos rot
  let turn ← turnArgs rot
  let args := [.str "--frame-id", parent, .str "--child-frame-id", child] ++ place ++ turn
  nodeWith [.str "tf2_ros", .str "static_transform_publisher", .str "gazebo_world_tf"]
    [("cmd_args", .list args), ("raw", .bool true)]

def spawnController (controller manager : Value) : Launch Nat :=
  nodeWith [] [("package", .str "controller_manager"), ("executable", .str "spawner"),
    ("cmd_args", .list [controller, .str "--controller-manager", manager]), ("raw", .bool true)]

end Launchpad.Launch
