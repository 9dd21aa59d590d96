import Launchpad.Session.Robot

/-!
The simulator: its version, its world, and the nodes that connect it with the node graph.
-/

namespace Launchpad.Launch

def simVersion : Launch String := do
  let w := (← get).world
  match (["IGN_VERSION", "IGNITION_VERSION", "GZ_VERSION"].filterMap fun k => w.env.lookup k).find?
      (· != "") with
  | some v => return if v == "fortress" then "ign" else "gz"
  | none => return if (w.packages.lookup "ros_gz_sim").isSome then "gz" else "ign"

def simExecutable : Launch String := do
  let s ← get
  match s.simExecutable with
  | some p => return p
  | none =>
    match (["gz", "ign"].filterMap fun k => s.world.programs.lookup k).find? (· != "") with
    | some p =>
      modify fun s => { s with simExecutable := some p }
      return p
    | none => told .invalidValue "Could not locate gazebo executable"

def worldName (force : Bool) : Launch String := do
  match (← get).simWorld, force with
  | some n, false => return n
  | _, _ =>
    let output ← catchFault (do
      let exe ← simExecutable
      textOf (← runCommand (.list [.str exe, .str "model", .str "--list"])))
      fun f => told .invalidValue s!"Failed to list loaded Gazebo models: {f.text}"
    if output == "" || Text.contains output "timed out" then
      told .invalidValue "No loaded Gazebo models or request timed out"
    match Text.splitAt (Text.replace output "]" "[") '[' with
    | _ :: name :: _ =>
      if name == "" then
        told .invalidValue
          s!"Gazebo did not return a parseable world name (output was '{output}')"
      modify fun s => { s with simWorld := some name }
      return name
    | _ => silent .outOfRange

def modelPlace (model : Value) : Launch String := do
  return s!"/world/{← worldName false}/model/{← display model}"

def modelTopic (model topic : Value) : Launch String := do
  return s!"{← modelPlace model}/{← display topic}"

def keepBridge (b : Gazebo.Bridge) : Launch Value := do
  let s ← get
  set { s with bridges := s.bridges.push b }
  return .ref (.bridge s.bridges.size)

def makeBridge (topic type direction simType remaps : Value) : Launch Gazebo.Bridge := do
  if !type.truthy then
    let seen := (← graphTopics).map fun e => Value.tuple [.str e.name, .list (e.types.map .str)]
    if seen.any topic.same then silent .wrongType
    told .invalidValue
      s!"Message type not specified and topic {← display topic} does not exist yet"
  let direction ← match direction with
    | .str d => pure d
    | _ => silent .wrongType
  let simType ← if simType.truthy then do pure (some (← display simType)) else pure none
  if simType.isNone && !type.isKey then
    if Gazebo.isSign (Gazebo.directionSign direction) then silent .wrongType
  lift (Gazebo.Bridge.make (← display topic) (← display type) direction simType remaps)

def newBridge (args : Bound) : Launch Value := do
  keepBridge (← makeBridge (args.get "topic") (args.get "ros2_type") (args.get "direction")
    (args.get "gazebo_type") (args.get "remaps"))

def clockBridge : Launch Value := do
  keepBridge (← makeBridge (.str "/clock") (.str "rosgraph_msgs/msg/Clock") (.str "gz2ros")
    .null .null)

def jointStateBridge (model : Value) : Launch Value := do
  let topic : Value := .str (← modelTopic model (.str "joint_state"))
  keepBridge (← makeBridge topic (.str "sensor_msgs/JointState") (.str "gz2ros") .null
    (.map [(topic, .str "joint_states")]))

def matchedPart (p : Pattern.Compiled) (c : Pattern.Cursor) (i : Nat) : Launch Value :=
  if p.groups < i then silent .outOfRange else pure (((c.group? i).map .str).getD .null)

/-- Reads the written form of a bridge, which is asked for four parts. -/
def bridgeFromText (bridge : Value) : Launch Value := do
  match bridge with
  | .str s =>
    let p ← lift (Pattern.compile "(.+)@(.+)[\\[\\]@](.+)")
    match Pattern.matchAt p.pattern s with
    | none => told .invalidValue (s ++ " is not a valid bridge string")
    | some c =>
      let part := matchedPart p c
      keepBridge (← makeBridge (← part 1) (← part 2) (← part 3) (← part 4) .null)
  | _ => silent .wrongType

def spawnModel (name model source args : Value) : Launch Nat := do
  let _ ← getLauncher
  let source ← match source with
    | .str "auto" => do
      if ← lift (model.contains (.str "<model")) then pure "string"
      else match model with
        | .str m =>
          if ← isFile m then pure "file"
          else if (← graphTopics).any fun e => e.name == m then pure "topic"
          else pure "param"
        | _ => silent .wrongType
    | v => display v
  let args ← match args with
    | .null => pure []
    | .map es => pure es
    | _ => silent .noAttribute
  let extra ← args.mapM fun (k, v) => do return [Value.str ("-" ++ (← display k)), v]
  let package := if (← simVersion) == "ign" then "ros_ign_gazebo" else "ros_gz_sim"
  nodeWith [.str package, .str "create", .str ("spawn_" ++ (← display name))]
    [("anonymous", .bool true),
      ("cmd_args", .list ([.str "-name", name, .str ("-" ++ source), model] ++ extra.flatten))]

def spawnWorldTransform (frame : Value) : Launch Value := do
  let frame ← match frame with
    | .null => do pure (.str (← worldName false))
    | v => pure v
  if frame == .str "world" then return .null
  return .ref (.node (← staticTransform (.str "world") frame .null .null))

def bridgeOf? (v : Value) : Launch (Option Gazebo.Bridge) := do
  match v with
  | .ref (.bridge i) => return (← get).bridges[i]?
  | _ => return none

def withRemaps (all : Entries) (remaps : Value) : Launch Entries :=
  if remaps.truthy then lift (all.extend remaps) else pure all

def spawnTopicBridge (topics : List Value) (name remaps args extra : Value) : Launch Nat := do
  let version ← simVersion
  let (all, topics) ← topics.foldlM (fun ((all, acc) : Entries × List Value) t => do
    match ← bridgeOf? t with
    | some b =>
      let all ← withRemaps all b.remaps
      return (all, acc ++ [.str b.text])
    | none => return (all, acc ++ [t])) ([], [])
  let all ← withRemaps all remaps
  let args ← elementsIfAny args
  let named ← withFixed
    [("cmd_args", .list (topics ++ args)), ("remaps", .map all), ("raw", .bool true)]
    (namedOf extra)
  nodeWith [.str ("ros_" ++ version ++ "_bridge"), .str "parameter_bridge", name] named

def imageBridge (v : Value) : Launch Gazebo.Bridge := do
  match ← bridgeOf? v with
  | some b => return b
  | none =>
    let read ← catchFault (bridgeFromText v) fun f => do
      if f.cause == .invalidValue then
        bridgeFromText (.str ((← display v) ++ "@sensor_msgs/msg/Image]gz.msgs.Image"))
      else throw (.fault f)
    match ← bridgeOf? read with
    | some b => return b
    | none => silent .outOfRange

/-- Starts a node that bridges images. A bridge cannot be lengthened by the name of a transport,
so that only a node without topics comes to be. -/
def spawnImageBridge (topics : List Value) (name remaps args qos extra : Value) : Launch Nat := do
  let all ← topics.foldlM (fun (all : Entries) t => do
    let b ← imageBridge t
    if !b.isImage then told .invalidValue "Cannot relay non-image bridges"
    withRemaps all b.remaps) []
  let all ← withRemaps all remaps
  if !topics.isEmpty then silent .wrongType
  let args := orElse args (.list [])
  let args ← if qos.truthy then match args with
      | .list vs => do
        pure (.list (vs ++ [.str "--ros-args", .str ("qos:=" ++ (← display qos))]))
      | _ => silent .noAttribute
    else pure args
  let version ← simVersion
  let named ← withFixed [("remaps", .map all), ("cmd_args", args)] (namedOf extra)
  nodeWith [.str ("ros_" ++ version ++ "_image"), .str "image_bridge",
    .str ((← display name) ++ "_image")] named

def saveWorld (path after : Value) : Launch Unit := do
  if ← lessThan (.float 0.0) after then
    let _ ← getLauncher
    let p ← newPromise
    addTask (.saveWorld p after path)
  else
    let _ ← saveWorldNow path

def simLaunch (include_ : Value → Value → Named → Launch Unit)
    (package world args saveFile after : Value) : Launch Unit := do
  let _ ← getLauncher
  let file ← textOf (← find package world .null)
  let w := (← get).world
  if !w.files.exists? (Path.absolute w.cwd file) then
    told .invalidValue "Could not find world file"
  let parts ← (← elementsIfAny args).mapM fun v => match v with
    | .str s => pure s
    | _ => silent .wrongType
  let full : Value := .str (" ".intercalate (file :: parts))
  if (← simVersion) == "gz" then
    let launch ← find (.str "ros_gz_sim") (.str "gz_sim.launch.py") .null
    include_ .null launch [("gz_args", full)]
  else
    let launch ← find (.str "ros_ign_gazebo") (.str "ign_gazebo.launch.py") .null
    include_ .null launch [("ign_args", full)]
  if saveFile.truthy then saveWorld saveFile after

end Launchpad.Launch
