import Launchpad.Session.Include
import Launchpad.Session.LiveParams

/-!
What a script may ask for and call: on the launcher, on a node, on a group, on what these hand out,
and functions that belong to none of them. Arguments are matched with the parameters before
anything happens.
-/

namespace Launchpad

/-- What a method may answer with. A number stands for the node that has it. -/
class Answers (α : Type) where
  value : α → Value

instance : Answers Value := ⟨id⟩

instance : Answers Unit := ⟨fun _ => .null⟩

instance : Answers Bool := ⟨.bool⟩

instance : Answers String := ⟨.str⟩

instance : Answers Nat := ⟨Launch.nodeValue⟩

instance : Answers (List Nat) := ⟨Launch.nodeValues⟩

instance : Answers Entries := ⟨.map⟩

instance {α : Type} [Answers α] : Answers (Option α) := ⟨fun a => (a.map Answers.value).getD .null⟩

/-- Functions that can be called with the values of a parameter list. -/
class Callable (φ : Type) where
  call : φ → List Value → Launch Value

section

variable {α φ : Type} [Callable φ]

instance [Answers α] : Callable (Launch α) := ⟨fun x _ => do return Answers.value (← x)⟩

instance : Callable (Value → φ) := ⟨fun f vs => Callable.call (f (vs.headD .null)) vs.tail⟩

instance : Callable (Bool → φ) := ⟨fun f => Callable.call fun v : Value => f v.truthy⟩

instance : Callable (Named → φ) := ⟨fun f => Callable.call fun v => f (Launch.namedOf v)⟩

instance : Callable (List Value → φ) := ⟨fun f => Callable.call fun
  | Value.tuple vs => f vs
  | _ => f []⟩

instance : Callable (Entries → φ) := ⟨fun f => Callable.call fun
  | Value.map es => f es
  | _ => f []⟩

instance : Callable (Nat → φ) := ⟨fun f vs => do
  Callable.call (f (← Launch.nodeOf (vs.headD .null))) vs.tail⟩

end

/-- A method of a thing, with its parameters. One without a parameter list is not called but asked
for. -/
structure Method where
  name : String
  takes : Option Signature
  run : Bound → Launch Value

namespace Launch

open Script

def question {α : Type} [Answers α] (name : String) (x : Launch α) : Method :=
  ⟨name, none, fun _ => return Answers.value (← x)⟩

def answer {α : Type} [Answers α] (name : String) (a : α) : Method :=
  ⟨name, none, fun _ => pure (Answers.value a)⟩

def method {φ : Type} [Callable φ] (name : String) (takes : Signature) (f : φ) : Method :=
  ⟨name, some takes, fun b => Callable.call f (b.values.map (·.2))⟩

def groupValue (g : Nat) : Value := .ref (.group g)

def groupValues (gs : List Nat) : Value := .list (gs.map groupValue)

/-! ## The launcher -/

def distroName : Launch String := do
  match ← getEnv? "ROS_DISTRO" with
  | some s => return s
  | none => silent .unknownKey

def staticMethods : List Method :=
  [method "exec" [req "cmd"] runCommand, method "ros_version" {} distroName]

def messageType : Value → Launch Value
  | .str s => return .ref (.messageType (← lift (Graph.findType s)))
  | _ => silent .noAttribute

def topicMethods : List Method :=
  [method "get_ros_message_type" [req "message_string"] messageType,
    method "wait_for_topic" [req "topic", opt "timeout"] waitForTopic,
    method "wait_for_service" [req "service", opt "timeout"] waitForService,
    method "subscriber"
      [req "topic", req "message_type", req "callback", optInt "qos_profile" 10] subscriber,
    method "publisher" [req "topic", req "message_type", optInt "qos_profile" 10] publisher,
    method "publish_message"
      { params := [req "topic", req "message_type", req "message_args", optInt "qos_profile" 10],
        kwonly := [optFloat "time_to_publish" 1.0] } publishMessage,
    method "service" [req "topic", req "service_type", req "callback", opt "qos_profile"]
      fun topic type (_ : Value) qos => service topic type qos,
    method "service_client"
      [req "topic", req "service_type", optFloat "timeout" 5.0, opt "qos_profile"]
      fun topic type timeout qos => do
        let type ← typeFor type
        return Value.ref (.client (← serviceClient topic type timeout qos)),
    method "call_service"
      { params := [req "topic", req "service_type", opt "request_args"],
        kwonly := [optFloat "timeout" 5.0, opt "qos_profile", optBool "call_async" false] }
      callService,
    method "action_server" [req "topic", req "action_type", req "callback", opt "qos_profile"]
      fun topic type (_ : Value) qos => actionServer topic type qos,
    method "action_client"
      [req "topic", req "action_type", optFloat "timeout" 5.0, opt "qos_profile"] actionClient]

abbrev RunBody := List Step → Launch (List Answer)

def launcherMethods (runBody : RunBody) (l : Launcher) : List Method :=
  [method "all_groups" {} do return groupValues (← allGroups),
    method "all_nodes"
      { kwonly := [optBool "include_components" false, optBool "include_launch_service" true,
          optBool "include_foreign" false] } allNodes,
    method "query_node" (queryParams "fullname_regex") queryNode,
    method "query_nodes" (queryParams "name_regex") queryNodes,
    question "launchfile" do return (← get).launchFile,
    question "launch_args" do return (← get).launchArgs,
    question "ros_adapter" do
      useAdapter
      return Value.ref .adapter,
    question "shared_node" do
      useAdapter
      return Value.ref .graphNode,
    question "group_root" do return groupValue (← groupRoot),
    question "group_tip" do return groupValue (← groupTip),
    answer "logger" (Value.ref (.logger l.logger)),
    method "find_group_for_namespace" [req "namespace", optBool "create" false] findGroup,
    method "get_unique_name" [optText "name" ""] uniqueName,
    method "spin" [optBool "exit_with_last_node" true] spin,
    method "_on_sigint" [req "sig", req "frame"] fun _ _ : Value => onInterrupt,
    method "_on_sigterm" [req "sig", req "frame"] fun _ _ : Value => onTerminate,
    question "is_shutdown" isShutdown,
    method "add_shutdown_callback" [req "callback"] addShutdownCallback,
    method "shutdown" [opt "reason", optInt "signum" termSignal] shutdownAll,
    answer "_shutdown_future" (Value.ref (.promise l.ending)),
    method "find"
      { params := [opt "package", opt "filename", opt "subdir"],
        kwonly := [optBool "substitutions" true] } (find · · · ·),
    method "resolve_string" [req "s"] resolve,
    method "load_params"
      { params := [req "package", req "configfile", opt "subdir"],
        kwonly := [opt "node_or_namespace"] } loadParams,
    ⟨"node", some nodeSignature, fun b => return nodeValue (← node b)⟩,
    ⟨"component", some componentSignature, fun b => return nodeValue (← component b)⟩,
    method "include"
      { params := [req "package", req "launchfile", opt "subdir"],
        kwonly := [optBool "pass_launch_func_args" true], varkw := some "kwargs" }
      (includeFile runBody),
    method "ros2_launch_service"
      [optText "name" "LaunchService", opt "launchservice_args", optText "output" "screen",
        optBool "start_immediately" true] launchService,
    method "ros2_actions" { varargs := some "ros2_actions" } launchActions,
    method "run_later"
      { params := [req "delay", req "callback"], varargs := some "args", varkw := some "kwargs" }
      runLater,
    method "hello" {} hello] ++ staticMethods ++ topicMethods

/-! ## Nodes -/

/-- The parameters of a node can be asked for and changed while it runs. -/
def liveParamMethods (i : Nat) : List Method :=
  let limit := [optFloat "timeout" 5.0]
  [method "list_live_params" { kwonly := limit } (listLiveParams i),
    method "get_live_params" { varargs := some "params", kwonly := limit } (getLiveParams i),
    method "set_live_params" { params := [req "params"], kwonly := limit } (setLiveParams i),
    method "set_live_params_atomic" { params := [req "params"], kwonly := limit }
      (setLiveParamsAtomic i)]

def endMethod (i : Nat) (timeout : Param) : Method :=
  method "shutdown" [req "reason", optInt "signum" termSignal, timeout] (shutdownNode i)

def connectionMethods (i : Nat) (timeout : Param) : List Method :=
  [method "is_ros2_connected" [timeout] (isConnected i),
    method "is_lifecycle_node" [timeout] (isLifecycleNode i)]

def kindMethods (i : Nat) (n : Node) : List Method :=
  match n.kind with
  | .bare => []
  | .process p =>
    [answer "env" p.env, answer "cmd_args" p.cmdArgs, answer "isolate_env" p.isolateEnv,
      answer "node_log_level" p.logLevel, answer "use_shell" p.useShell,
      answer "max_respawns" p.maxRespawns, answer "respawn_delay" p.respawnDelay,
      answer "raw" p.raw, question "pid" (pidOf i),
      method "_on_signal" [req "signum"] (signalProcess i),
      method "_on_shutdown" {} (escalateLater i)] ++ liveParamMethods i
  | .foreign f =>
    [question "pid" (pidOf i), answer "cmd_args" f.cmdArgs,
      method "takeover" { params := [optInt "kill_after" 0], varkw := some "node_args" }
        (takeover i)] ++ liveParamMethods i
  | .component c =>
    [answer "component_id" c.componentId, answer "is_loaded" c.isLoaded,
      answer "plugin" n.executable, answer "composer" c.composer,
      method "start"
        { params := [optBool "use_intra_process_comms" true],
          varkw := some "composer_extra_params" } (startComponent i)] ++ liveParamMethods i
  | .composer c =>
    [answer "_wrapped_node" c.wrapped, question "managed_components" (managedComponents i),
      answer "language" Value.null,
      method "get_live_components" {} do return Value.list (← liveComponents i),
      method "load_component"
        { params := [req "component", optBool "use_intra_process_comms" true],
          varkw := some "composer_extra_params" } (loadComponent i),
      method "unload_component" [req "component", opt "timeout"] (unloadComponent i),
      method "start" [optFloat "service_timeout" 5.0] (startComposer i),
      endMethod i (opt "timeout")]
  | .service s =>
    [question "pid" (pidOf i), answer "launchservice_args" s.args,
      method "describe_launch_actions" {} (describeActions i),
      method "send_signal" [req "signum"] (signalService i),
      method "queue_ros2_actions" { varargs := some "actions" } (queueActions i)] ++
    connectionMethods i (opt "timeout")

/-- A node has the methods of its kind before those that all nodes have. -/
def nodeMethods (i : Nat) (n : Node) : List Method :=
  kindMethods i n ++ connectionMethods i (optFloat "timeout" 0.0) ++
  [answer "node_id" (Value.int n.id), answer "package" n.package,
    answer "executable" n.executable, answer "name" n.name, answer "namespace" n.ns,
    answer "fullname" n.fullname, question "params" (nodeParams i),
    question "_params" (nodeParams i), answer "remaps" n.remaps,
    answer "logger" (Value.ref (.logger n.logger)), question "is_running" (isRunning i),
    answer "lifecycle" (n.lifecycle.map fun _ => Value.ref (.lifecycle i)),
    method "_flat_params" {} (flatParams i), method "_ros_args" {} (graphArgs i),
    method "join" [opt "timeout"] (join i), method "start" {} (start i),
    endMethod i (optFloat "timeout" 0.0),
    method "get_published_services" {} (publishedServices i),
    method "get_published_topics" {} (publishedTopics i),
    method "get_subscribed_topics" {} (subscribedTopics i),
    method "get_info_sheet" {} (infoSheet i), method "__repr__" {} (nodeText i)]

/-! ## What else there is -/

def adoptGroup (i : Nat) : Value → Launch Unit
  | .ref (.group c) => addChild i c
  | _ => silent .noAttribute

def groupsAbove (i : Nat) : Launch Value := do
  let groups := (← get).groups
  return groupValues (groupChain groups groups.size i)

def groupMethods (i : Nat) (g : Group) : List Method :=
  [method "assemble_namespace" {} (namespaceOf i), method "__repr__" {} (namespaceOf i),
    answer "namespace" g.ns, answer "parent" (g.parent.map groupValue),
    answer "children" (Value.map (g.children.map fun (k, c) => (.str k, groupValue c))),
    answer "nodes" g.nodes, method "add_node" [req "node"] (addNode i),
    method "add_child" [req "child"] (adoptGroup i),
    method "_get_chain_from_root" [optBool "include_root" false] fun _ : Value =>
      groupsAbove i]

def bridgeMethods (b : Gazebo.Bridge) : List Method :=
  [answer "topic" b.topic, answer "ros2_type" b.graphType, answer "direction" b.direction,
    answer "gazebo_type" b.simType, answer "is_image_bridge" b.isImage, answer "remaps" b.remaps,
    method "__repr__" {} (pure b.text : Launch String)]

def promiseMethods (i : Nat) : List Method :=
  [method "cancel" {} (cancelPromise i),
    method "cancelled" {} do return (← getPromise i).state == PromiseState.cancelled,
    method "running" {} (pure false : Launch Bool),
    method "done" {} do return (← getPromise i).state != PromiseState.pending,
    method "result" [opt "timeout"] (promiseResult i),
    method "exception" [opt "timeout"] (promiseFailure i)]

def replyMessage (i : Nat) (_ : Value) : Launch (Option Value) := do
  return (← get).replies[i]?.map fun r => .ref (.message r.message)

def replyMethods (i : Nat) : List Method :=
  [method "done" {} (replyDone i), method "cancelled" {} (pure false : Launch Bool),
    method "result" [opt "timeout"] (replyMessage i)]

def lifecycleMethods (i : Nat) : List Method :=
  [question "current_stage" do
      match (← getLifecycle i).stage with
      | some s => return Value.ref (.stage s)
      | none => return Value.int (-1),
    question "ros_state" do return Value.int (← getLifecycle i).state,
    method "transition" [req "target_stage"] (transition i)]

def adapterMethods : List Method :=
  [method "start" {} do
      if (← getLauncher).adapterRunning then
        told .runtime "Cannot start a ROS adapter that is already running"
      useAdapter,
    method "shutdown" {} stopAdapter, answer "ros_node" (Value.ref .graphNode)]

def methodsOf (runBody : RunBody) : Ref → Launch (List Method)
  | .launcher => return launcherMethods runBody (← getLauncher)
  | .node i => return nodeMethods i (← getNode i)
  | .group i => return groupMethods i (← getGroup i)
  | .bridge i => return (((← get).bridges[i]?).map bridgeMethods).getD []
  | .promise i => return promiseMethods i
  | .reply i => return replyMethods i
  | .lifecycle i => return lifecycleMethods i
  | .adapter => return adapterMethods
  | .stage s => return [answer "name" s.name, answer "value" (Value.int s.rank)]
  | .process p => return [answer "pid" (Value.int p)]
  | _ => return []

/-! ## Functions -/

def processValues (ps : List Int) : Value := .list (ps.map fun p => .ref (.process p))

def describeArgs (process node : Value) : Launch Value := do
  let a ← parseProcessArgs (← processOf process) node
  return .tuple [.str a.ns, .str a.name, .map a.params, .map a.remaps, .list a.others]

def describePackage : Value → Launch Value
  | .str path => do
    match ← packageForPath path with
    | some (name, place) => return .tuple [name, .str place]
    | none => return .tuple [.null, .null]
  | _ => silent .wrongType

def processFunctions : List Method :=
  [method "find_process_for_node" [req "namespace", req "name"] fun ns name => do
      return processValues (← processesOfNode ns name),
    method "find_ros2_node_processes" {} do return processValues (← nodeProcesses),
    method "parse_process_args" [req "process", opt "node"] describeArgs,
    method "get_package_for_path" [req "path"] describePackage,
    method "find_foreign_nodes" {} do
      let _ ← foreignNodes
      return Value.ref (.other "filter")]

def nodeFunctions : List Method :=
  let file (kind : String) : List Param := [opt "package", opt kind, opt "subdir"]
  [method "rviz" { params := file "configfile", kwonly := [opt "extra_args"] } rviz,
    method "read_robot_description"
      { params := file "description_file", kwonly := [opt "xacro_args"] } readDescription,
    method "joint_state_publisher"
      { params := [req "use_gui", opt "node_name"], varkw := some "kwargs" } jointStatePublisher,
    method "robot_state_publisher"
      { params := file "description_file", kwonly := [opt "xacro_args", opt "node_name"],
        varkw := some "kwargs" } robotStatePublisher,
    method "static_transform_publisher"
      [req "parent_frame", req "child_frame", opt "pos", opt "rot"] staticTransform,
    method "spawn_controller" [req "controller", optText "manager" "controller_manager"]
      spawnController]

def axesArgs (x y z yaw pitch roll : Value) : Launch Value :=
  return .record [("x", x), ("y", y), ("z", z), ("Y", yaw), ("P", pitch), ("R", roll)]

def simulatorFunctions (runBody : RunBody) : List Method :=
  [method "get_gazebo_version" {} simVersion, method "get_gazebo_exec" {} simExecutable,
    method "gazebo_launch"
      [req "package", req "world_file", opt "gz_args", opt "world_save_file",
        optFloat "save_after" 10.0] (simLaunch (includeFile runBody · · .null true ·)),
    method "save_world" [req "filepath", optFloat "after" 5.0] saveWorld,
    method "get_active_world_name" [optBool "force_query" false] worldName,
    method "get_model_prefix" [req "model"] modelPlace,
    method "get_model_topic" [req "model", req "topic"] modelTopic,
    method "get_gazebo_axes_args"
      (["x", "y", "z", "yaw", "pitch", "roll"].map fun n => optFloat n 0.0) axesArgs,
    method "spawn_model"
      [req "model_name", req "model", optText "model_source" "auto", opt "spawn_args"] spawnModel,
    method "spawn_world_transform" [opt "gazebo_world_frame"] spawnWorldTransform,
    method "spawn_topic_bridge"
      { varargs := some "topics",
        kwonly := [optText "node_name" "gz_bridge", opt "remaps", opt "cmd_args"],
        varkw := some "kwargs" } spawnTopicBridge,
    method "spawn_image_bridge"
      { varargs := some "topics",
        kwonly := [optText "node_name" "img_bridge", opt "remaps", opt "cmd_args",
          optText "qos" "sensor_data"],
        varkw := some "kwargs" } spawnImageBridge]

def makeGroup (parent ns : Value) : Launch Value := do
  let parent ← match parent with
    | .null => pure none
    | .ref (.group g) => pure (some g)
    | _ => silent .noAttribute
  return groupValue (← newGroup parent (← textOf ns))

def constructors : List Method :=
  [⟨"Node", some newNodeSignature, fun b => return nodeValue (← newProcessNode b (b.get "namespace"))⟩,
    method "AbstractNode"
      { params := [req "package", req "executable", req "name", req "namespace", opt "remaps",
          opt "params"], kwonly := [optText "output" "screen"] } (newNode · · · · · · · .bare),
    method "Group" [req "parent", req "namespace"] makeGroup,
    method "Component"
      { params := [req "composer", req "package", req "plugin", req "name", req "namespace"],
        kwonly := [optText "output" "screen", opt "remaps", opt "params"] } newComponent,
    method "Composer"
      { params := [req "wrapped_node"],
        kwonly := [opt "component_remaps", optText "output" "screen"] } newComposer,
    method "ForeignNode"
      { params := [req "process", req "package", req "name", req "namespace"],
        kwonly := [opt "remaps", opt "params", opt "cmd_args", optText "output" "screen"] }
      newForeignNode,
    ⟨"GazeboBridge", some
      { params := [req "topic", opt "ros2_type", optText "direction" "bidirectional",
          opt "gazebo_type"], kwonly := [opt "remaps"] }, newBridge⟩]

def findPath (start goal : Value) : Launch Value := do
  return .list ((← lift (Lifecycle.findPathOf start goal)).map .int)

def currentInstance : Launch (Option Value) := do
  return (← get).launcher.map fun _ => .ref .launcher

def awaitInstance (_ : Value) : Launch Value := do
  match ← currentInstance with
  | some v => return v
  | none => silent .timedOut

/-- The functions of a module or a class, by its name. Constructors are in none. -/
def functionsOf (runBody : RunBody) : String → List Method
  | "BetterLaunch" =>
    [method "instance" {} currentInstance,
      method "wait_for_instance" [opt "timeout"] awaitInstance] ++ staticMethods
  | "Composer" => [method "is_composer" [req "node", optFloat "timeout" 0.0] isComposer]
  | "ForeignNode" => [method "wrap_process" [req "process"] wrapProcess]
  | "LifecycleManager" =>
    [method "is_lifecycle" [req "node", opt "timeout"] isManaged,
      method "find_transition_path" [req "start_ros_state", req "goal_ros_state"] findPath]
  | "GazeboBridge" =>
    [method "clock_bridge" {} clockBridge, method "joint_state_bridge" [req "model"] jointStateBridge,
      method "from_string" [req "bridge", opt "remaps"] fun b (_ : Value) => bridgeFromText b]
  | "convenience" => nodeFunctions
  | "foreign" => processFunctions
  | "gazebo" => simulatorFunctions runBody
  | "" => constructors
  | _ => []

def methodNamed (name : String) (methods : List Method) : Launch Method :=
  match methods.find? (·.name == name) with
  | some m => pure m
  | none => silent .noAttribute

def callWithArgs (m : Method) (positional : List Value) (named : Named) : Launch Value := do
  match m.takes with
  | none => m.run ⟨[]⟩
  | some sig => m.run (← bindArgs sig positional named)

def callMethod (runBody : RunBody) (target : Value) (name : String)
    (positional : List Value) (named : Named) : Launch Value := do
  match target with
  | .ref r =>
    let m ← methodNamed name (← methodsOf runBody r)
    if m.takes.isSome && named.any (·.1 == "self") then silent .wrongType
    callWithArgs m positional named
  | _ => silent .noAttribute

def callStatic (runBody : RunBody) (owner name : String)
    (positional : List Value) (named : Named) : Launch Value := do
  callWithArgs (← methodNamed name (functionsOf runBody owner)) positional named

def noBody : RunBody := fun _ => silent .recursion

/-- What is found in a thing under a name: an answer, or the method itself. -/
def lookUp (target : Value) (name : String) : Launch Value := do
  match target with
  | .ref r =>
    let m ← methodNamed name (← methodsOf noBody r)
    if m.takes.isSome then return .ref (.other "method") else m.run ⟨[]⟩
  | _ => silent .noAttribute

end Launch

end Launchpad
