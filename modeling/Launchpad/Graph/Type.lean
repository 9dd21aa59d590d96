import Launchpad.Fault

/-!
The message, service and action types that a launch knows, with the fields of their messages and
the values that these have when nothing else is said.
-/

namespace Launchpad.Graph

inductive Form where
  | message (fields : Named)
  | service (request response : Named)
  | action

def falseField (k : String) : String × Value := (k, .bool false)
def trueField (k : String) : String × Value := (k, .bool true)
def textField (k : String) : String × Value := (k, .str "")
def intField (k : String) (n : Int := 0) : String × Value := (k, .int n)
def listField (k : String) : String × Value := (k, .list [])

def transitionField (n : Int) : String × Value :=
  ("transition", .record [("id", .int n)])

def types : List (String × String × Form) :=
  [("std_msgs/msg", "String", .message [textField "data"]),
    ("std_msgs/msg", "Int32", .message [intField "data"]),
    ("std_srvs/srv", "Trigger", .service [] [falseField "success", textField "message"]),
    ("std_srvs/srv", "SetBool",
      .service [falseField "data"] [falseField "success", textField "message"]),
    ("example_interfaces/action", "Fibonacci", .action),
    ("lifecycle_msgs/msg", "TransitionEvent", .message []),
    ("lifecycle_msgs/msg", "State", .message [intField "id", textField "label"]),
    ("lifecycle_msgs/msg", "Transition", .message [intField "id", textField "label"]),
    ("lifecycle_msgs/srv", "ChangeState", .service [transitionField 0] [trueField "success"]),
    ("composition_interfaces/srv", "LoadNode",
      .service [textField "package_name", textField "plugin_name", textField "node_name",
          textField "node_namespace", listField "remap_rules", listField "parameters",
          listField "extra_arguments"]
        [trueField "success", textField "full_node_name", intField "unique_id" 1,
          textField "error_message"]),
    ("composition_interfaces/srv", "UnloadNode",
      .service [intField "unique_id"] [trueField "success", textField "error_message"]),
    ("composition_interfaces/srv", "ListNodes",
      .service [] [listField "unique_ids", listField "full_node_names"]),
    ("rcl_interfaces/srv", "ListParameters", .service [] [listField "names"]),
    ("rcl_interfaces/srv", "GetParameters", .service [listField "names"] [listField "values"]),
    ("rcl_interfaces/srv", "SetParameters",
      .service [listField "parameters"] [listField "results"]),
    ("rcl_interfaces/srv", "SetParametersAtomically",
      .service [listField "parameters"] [trueField "successful"]),
    ("rcl_interfaces/msg", "ParameterType", .message []),
    ("rcl_interfaces/msg", "Parameter", .message []),
    ("rcl_interfaces/msg", "ParameterValue", .message [])]

def form? (name : String) : Option Form :=
  (types.find? fun (m, n, _) => m ++ "/" ++ n == name).map (·.2.2)

def isModule (path : String) : Bool :=
  types.any fun (m, _, _) => m == path || Text.startsWith m (path ++ "/")

/-- The type that a text names: the path of its module, a slash, and its name. Dots and slashes
in the path mean the same. -/
def findType (text : String) : Try String :=
  match Text.cutLast? text "/" with
  | none => fails .invalidValue
  | some (path, name) =>
    let path := Text.replace path "." "/"
    if path == "" then fails .invalidValue
    else if Text.startsWith path "/" then fails .wrongType
    else if !isModule path then fails .moduleNotFound
    else if (form? (path ++ "/" ++ name)).isSome then .ok (path ++ "/" ++ name)
    else fails .noAttribute

def setField (fs : Named) (k : String) (v : Value) : Named :=
  if (fs.lookup k).isSome then fs.map fun (k', v') => if k' == k then (k, v) else (k', v')
  else fs ++ [(k, v)]

def construct (defaults given : Named) : Try Named :=
  let unknown := (given.map (·.1)).filter fun k => (defaults.lookup k).isNone
  if unknown.isEmpty then .ok (given.foldl (fun fs (k, v) => setField fs k v) defaults)
  else
    let names := unknown.mergeSort fun a b => !(b < a)
    .error (.told .assertion
      ("Invalid arguments passed to constructor: " ++ ", ".intercalate names))

def parameterType? : Value → Option Int
  | .null => some 0
  | .bool _ => some 1
  | .int _ => some 2
  | .float _ => some 3
  | .str _ => some 4
  | .list vs | .tuple vs =>
    if vs.all fun v => v matches .bool _ then some 6
    else if vs.all fun v => v matches .int _ then some 7
    else if vs.all fun v => v matches .float _ then some 8
    else if vs.all fun v => v matches .str _ then some 9
    else none
  | _ => none

def parameter (name : Value) (v : Value) : Try Value :=
  match parameterType? v with
  | some t => .ok (.record [("name", name), ("type", .int t), ("value", v)])
  | none => .error (.told .wrongType "The given value is not one of the allowed types")

end Launchpad.Graph
