import Launchpad.Session.Groups

/-!
What a session tells about its values: references are replaced by what they stand for.
-/

namespace Launchpad

def Ref.kindName (s : Session) : Ref → String
  | .launcher => "BetterLaunch"
  | .node i => (s.nodes[i]?.map Node.kindName).getD "object"
  | .group _ => "Group"
  | .lifecycle _ => "LifecycleManager"
  | .stage _ => "LifecycleStage"
  | .process _ => "Process"
  | .callback _ => "function"
  | .promise _ => "Future"
  | .reply _ => "Future"
  | .bridge _ => "GazeboBridge"
  | .entity i => (s.entities[i]?.map Entity.kind).getD "object"
  | .message i => (s.messages[i]?.map Message.typeName).getD "object"
  | .messageType n => n
  | .endpoint _ => "Endpoint"
  | .client _ => "Client"
  | .actionServer _ => "ActionServer"
  | .actionClient _ => "ActionClient"
  | .graphNode => "RosNode"
  | .adapter => "ROSAdapter"
  | .logger _ => "LaunchLogger"
  | .type n => n
  | .function _ => "builtin_function_or_method"
  | .thing kind _ _ => kind
  | .other k => k

def Value.setLe (a b : Value) : Bool :=
  match a, b with
  | .str x, .str y => !(y < x)
  | .int x, .int y => x ≤ y
  | .float x, .float y => x ≤ y
  | .int _, .str _ => true
  | .str _, .int _ => false
  | a, b => !(b.literal Value.plainRef < a.literal Value.plainRef)

mutual

def Value.report (ref : Ref → Report) (plain : Bool) : Value → Report
  | .null => .null
  | .bool b => .bool b
  | .int n => .int n
  | .float x => .float x
  | .complex _ _ => .kind "complex"
  | .str s => .str s
  | .bytes _ => .kind "bytes"
  | .list xs => .list (reports ref plain xs)
  | .tuple xs => .list (reports ref plain xs)
  | .set xs => .set (reports ref plain xs)
  | .frozen xs => .set (reports ref plain xs)
  | .map es =>
    if plain then .record (fieldReports ref es) else .map (entryReports ref es)
  | .date d => .date d
  | .moment t => .moment t
  | .ref r => ref r

def Value.reports (ref : Ref → Report) (plain : Bool) : List Value → List Report
  | [] => []
  | x :: xs => x.report ref plain :: reports ref plain xs

def Value.entryReports (ref : Ref → Report) : List (Value × Value) → List (Report × Report)
  | [] => []
  | (k, v) :: es => (k.report ref false, v.report ref false) :: entryReports ref es

def Value.fieldReports (ref : Ref → Report) : List (Value × Value) → List (String × Report)
  | [] => []
  | (k, v) :: es =>
    (k.display Value.plainRef, v.report ref true) :: fieldReports ref es

end

mutual

def Value.sortSets : Value → Value
  | .list xs => .list (sortSetsAll xs)
  | .tuple xs => .tuple (sortSetsAll xs)
  | .set xs => .set (xs.mergeSort Value.setLe)
  | .frozen xs => .frozen (xs.mergeSort Value.setLe)
  | .map es => .map (sortSetsEntries es)
  | v => v

def Value.sortSetsAll : List Value → List Value
  | [] => []
  | x :: xs => x.sortSets :: sortSetsAll xs

def Value.sortSetsEntries : List (Value × Value) → List (Value × Value)
  | [] => []
  | (k, v) :: es => (k.sortSets, v.sortSets) :: sortSetsEntries es

end

def Session.refReport (s : Session) : Nat → Ref → Report
  | 0, r => .kind (r.kindName s)
  | n + 1, r =>
    let value (v : Value) : Report := v.sortSets.report (s.refReport n) false
    match r with
    | .node i => match s.nodes[i]? with
      | some d => .node d.fullname d.kindName d.id
      | none => .kind "object"
    | .group i => .group (groupNamespace s.groups i)
    | .stage st => .stage st
    | .lifecycle i => match s.nodes[i]?.bind Node.lifecycle with
      | some l => .lifecycle l.stage l.state
      | none => .kind "LifecycleManager"
    | .process p => .process p
    | .bridge i => match s.bridges[i]? with
      | some b => .bridge b.text b.isImage (value b.remaps)
      | none => .kind "GazeboBridge"
    | .promise i => match s.promises[i]? with
      | some p => match p.state, p.failure with
        | .failed, some f => .promise .failed (.failure f.cause (detail n f.detail))
        | st, _ => .promise st (value p.value)
      | none => .kind "Future"
    | .reply _ => .reply
    | .message i => match s.messages[i]? with
      | some m => .message (m.fields.map fun (k, v) => (k, value v))
      | none => .kind "object"
    | r => .kind (r.kindName s)
where
  detail (n : Nat) : Detail → Option Report
    | .silent => none
    | .text t => some (.str t)
    | .args vs => some (.list (vs.map fun v => v.sortSets.report (s.refReport n) false))

def Session.report (s : Session) (v : Value) : Report :=
  v.sortSets.report (s.refReport 6) false

def Session.plainReport (s : Session) (v : Value) : Report :=
  v.sortSets.report (s.refReport 6) true

def Session.detailReport (s : Session) : Detail → Option Report
  | .silent => none
  | .text t => some (.str t)
  | .args vs => some (.list (vs.map s.report))

def Session.outcome (s : Session) : Try Value → Outcome
  | .ok v => .ok (s.report v)
  | .error (.fault f) => .fault f.cause (s.detailReport f.detail)
  | .error (.exit c) => .exit c

namespace Launch

def reportOf (v : Value) : Launch Report := do
  return (← get).report v

def plainReportOf (v : Value) : Launch Report := do
  return (← get).plainReport v

def kindOf (v : Value) : Launch String := do
  match v with
  | .ref (.type _) => return "type"
  | .ref r => return r.kindName (← get)
  | v => return v.typeName

def display (v : Value) : Launch String := do
  match v with
  | .ref (.node i) => match (← get).nodes[i]? with
    | some n => return "AbstractNode " ++ n.fullname
    | none => return "None"
  | .ref (.group i) => namespaceOf i
  | v => return v.display Value.plainRef

end Launch

end Launchpad
