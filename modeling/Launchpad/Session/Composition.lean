import Launchpad.Session.Managed
import Launchpad.Session.Foreign
import Launchpad.Session.Service

/-!
Composition: a composer is a node around another node whose process takes components, and a
component is a node that lives in such a process. Starting, waiting and ending go to the wrapped
node, so that these operations are defined here for all kinds of nodes.
-/

namespace Launchpad.Launch

def getComponent (i : Nat) : Launch ComponentNode := do
  match (← getNode i).kind with
  | .component c => return c
  | _ => silent .noAttribute

def modifyComponent (i : Nat) (f : ComponentNode → ComponentNode) : Launch Unit :=
  modifyNode i fun n => match n.kind with
    | .component c => { n with kind := .component (f c) }
    | _ => n

def getComposer (i : Nat) : Launch ComposerNode := do
  match (← getNode i).kind with
  | .composer c => return c
  | _ => silent .noAttribute

def modifyComposer (i : Nat) (f : ComposerNode → ComposerNode) : Launch Unit :=
  modifyNode i fun n => match n.kind with
    | .composer c => { n with kind := .composer (f c) }
    | _ => n

def nodeValue (i : Nat) : Value := .ref (.node i)

def nodeValues (is : List Nat) : Value := .list (is.map nodeValue)

def nodeOf (v : Value) : Launch Nat := do
  match v with
  | .ref (.node i) => return i
  | _ => silent .noAttribute

def isComposer (i : Nat) (timeout : Value) : Launch Bool :=
  offers i "/_container/load_node" "composition_interfaces/srv/LoadNode" timeout

def newComposer (wrapped : Nat) (remaps output : Value) : Launch Nat := do
  let w ← getNode wrapped
  let i ← newNode w.package w.executable (.str w.name) (.str w.ns) .null .null output
    (.composer { wrapped, remaps := orElse remaps (.map []) })
  match w.package with
  | .str _ => return i
  | _ => silent .wrongType

def newComponent (composer package plugin name ns output remaps params : Value) : Launch Nat := do
  let nsText ← textOf ns
  let c ← nodeOf composer
  if !Text.startsWith nsText (← getNode c).ns then
    told .invalidValue "Components must reside in the same namespace as their composer."
  newNode package plugin name ns remaps params output (.component { composer := c })

def managedComponents (i : Nat) : Launch (List Nat) := do
  return (← getComposer i).components.map (·.2)

def composerService (i : Nat) (name : String) : Launch String := do
  return (← getNode i).fullname ++ "/_container/" ++ name

def compositionType (name : String) : String := "composition_interfaces/srv/" ++ name

def liveComponents (i : Nat) : Launch (List Value) := do
  if !(← isRunning (← getComposer i).wrapped).truthy then return []
  let topic ← composerService i "list_nodes"
  let answer ← callWith (.str topic) (compositionType "ListNodes") [] (.float 5.0) .null
  let items (k : String) : List Value := match answer.lookup k with
    | some (.list vs) => vs
    | _ => []
  return ((items "unique_ids").zip (items "full_node_names")).map fun (a, b) => .tuple [a, b]

def serialized (what : String) (params : Launch Entries) : Launch (List Value) :=
  catchFault (do
    let es ← params
    es.mapM fun (k, v) => lift (Graph.parameter k v)) fun f =>
      told .invalidValue s!"Could not serialize {what} parameters: {f.text}"

def adoptComponent (i component : Nat) (logger : String) : Launch Unit := do
  let c ← getComponent component
  let m ← getNode component
  if c.composer != i then
    warn logger s!"Component {m.name} was created for a different Composer, updating reference"
    modifyComponent component fun c => { c with composer := i }

def requestLoad (i component : Nat) (logger : String) (intra : Value) (extra : Entries) :
    Launch Named := do
  let params ← serialized "component" (flatParams component)
  let own := (← getComposer i).remaps
  let m ← getNode component
  let remaps ← lift (do Entries.extend (← Entries.extend [] own) m.remaps)
  let rules := remaps.map fun (k, v) =>
    Value.str (k.display Value.plainRef ++ ":=" ++ v.display Value.plainRef)
  let extra := Entries.insert extra (.str "use_intra_process_comms") intra
  let extra ← serialized "extra" (pure extra)
  info logger s!"Loading component {m.name}"
  let topic ← composerService i "load_node"
  callWith (.str topic) (compositionType "LoadNode")
    [("package_name", m.package), ("plugin_name", m.executable), ("node_name", .str m.name),
      ("node_namespace", .str m.ns), ("remap_rules", .list rules), ("parameters", .list params),
      ("extra_arguments", .list extra)] (.float 5.0) .null

def takeName (component : Nat) (full : Value) : Launch Unit := do
  if full.truthy then
    match full with
    | .str s => match Text.cutLast? s "/" with
      | some (ns, name) => modifyNode component fun n => { n with ns, name }
      | none => silent .invalidValue
    | _ => silent .noAttribute

def enterComponent (i component : Nat) (cid : Value) : Launch Unit := do
  modifyComponent component (·.assigned cid)
  unless cid.isKey do silent .wrongType
  modifyComposer i fun c => { c with
    components := if c.components.any fun e => e.1.alike cid then
        c.components.map fun e => if e.1.alike cid then (e.1, component) else e
      else c.components ++ [(cid, component)] }

def loadComponent (i : Nat) (component intra : Value) (extra : Entries) : Launch Value := do
  let n ← getNode i
  if !(← isRunning i).truthy then
    error n.logger "Cannot load components into stopped composer"
    return .int (-1)
  let component ← nodeOf component
  if (← isRunning component).truthy then
    error n.logger "Cannot load an already running component"
    return .int (-1)
  adoptComponent i component n.logger
  let answer ← requestLoad i component n.logger intra extra
  let field (k : String) : Value := (answer.lookup k).getD .null
  if (field "success").truthy then
    takeName component (field "full_node_name")
    let cid := field "unique_id"
    enterComponent i component cid
    return cid
  else
    let why := field "error_message"
    error n.logger s!"Loading component {← nodeText component} failed: {← display why}"
    throw (.fault ⟨.runtime, ← display why, match why with
      | .str s => .text s
      | v => .args [v]⟩)

def awaitReply (reply : Nat) : Nat → Launch Unit
  | 0 => throw (Stop.bare .endless)
  | n + 1 => do
    if ← replyDone reply then return
    sleepOn 0.05
    awaitReply reply n

def awaitReplyWithin (reply : Nat) (timeout start : Float) : Nat → Launch Bool
  | 0 => return false
  | n + 1 => do
    if (← now) - start < timeout then
      if ← replyDone reply then return true
      sleep 0.05
      awaitReplyWithin reply timeout start n
    else return false

def replyFields (reply : Nat) : Launch Named := do
  let s ← get
  match (s.replies[reply]?).bind fun r => s.messages[r.message]? with
  | some m => return m.fields
  | none => silent .noAttribute

def replyRounds (reply : Nat) : Launch Nat := do
  let s ← get
  let ready := ((s.replies[reply]?).map Reply.ready).getD 0
  return (ready - s.world.clock).toNat / 50 + 5

def componentNumber (component : Value) : Launch (Value × Option Nat) := do
  match component with
  | .ref (.node j) =>
    match (← getNode j).kind with
    | .component c => return (c.componentId, some j)
    | _ => return (component, none)
  | v => return (v, none)

def componentName (i : Nat) (cid : Value) : Launch String := do
  match (← getComposer i).components.find? fun e => e.1.alike cid with
  | some (_, j) => return (← getNode j).name
  | none =>
    let live ← liveComponents i
    display (← lift (Value.item (.list live) cid))

def awaitUnload (reply : Nat) (timeout : Value) : Launch Unit := do
  match timeout with
  | .null => awaitReply reply (longestWait / 50 + 2)
  | v =>
    let t ← seconds v
    let rounds := (← replyRounds reply) + (← waitRounds v) * 2
    if !(← awaitReplyWithin reply t (← now) rounds) then
      told .timedOut "Component did not unload within the specified timeout"

def forgetComponent (i : Nat) (cid : Value) (node : Option Nat) : Launch Unit := do
  match node with
  | some j => modifyComponent j (·.released)
  | none => pure ()
  modifyComposer i fun c => { c with
    components := c.components.filter fun e => !(e.1.alike cid) }

def unloadComponent (i : Nat) (component timeout : Value) : Launch Bool := do
  if !(← isRunning i).truthy then
    told .invalidValue "Cannot unload components from stopped composer"
  let n ← getNode i
  let (cid, node) ← componentNumber component
  unless cid.isKey do silent .wrongType
  let cname ← componentName i cid
  warn n.logger s!"Unloading component {← display cid} ({cname})"
  let topic ← composerService i "unload_node"
  let reply ← callAsync (.str topic) (compositionType "UnloadNode") [("unique_id", cid)]
    (.float 5.0) .null
  if timeout == .int 0 then return true
  awaitUnload reply timeout
  let answer ← replyFields reply
  if ((answer.lookup "success").getD .null).truthy then
    forgetComponent i cid node
    return true
  else
    let why ← display ((answer.lookup "error_message").getD .null)
    error n.logger s!"Unloading component {← display cid} ({cname}) failed: {why}"
    return false

def startComponent (i : Nat) (intra : Value) (extra : Entries) : Launch Unit := do
  let c ← getComponent i
  let _ ← getComposer c.composer
  if (Entries.getText? extra "component").isSome then silent .wrongType
  let cid ← loadComponent c.composer (nodeValue i) intra extra
  modifyComponent i (·.assigned cid)

def requestUnload (i : Nat) (c : ComponentNode) (reason timeout : Value) : Launch Bool := do
  let n ← getNode i
  warn n.logger s!"Unloading component {n.name}: {← display reason}"
  unloadComponent c.composer (nodeValue i) timeout

def shutdownComponent (i : Nat) (reason timeout : Value) : Launch Unit := do
  let c ← getComponent i
  if c.isLoaded then
    let _ ← requestUnload i c reason timeout
    modifyComponent i (·.released)

def notImplemented {α : Type} : Launch α := throw (Stop.bare .notImplemented)

def unlessImplemented (x : Launch Unit) : Launch Unit :=
  catchFault x fun f => if f.cause == .notImplemented then pure () else throw (.fault f)

def joinWith (timeout : Value) : Nat → Nat → Launch Value
  | 0, _ => silent .recursion
  | fuel + 1, i => do
    match (← getNode i).kind with
    | .bare => notImplemented
    | .process _ =>
      joinProcess i timeout
      return .null
    | .foreign _ => joinForeign i timeout
    | .component c =>
      match c.terminated, timeout with
      | true, _ | _, .null => return .null
      | false, v =>
        pause v
        return .null
    | .composer c =>
      let _ ← joinWith timeout fuel c.wrapped
      return .null
    | .service _ =>
      joinService i timeout
      return .null

def join (i : Nat) (timeout : Value) : Launch Value := do
  joinWith timeout ((← get).nodes.size + 1) i

def awaitComposerServices (i : Nat) (timeout : Value) : Launch Unit := do
  if timeout == .int 0 || timeout matches .null then return
  [("list_nodes", "ListNodes"), ("load_node", "LoadNode"), ("unload_node", "UnloadNode")].forM
    fun (topic, type) => do
      let name ← composerService i topic
      let _ ← serviceClient (.str name) (compositionType type) timeout .null
      noteCall (.destroyed (.str name))

def startWith : Nat → Nat → Launch Unit
  | 0, _ => silent .recursion
  | fuel + 1, i => do
    match (← getNode i).kind with
    | .bare => notImplemented
    | .process _ => startProcess i
    | .foreign _ => startForeign i
    | .component _ => startComponent i (.bool true) []
    | .composer c =>
      unlessImplemented (startWith fuel c.wrapped)
      awaitComposerServices i (.float 5.0)
    | .service _ => startService i

def start (i : Nat) : Launch Unit := do
  startWith ((← get).nodes.size + 1) i

def startComposer (i : Nat) (timeout : Value) : Launch Unit := do
  let c ← getComposer i
  unlessImplemented (start c.wrapped)
  awaitComposerServices i timeout

def shutdownWith (reason signal : Value) : Value → Nat → Nat → Launch Unit
  | _, 0, _ => silent .recursion
  | timeout, fuel + 1, i => do
    match (← getNode i).kind with
    | .bare => notImplemented
    | .process _ => shutdownProcess i reason signal timeout
    | .foreign _ => shutdownForeign i reason signal timeout
    | .component _ => shutdownComponent i reason timeout
    | .service _ => shutdownService i reason signal timeout
    | .composer c =>
      if !(← isRunning c.wrapped).truthy then
        (← managedComponents i).forM fun j => modifyComponent j (·.unnumbered)
        return
      let logger := (← getNode i).logger
      (← managedComponents i).forM fun j =>
        catchFault (shutdownComponent j reason timeout) fun f => do
          warn logger s!"Failed to unload component {← nodeText j}: {f.text}"
      unlessImplemented (shutdownWith reason signal timeout fuel c.wrapped)

def defaultTimeout (i : Nat) : Launch Value := do
  match (← getNode i).kind with
  | .composer _ => return .null
  | _ => return .int 0

def shutdownNode (i : Nat) (reason signal timeout : Value) : Launch Unit := do
  shutdownWith reason signal timeout ((← get).nodes.size + 1) i

end Launchpad.Launch
