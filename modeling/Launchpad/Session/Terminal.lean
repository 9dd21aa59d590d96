import Launchpad.Markup.Style
import Launchpad.Session.Launcher

/-!
The terminal in a session: keys change its mode, and accepted menu items act on nodes.
-/

namespace Launchpad.Launch

open Script

def terminalSignature : Signature :=
  { kwonly := [optBool "manage_foreign_nodes" false, optBool "keep_alive" false,
      optInt "color_depth" 8] }

def colorDepths : List Int := [1, 4, 8, 24]

def openTerminal (positional : List Value) (named : Named) (columns : Int) : Launch Unit := do
  let b ← bindArgs terminalSignature positional named
  let depth := b.get "color_depth"
  if !depth.isKey then silent .wrongType
  if !colorDepths.any fun n => Value.same depth (.int n) then silent .unknownKey
  let t : Terminal :=
    { manageForeign := b.flag "manage_foreign_nodes", keepAlive := b.flag "keep_alive",
      columns := columns.toNat }
  modify fun s => { s with terminal := some t }

def getTerminal : Launch Terminal := do
  match (← get).terminal with
  | some t => return t
  | none => silent .noAttribute

def modifyTerminal (f : Terminal → Terminal) : Launch Unit :=
  modify fun s => { s with terminal := s.terminal.map f }

def setMenu (f : Menu → Try Menu) : Launch Unit := do
  let m ← lift (f (← getTerminal).menu)
  modifyTerminal fun t => { t with menu := m }
  emit .invalidated

def setItems (items : List Value) (place : Value := .int 0) : Launch Unit :=
  setMenu fun m => .ok (m.setItems (.list items) place)

def updateItems (items : List Value) : Launch Unit :=
  setMenu (·.updateItems (.list items))

def focus (typing : Bool) : Launch Unit := do
  modifyTerminal fun t => { t with typing }
  emit (.focused (if typing then "search" else "footer"))

def setFooter (f : Footer) : Launch Unit :=
  modifyTerminal fun t => { t with footer := f }

/-- Asks a node or the launcher for something. If it is `guarded`, whatever ends it early is passed
over, so that what is left are the faults of the terminal itself. -/
def reach {α : Type} [Inhabited α] (guarded : Bool) (x : Launch α) : Launch α :=
  if guarded then tryCatch x fun _ => pure default else x

def matchingItems (text : String) (guarded : Bool := false) : Launch (List Value) := do
  let found ← (← getTerminal).nodes.mapM fun i => do
    let n ← reach guarded (getNode i)
    if Text.contains (Text.lower n.fullname) (Text.lower text) then
      let style := if (← reach guarded (isRunning i)).truthy then "green" else "red"
      return some (Value.tuple [.str style, .str n.name, nodeValue i])
    else return none
  return found.reduceOption

def setSearch (text : String) (guarded : Bool := false) : Launch Unit := do
  if (← getTerminal).search != text then
    modifyTerminal fun t => { t with search := text }
    updateItems (← matchingItems text guarded)

def changeLevel (f : Terminal → Terminal) : Launch Unit := do
  modifyTerminal f
  let level := (← getTerminal).level.level
  let h ← screenHandler
  modify fun s => { s with log := s.log.modifyHandler h fun h => { h with level } }

def yesNo : List Value := [.str "yes", .str "no"]

def selectedName (guarded : Bool := false) : Launch String := do
  let i ← nodeOf (← getTerminal).selected
  return (← reach guarded (getNode i)).fullname

def enterNodeMenu (guarded : Bool := false) : Launch Unit := do
  let item ← lift (← getTerminal).menu.current
  let v ← lift (Value.item item (.int 2))
  modifyTerminal fun t => { t with selected := v }
  let i ← nodeOf v
  let choices ← if (← reach guarded (isRunning i)).truthy then do
      let managed := if ← reach guarded (isLifecycleNode i (.float 0.0)) then ["lifecycle"] else []
      let own := match (← reach guarded (getNode i)).kind with
        | .foreign _ => ["takeover"]
        | .component _ => ["restart", "unload"]
        | _ => ["restart", "kill"]
      pure (managed ++ own)
    else pure ["start"]
  setFooter (.text (← reach guarded (getNode i)).fullname)
  setItems (("info" :: choices).map .str)

def enterMode (mode : Mode) (guarded : Bool := false) : Launch Unit := do
  modifyTerminal fun t => { t with mode }
  match mode with
  | .standard => setFooter .keys
  | .confirmExit =>
    setFooter (.text "Shutdown nodes and quit?")
    setItems yesNo
  | .searchNode =>
    setFooter (.text "")
    let nodes ← reach guarded (allNodes true true (← getTerminal).manageForeign)
    modifyTerminal fun t => { t with nodes }
    setItems (← matchingItems "" guarded)
    setSearch "" guarded
    focus true
  | .nodeMenu => enterNodeMenu guarded
  | .nodeInfo => pure ()
  | .nodeLifecycle =>
    setFooter (.text ("Choose target state for " ++ (← selectedName guarded)))
    match (← getLifecycle (← nodeOf (← getTerminal).selected)).stage with
    | none => silent .noAttribute
    | some s =>
      setItems (Stage.all.map fun s => .str s.name) (.int (Stage.all.idxOf s))
  | .confirmTakeover =>
    setFooter (.text s!"Restart {← selectedName guarded} for takeover?")
    setItems yesNo
  | .confirmRestart =>
    setFooter (.text s!"Restart {← selectedName guarded}?")
    setItems yesNo
  | .confirmKill =>
    setFooter (.text s!"Terminate {← selectedName guarded}?")
    setItems yesNo
  | .logLevel =>
    setFooter (.text "Select log level")
    setItems (ScreenLevel.all.map fun l => .tuple [.str l.style, .str l.name])
      (.int (ScreenLevel.all.idxOf (← getTerminal).level))

def cancelMenu : Launch Unit := do
  enterMode .standard
  focus false

def printInfo (guarded : Bool := false) : Launch Unit := do
  enterMode .nodeInfo
  let t ← getTerminal
  let text ← reach guarded (infoSheet (← nodeOf t.selected))
  lift (Markup.checkStyle text)
  emit (.printed [t.bar, "\n", text, t.bar])
  cancelMenu

def quitTerminal (reason : String) (guarded : Bool := false) : Launch Unit := do
  if (← get).launcher.isSome then
    reach guarded (catchFault (shutdownAll (.str reason) (.int termSignal)) fun f =>
      write (f.text ++ "\n"))
  emit .appLeft

def acceptNodeAction (action : Value) (guarded : Bool := false) : Launch Unit := do
  match action with
  | .str "info" => printInfo guarded
  | .str "lifecycle" => enterMode .nodeLifecycle guarded
  | .str "takeover" => enterMode .confirmTakeover guarded
  | .str "restart" => enterMode .confirmRestart guarded
  | .str "kill" | .str "unload" => enterMode .confirmKill guarded
  | .str "start" =>
    reach guarded (start (← nodeOf (← getTerminal).selected))
    cancelMenu
  | _ => cancelMenu

def lookupKey {α : Type} (find : String → Option α) (v : Value) : Launch α := do
  if !v.isKey then silent .wrongType
  match v with
  | .str s => match find s with
    | some a => return a
    | none => silent .unknownKey
  | _ => silent .unknownKey

def acceptItem (guarded : Bool := false) : Launch Unit := do
  let t ← getTerminal
  let item ← lift t.menu.current
  let agreed := item == .str "yes"
  let selected : Launch Nat := nodeOf t.selected
  match t.mode with
  | .confirmExit => if agreed then quitTerminal "user request" guarded else cancelMenu
  | .searchNode => enterMode .nodeMenu guarded
  | .nodeMenu => acceptNodeAction item guarded
  | .nodeLifecycle =>
    let s ← lookupKey (fun n => Stage.all.find? (·.name == n)) item
    let i ← selected
    let _ ← reach guarded (transition i (.ref (.stage s)))
    cancelMenu
  | .confirmTakeover =>
    if agreed then
      let i ← selected
      let _ ← reach guarded (takeover i (.float 3.0) [])
    cancelMenu
  | .confirmRestart =>
    if agreed then
      let i ← selected
      reach guarded (shutdownNode i (.str "restarting node") (.int termSignal) .null)
      reach guarded (start i)
    cancelMenu
  | .confirmKill =>
    if agreed then
      let i ← selected
      let timeout ← reach guarded (defaultTimeout i)
      reach guarded (shutdownNode i (.str "terminated by user") (.int termSignal) timeout)
    cancelMenu
  | .logLevel =>
    let name ← match item with
      | .tuple _ => lift (Value.item item (.int 1))
      | v => pure v
    let l ← lookupKey ScreenLevel.ofName? name
    changeLevel (·.setLevel l)
    cancelMenu
  | _ => pure ()

def pressKey (k : Key) (guarded : Bool := false) : Launch Unit := do
  match k with
  | .interrupt => enterMode .confirmExit
  | .space => changeLevel Terminal.toggleMute
  | .f1 => enterMode .searchNode guarded
  | .f9 => enterMode .logLevel
  | .escape => enterMode .standard
  | .enter => if (← getTerminal).menu.items.truthy then acceptItem guarded else cancelMenu
  | .tab => setMenu Menu.selectNext
  | .backTab => setMenu Menu.selectPrev
  | .digit _ =>
    setMenu (·.select (.int Terminal.digitItem))
    acceptItem guarded

def pressBound (k : Key) : Launch Bool := do
  if (← getTerminal).binds k then
    pressKey k
    return true
  else return false

def press (name : String) : Launch Bool := do
  match Key.ofName? name with
  | some k => pressBound k
  | none => return false

/-- Presses a key of a keyboard: one that does nothing now is typed as text, if it is text and the
search field has the focus. -/
def strike (name : String) : Launch Unit := do
  let typed (c : Char) : Launch Unit := do
    if !(← press (String.ofList [c])) && (← getTerminal).typing then
      setSearch ((← getTerminal).search.push c)
  match name with
  | "f1" | "f9" | "tab" | "s-tab" | "enter" | "c-c" =>
    let _ ← press name
  | "space" =>
    if !(← press name) && (← getTerminal).typing then
      setSearch ((← getTerminal).search.push ' ')
  | "backspace" =>
    let t ← getTerminal
    if t.typing then setSearch (String.ofList t.search.toList.dropLast)
  | text => text.toList.forM typed

def segmentsReport (look : Value → Report) : Option (List Segment) → Report
  | none => .str Menu.emptyText
  | some ss => .list (ss.map fun s => .list [look s.style, look s.text])

def performMenu (name : String) (positional : List Value) (named : Named) : Launch Report := do
  let changed (f : Menu → Try Menu) : Launch Report := do
    setMenu f
    return .null
  let menu := (← getTerminal).menu
  match name with
  | "select_next" =>
    let _ ← bindArgs {} positional named
    changed Menu.selectNext
  | "select_prev" =>
    let _ ← bindArgs {} positional named
    changed Menu.selectPrev
  | "select" =>
    let b ← bindArgs [req "idx"] positional named
    changed (·.select (b.get "idx"))
  | "set_items" =>
    let b ← bindArgs [req "items", optInt "default" 0] positional named
    changed fun m => .ok (m.setItems (b.get "items") (b.get "default"))
  | "update_items" =>
    let b ← bindArgs [req "items"] positional named
    changed (·.updateItems (b.get "items"))
  | "get_selected_item" =>
    let _ ← bindArgs {} positional named
    reportOf (← lift menu.current)
  | "render" =>
    let _ ← bindArgs {} positional named
    modifyTerminal fun t => { t with menu := menu.drawn }
    return segmentsReport (← get).report (← lift (menu.render (← getTerminal).columns))
  | _ => silent .noAttribute

def describeTerminal (bound : Bool) : Launch Report := do
  let t ← getTerminal
  let s ← get
  let h ← screenHandler
  let level := ((← get).log.handlers[h]?.map (·.level)).getD 0
  let footer := match t.footer with
    | .keys => Report.styled Footer.keyText
    | .text s => .str s
  let fields := [("mode", .str t.mode.name), ("footer", footer),
    ("items", s.report t.menu.items),
    ("selected", s.report t.menu.selected), ("log_level", .str t.level.name),
    ("prev", .str t.prevLevel.name), ("muted", .bool t.muted), ("screen_level", .int level),
    ("node", s.report t.selected),
    ("visible", .list [.bool t.mode.showsFooter, .bool t.mode.showsSearch,
      .bool t.mode.showsMenu])]
  return .record (fields ++ if bound then [] else [("unbound", .bool true)])

end Launchpad.Launch
