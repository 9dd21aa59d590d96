import Launchpad.Menu
import Launchpad.Log.Level
import Launchpad.Text.Case

/-!
The terminal: a footer line below the log, with a menu in it that changes with the mode, and a
search field. Which keys do something depends on the mode alone, for digits also on the number of
items.
-/

namespace Launchpad

inductive Mode where
  | standard | confirmExit | searchNode | nodeMenu | nodeInfo | nodeLifecycle
  | confirmTakeover | confirmRestart | confirmKill | logLevel
deriving DecidableEq, Repr

namespace Mode

def name : Mode → String
  | .standard => "STANDARD"
  | .confirmExit => "CONFIRM_EXIT"
  | .searchNode => "SEARCH_NODE"
  | .nodeMenu => "NODE_MENU"
  | .nodeInfo => "NODE_INFO"
  | .nodeLifecycle => "NODE_LIFECYCLE"
  | .confirmTakeover => "CONFIRM_NODE_TAKEOVER"
  | .confirmRestart => "CONFIRM_NODE_RESTART"
  | .confirmKill => "CONFIRM_NODE_KILL"
  | .logLevel => "LOG_LEVEL"

def showsFooter (m : Mode) : Bool := m != .searchNode
def showsSearch (m : Mode) : Bool := m == .searchNode
def showsMenu (m : Mode) : Bool := m != .standard && m != .nodeInfo

end Mode

/-- A level of the screen that can be chosen, and the style in which it is offered. -/
structure ScreenLevel where
  name : String
  level : Int
  style : String
deriving DecidableEq, Repr

namespace ScreenLevel

def info : ScreenLevel := ⟨"INFO", Log.info, "ansibrightgreen"⟩
def warning : ScreenLevel := ⟨"WARNING", Log.warning, "yellow"⟩
def error : ScreenLevel := ⟨"ERROR", Log.error, "ansibrightred"⟩
def critical : ScreenLevel := ⟨"CRITICAL", Log.critical, "ansibrightmagenta"⟩
def debug : ScreenLevel := ⟨"DEBUG", Log.debug, "ansibrightblue"⟩
def mute : ScreenLevel := ⟨"MUTE", Log.mute, "grey"⟩

def all : List ScreenLevel := [info, warning, error, critical, debug, mute]

def ofName? (s : String) : Option ScreenLevel :=
  all.find? (·.name == s)

end ScreenLevel

/-- What the footer says: the keys that may be pressed, or a text. -/
inductive Footer where
  | keys
  | text (s : String)
deriving DecidableEq, Repr

namespace Footer

def keyText : String :=
  " <orange>^C</orange> Quit  <orange>space</orange> Mute  " ++
    "<orange>F1</orange> Nodes  <orange>F9</orange> Log Level"

end Footer

inductive Key where
  | interrupt | space | f1 | f9 | escape | enter | tab | backTab
  | digit (k : Nat)
deriving DecidableEq, Repr

namespace Key

def ofName? (s : String) : Option Key :=
  match s with
  | "c-c" => some .interrupt
  | "space" => some .space
  | "f1" => some .f1
  | "f9" => some .f9
  | "escape" => some .escape
  | "enter" => some .enter
  | "tab" => some .tab
  | "s-tab" => some .backTab
  | _ => match s.toList with
    | [c] => if c.isDigit then some (.digit (c.toNat - '0'.toNat)) else none
    | _ => none

end Key

/-- The terminal. What is typed goes to the search field as long as `typing` holds. -/
structure Terminal where
  manageForeign : Bool := false
  keepAlive : Bool := false
  columns : Nat := 80
  mode : Mode := .standard
  footer : Footer := .keys
  menu : Menu := {}
  nodes : List Nat := []
  selected : Value := .null
  level : ScreenLevel := .info
  prevLevel : ScreenLevel := .mute
  muted : Bool := false
  search : String := ""
  typing : Bool := false

namespace Terminal

def binds (t : Terminal) : Key → Bool
  | .interrupt => true
  | .space => !t.mode.showsSearch
  | .f1 | .f9 => t.mode == .standard
  | .escape | .enter | .tab | .backTab => t.mode.showsMenu
  | .digit k => t.mode.showsMenu && !t.mode.showsSearch && t.menu.items.size?.any fun n => decide (k < n)

def digitItem : Int := 8

def setLevel (t : Terminal) (l : ScreenLevel) : Terminal :=
  { t with prevLevel := t.level, level := l }

def toggleMute (t : Terminal) : Terminal :=
  let muted := !t.muted
  { t.setLevel (if muted then .mute else t.prevLevel) with muted }

def bar (t : Terminal) : String :=
  "\n" ++ String.ofList (List.replicate t.columns '=') ++ "\n"

end Terminal

end Launchpad
