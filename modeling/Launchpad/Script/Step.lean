import Launchpad.Script.Params

/-!
Launch scripts: the terms by which arguments are written and the steps that are taken one after
the other.
-/

namespace Launchpad.Script

/-- Where a thing is found: what was kept under a label, and what is reached from there. -/
structure Place where
  label : String
  via : List String := []
deriving DecidableEq, Repr

inductive Term where
  | value (v : Value)
  | list (xs : List Term)
  | tuple (xs : List Term)
  | set (xs : List Term)
  | map (entries : List (String × Term))
  | kept (place : Place)
  | process (pid : Int)
  | callback (name : String) (result : Term) (failure : Option String)
  | entity (kind module : String) (props : List (String × Term)) (methods : List String)
deriving Inhabited

structure Arguments where
  positional : List Term := []
  named : List (String × Term) := []

inductive Target where
  | launcher
  | kept (place : Place)
  | function (owner : String)
deriving DecidableEq, Repr

inductive EvalMode where
  | full | literal | none
deriving DecidableEq, Repr

structure GraphEntry where
  name : String
  ns : String := ""
  types : List String := []
  since : Int := 0

/-- The answer of a service: fields, and what happens beside it. The events are the states that are
told of while the service is called. -/
structure Response where
  fields : Named := []
  events : List Int := []
  delay : Int := 0

/-- How long a process that is waited for goes on: until somebody waits who has no limit, for some
milliseconds, or for ever. -/
inductive Lifetime where
  | awaited
  | lasts (ms : Nat)
  | endless
deriving DecidableEq

structure ChildScript where
  output : List (Bool × Bool × String) := []
  exit : Int := 0
  ignore : List Int := []
  vanish : Bool := false
  deny : Option String := none
  polls : Option Nat := none
  spawnError : Bool := false
  lifetime : Lifetime := .awaited
  unread : Nat := 0
deriving Inhabited

structure ProcessEntry where
  pid : Int
  cmdline : List String := []
  running : Bool := true
  zombie : Bool := false
  denied : Bool := false
  exit : Option Int := some 0
  exitGone : Option Int := none
  ignore : List Int := []
  lifetime : Lifetime := .awaited

inductive Change where
  | addNodes (es : List GraphEntry)
  | addTopics (es : List GraphEntry)
  | addServices (es : List GraphEntry)
  | removeNodes (names : List String)
  | removeTopics (names : List String)
  | removeServices (names : List String)
  | responses (rs : List (String × List Response))
  | ended (place : Place) (code : Int)
  | advance (ms : Int)
  | env (vars : List (String × Option String))
  | scripts (ps : List (String × ChildScript))
  | processes (ps : List ProcessEntry)
  | serviceIgnores (signals : List Int)
  | serviceLost (b : Bool)
  | serviceForeign (b : Bool)
  | graphError (b : Bool)
  | adapterError (text : Option String)
  | platform (name : String)
  | commands (cs : List (String × String × Int))
  | which (ws : TextPairs)
  | packages (ps : TextPairs)

structure SentRecord where
  name : Value
  level : Value
  msg : Value

inductive Step where
  | call (target : Target) (name : String) (args : Arguments) (keep : Option String)
  | assign (place : Place) (field : String) (value : Term)
  | enterGroup (args : Arguments) (keep : Option String)
  | enterCompose (args : Arguments) (keep : Option String)
  | leave (failure : Option String)
  | describe (place : Place)
  | listGroups
  | handler (key : String) (mode : EvalMode) (args : Arguments)
  | change (cs : List Change)
  | threads (most skip : Nat)
  | transitionEvent (topic : String) (state : Int)
  | collect (place : Place) (chunks : List String) (linewise : Bool)
  | watch (place : Place) (gather : Bool)
  | pushRecords (place : Place) (records : List (Option SentRecord))
  | raiseSignal (signal : Int)
  | openTerminal (args : Arguments) (columns : Int)
  | pressKey (key : String)
  | typeText (text : String)
  | quit (reason : String)
  | menu (name : String) (args : Arguments)

end Launchpad.Script
