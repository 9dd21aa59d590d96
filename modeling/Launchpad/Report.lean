import Launchpad.Value.Literal

/-!
Reports: what a session tells about its values, its calls to the node graph and the things it did.
A report holds no references, so it stays true when the session goes on.
-/

namespace Launchpad

inductive PromiseState where
  | pending | cancelled | done | failed
deriving DecidableEq, Repr

inductive Report where
  | null
  | bool (b : Bool)
  | int (n : Int)
  | float (x : Float)
  | str (s : String)
  | list (xs : List Report)
  | map (entries : List (Report × Report))
  | set (xs : List Report)
  | date (d : Calendar.Date)
  | moment (t : Calendar.Moment)
  | node (fullname kind : String) (id : Nat)
  | group (ns : String)
  | stage (s : Stage)
  | lifecycle (stage : Option Stage) (state : Int)
  | bridge (text : String) (image : Bool) (remaps : Report)
  | promise (state : PromiseState) (value : Report)
  | reply
  | message (fields : List (String × Report))
  | process (pid : Int)
  | kind (name : String)
  | styled (text : String)
  | failure (cause : Cause) (detail : Option Report)
  | record (fields : List (String × Report))

inductive GraphCall where
  | adapterStart
  | adapterStop
  | opened (kind : String) (topic : Report) (type : String) (qos : Report)
  | openedAction (kind : String) (topic : Report) (type : String) (qos : Report)
  | waited (kind : String) (topic : Report) (found : Bool)
  | called (asynchronous : Bool) (topic : Report) (type : String)
      (request : List (String × Report))
  | published (topic : Report) (fields : List (String × Report))
  | destroyed (topic : Report)

inductive Outcome where
  | ok (r : Report)
  | fault (cause : Cause) (detail : Option Report)
  | exit (code : Int)

mutual

inductive Event where
  | spawned (argv : List Report) (shell : Report)
      (env : Option (Bool × List (String × Report)))
  | signalled (signal : Int) (pid : Int)
  | killed (pid : Int)
  | executed (argv : List String)
  | groupSignalled (signal : Int) (pid : Int)
  | serviceStarted (name : String) (args : Report)
  | called (name : String) (args : List Report)
  | launched (path : String) (args : Report)
  | body (answers : List Answer)
  | invalidated
  | focused (what : String)
  | appLeft
  | printed (texts : List String)
  | terminal (manageForeign keepAlive : Report)

inductive Answer where
  | mk (outcome : Outcome) (out : String) (calls : List GraphCall) (events : List Event)
      (clock : Option Int) (extra : List (String × Report))

end

instance : Inhabited Event := ⟨.invalidated⟩
instance : Inhabited Answer := ⟨.mk (.ok .null) "" [] [] none []⟩

end Launchpad
