import Launchpad.Log.Level

/-!
Log records. A record is written by several handlers one after the other, and what one formatter
finds out about it stays with it.
-/

namespace Launchpad.Log

structure Record where
  name : Value
  level : Value
  levelName : Value
  created : Float
  msg : Value
  args : Value := .tuple []
  millis : Float := 0.0
  extra : Named := []

def millisOf (now : Float) : Float :=
  let whole := if now < 0 then now.ceil else now.floor
  Float.ofInt ((Decimal.truncate? ((now - whole) * 1000.0)).getD 0)

def argumentsOf : List Value → Value
  | [.map es] => if es.isEmpty then .tuple [.map es] else .map es
  | vs => .tuple vs

def Record.make (name : String) (level : Int) (msg : String) (created : Float)
    (args : List Value := []) : Record :=
  { name := .str name, level := .int level, levelName := .str (nameOf level), created := created,
    msg := .str msg, args := argumentsOf args, millis := millisOf created }

def Record.ofValues (name level msg args : Value) (created millis : Float) : Try Record := do
  return { name, level, levelName := ← labelOf level, created, msg, args, millis }

def Record.origin (r : Record) : Named :=
  [("pathname", .str ""), ("filename", .str ""), ("module", .str ""), ("exc_info", .null),
    ("exc_text", .null), ("stack_info", .null), ("lineno", .int 0), ("funcName", .null),
    ("msecs", .float r.millis), ("relativeCreated", .float 0.0), ("thread", .int 0),
    ("threadName", .str "MainThread"), ("process", .int 0), ("processName", .str "MainProcess")]

def Record.get? (r : Record) (key : String) : Option Value :=
  match key with
  | "name" => some r.name
  | "levelno" => some r.level
  | "levelname" => some r.levelName
  | "created" => some (.float r.created)
  | "msg" => some r.msg
  | "args" => some r.args
  | key => (r.extra.lookup key).or (r.origin.lookup key)

def setAssoc {β : Type} (k : String) (v : β) : List (String × β) → List (String × β)
  | [] => [(k, v)]
  | (k', v') :: es => if k' == k then (k, v) :: es else (k', v') :: setAssoc k v es

def Record.set (r : Record) (key : String) (v : Value) : Record :=
  match key, v with
  | "name", v => { r with name := v }
  | "levelno", v => { r with level := v }
  | "levelname", v => { r with levelName := v }
  | "created", .float x => { r with created := x }
  | "msg", v => { r with msg := v }
  | "args", v => { r with args := v }
  | key, v => { r with extra := setAssoc key v r.extra }

def Record.message (r : Record) : Try String :=
  let s := r.msg.display Value.plainRef
  if r.args.truthy then Format.renderPercent s r.args else .ok s

def Record.fields (r : Record) : Named :=
  [("name", r.name), ("msg", r.msg), ("args", r.args), ("levelname", r.levelName),
    ("levelno", r.level), ("created", .float r.created)] ++ r.extra ++ r.origin

end Launchpad.Log
