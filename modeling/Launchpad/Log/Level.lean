import Launchpad.Format.Percent

/-!
Log levels: numbers, some of which have names. The name of a message from a process may have no
number; such a level is only a text.
-/

namespace Launchpad.Log

def debug : Int := 10
def info : Int := 20
def warning : Int := 30
def error : Int := 40
def critical : Int := 50

def mute : Int := 999

def levelNames : List (Int × String) :=
  [(50, "CRITICAL"), (40, "ERROR"), (30, "WARNING"), (20, "INFO"), (10, "DEBUG"), (0, "NOTSET"),
    (999, "MUTE")]

def levelNumbers : List (String × Int) :=
  [("CRITICAL", 50), ("FATAL", 50), ("ERROR", 40), ("WARN", 30), ("WARNING", 30), ("INFO", 20),
    ("DEBUG", 10), ("NOTSET", 0), ("MUTE", 999)]

def nameOf (n : Int) : String :=
  (levelNames.lookup n).getD s!"Level {n}"

/-- What stands for a level in messages: its name. A name stands for its number, and what is
neither is written behind a word. -/
def labelOf (level : Value) : Try Value :=
  if !level.isKey then fails .wrongType
  else match levelNames.find? fun e => (Value.int e.1).same level with
    | some (_, name) => .ok (.str name)
    | none => match level with
      | .str s => match levelNumbers.lookup s with
        | some n => .ok (.int n)
        | none => .ok (.str ("Level " ++ s))
      | v => (Format.renderPercent "Level %s" v).map .str

def levelToSet : Value → Try Value
  | .int n => .ok (.int n)
  | .bool b => .ok (.bool b)
  | .str s => match levelNumbers.lookup s with
    | some n => .ok (.int n)
    | none => fails .invalidValue
  | _ => fails .wrongType

def reaches (level least : Value) : Try Bool :=
  match level.number?, least.number? with
  | some (.whole a), some (.whole b) => .ok (decide (b ≤ a))
  | some (.real x), some (.whole b) =>
    .ok (match Decimal.compareInt x b with
      | some o => o != .lt
      | none => false)
  | _, _ => fails .wrongType

end Launchpad.Log
