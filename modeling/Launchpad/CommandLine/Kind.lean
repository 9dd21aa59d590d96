import Launchpad.Expr.Eval
import Launchpad.Text.Case

/-!
Kinds of options: what a text on the command line, or a default, is turned into.
-/

namespace Launchpad.CommandLine

inductive Trouble where
  | help
  | version
  /-- The command line is wrong; `located` tells if the usage is shown beside the message. -/
  | usage (located : Bool) (message : String)
  | stop (s : Stop)

inductive Kind where
  | text
  | integer
  | number
  | truth
  | choice (choices : Value) (anyCase : Bool)
  | made (maker : Value)
  | several (kinds : List Kind)

namespace Kind

mutual

def name : Kind → String
  | .text => "text"
  | .integer => "integer"
  | .number => "float"
  | .truth => "boolean"
  | .choice .. => "choice"
  | .made maker => (Expr.ownName? maker).getD ""
  | .several kinds => "<" ++ " ".intercalate (names kinds) ++ ">"

def names : List Kind → List String
  | [] => []
  | k :: ks => name k :: names ks

end

def width : Kind → Nat
  | .several kinds => kinds.length
  | _ => 1

mutual

/-- The kind that a hint on a parameter asks for: a type or a function that has a name, or several
of them. -/
def ofHint : Value → Try Kind
  | .null | .ref (.type "str") => .ok .text
  | .ref (.type "int") => .ok .integer
  | .ref (.type "float") => .ok .number
  | .ref (.type "bool") => .ok .truth
  | .tuple vs => (ofHints vs).map .several
  | v => if (Expr.ownName? v).isSome then .ok (.made v) else fails .noAttribute

def ofHints : List Value → Try (List Kind)
  | [] => .ok []
  | v :: vs => do
    let k ← ofHint v
    return k :: (← ofHints vs)

end

def ofItem : Value → Kind
  | .bool _ => .truth
  | .int _ => .integer
  | .float _ => .number
  | _ => .text

def ofDefault : Value → Kind
  | .list (v :: _) | .tuple (v :: _) => ofItem v
  | v => ofItem v

def plain (v : Value) : String :=
  v.display Value.plainRef

def quoted (v : Value) : String :=
  v.literal Value.plainRef

def invalid {α : Type} (message : String) : Except Trouble α :=
  .error (.usage true message)

def mistyped {α : Type} : Except Trouble α :=
  .error (.stop (.silent .wrongType))

def accept (message : String) : Try Value → Except Trouble Value
  | .ok v => pure v
  | .error (.fault f) =>
    if f.cause == .invalidValue then invalid message else .error (.stop (.fault f))
  | .error s => .error (.stop s)

def toInteger (v : Value) : Except Trouble Value :=
  accept s!"{quoted v} is not a valid integer." (Expr.makeOf "int" v)

def toNumber (v : Value) : Except Trouble Value :=
  accept s!"{quoted v} is not a valid float." (Expr.makeOf "float" v)

def yes : List String := ["1", "true", "t", "yes", "y", "on"]

def no : List String := ["0", "false", "f", "no", "n", "off"]

def toTruth (v : Value) : Except Trouble Value :=
  match v with
  | .bool b => pure (.bool b)
  | .str s =>
    let t := Text.lower (Text.trim s)
    if yes.contains t then pure (.bool true)
    else if no.contains t then pure (.bool false)
    else invalid s!"{quoted v} is not a valid boolean."
  | .int n =>
    if n == 0 then pure (.bool false)
    else if n == 1 then pure (.bool true)
    else .error (.stop (.silent .noAttribute))
  | .list _ | .map _ | .set _ => mistyped
  | _ => .error (.stop (.silent .noAttribute))

def foldCase : Value → Value
  | .str s => .str (Text.lower (Text.replace s "\u017f" "s"))
  | v => v

def options (choices : Value) : Try (List Value) :=
  Expr.elementsOf choices

def toChoice (choices : Value) (anyCase : Bool) (v : Value) : Except Trouble Value := do
  let cs ← (options choices).mapError .stop
  unless (v :: cs).all Value.isKey do mistyped
  let fold := if anyCase then foldCase else id
  match cs.reverse.find? fun c => (fold c).alike (fold v) with
  | some c => pure c
  | none =>
    let all := ", ".intercalate (cs.map quoted)
    let few := if cs.length == 1 then "" else "one of "
    invalid s!"{quoted v} is not {few}{all}."

def make (maker v : Value) : Try Value :=
  match maker, v with
  | .ref (.function "eval"), .str s => Expr.evaluate (fun _ => none) s
  | _, _ => Expr.call maker [v]

mutual

def convert : Kind → Value → Except Trouble Value
  | .text, v => pure (.str (plain v))
  | .integer, v => toInteger v
  | .number, v => toNumber v
  | .truth, v => toTruth v
  | .choice cs anyCase, v => toChoice cs anyCase v
  | .made maker, v => accept (plain v) (make maker v)
  | .several kinds, v => do
    let vs ← (Expr.elementsOf v).mapError .stop
    if vs.length == kinds.length then return .tuple (← convertEach kinds vs)
    let were := if vs.length == 1 then "was" else "were"
    invalid s!"{kinds.length} values are required, but {vs.length} {were} given."

def convertEach : List Kind → List Value → Except Trouble (List Value)
  | k :: ks, v :: vs => do
    let w ← convert k v
    return w :: (← convertEach ks vs)
  | _, _ => pure []

end

def printed? : Kind → Value → Option String
  | .made (.ref (.function "print")), v => some (plain v)
  | _, _ => none

def placeholder : Kind → Try String
  | .choice cs _ => do
    let texts ← (← options cs).mapM fun
      | .str s => .ok s
      | _ => fails .wrongType
    return "[" ++ "|".intercalate texts ++ "]"
  | k => .ok (k.name.toUpper ++ if k.width == 1 then "" else "...")

end Kind

end Launchpad.CommandLine
