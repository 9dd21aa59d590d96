import Launchpad.CommandLine.Kind
import Launchpad.Text.Indent

/-!
Options of a command.
-/

namespace Launchpad.CommandLine

inductive Role where
  | value | help | version
deriving DecidableEq, Repr

/-- An option. Its names are what stands on the command line; `key` names its value. -/
structure Opt where
  key : String
  names : List String
  offNames : List String := []
  kind : Kind := .text
  default : Value := .null
  showDefault : Bool := false
  /-- The text on the help page; a value that counts as false is none. -/
  help : Value := .null
  role : Role := .value
  hidden : Bool := false

def splitName (s : String) : String × String :=
  match s.toList with
  | [] => ("", "")
  | c :: cs =>
    if Text.isAlphanumeric c then ("", s)
    else if cs.head? == some c then (String.ofList [c, c], String.ofList (cs.drop 1))
    else (String.singleton c, String.ofList cs)

namespace Opt

def isFlag (o : Opt) : Bool :=
  o.role != .value || !o.offNames.isEmpty

def isEager (o : Opt) : Bool :=
  o.role != .value

def nestedDefault? : Value → Option Bool
  | .list vs | .tuple vs =>
    match vs with
    | .list ws :: _ | .tuple ws :: _ => some (ws.length ≤ 1 || vs.length == ws.length)
    | _ => none
  | _ => none

def cleanHelp : Value → Try Value
  | .str s => .ok (.str (if s == "" then s else Text.dedent s))
  | .bytes bs => if bs.isEmpty then .ok (.bytes []) else fails .wrongType
  | v => if v.truthy then fails .noAttribute else .ok v

/-- An option for a parameter. A kind that is not given is that of the default. A name with a
slash gives a flag that can be switched off. -/
def ofParameter (name : String) (kind : Option Kind) (default : Value) (showDefault : Bool)
    (help : Value) : Try Opt := do
  let help ← cleanHelp help
  let decl := "--" ++ name
  let (on, off) := (Text.cut? decl "/").elim (decl, "") fun (a, b) =>
    (Text.trimRightBy Text.isBlank a, Text.trimLeftBy Text.isBlank b)
  if on == off then throw (.silent .invalidValue)
  let key := Text.lower (Text.replace (splitName on).2 "-" "_")
  unless Text.isIdentifier key do throw (.silent .wrongType)
  if kind.isNone then
    match nestedDefault? default with
    | some true => throw (.silent .wrongType)
    | some false => throw (.silent .invalidValue)
    | none => pure ()
  let offNames := if off == "" then [] else [off]
  let guessed := if default matches .null && !offNames.isEmpty then .truth else Kind.ofDefault default
  return { key, names := [on], offNames, kind := kind.getD guessed, default, showDefault, help }

def forHelp? (taken : List String) : Option Opt :=
  if taken.contains "--help" then none
  else some { key := "help", names := ["--help"], kind := .truth, default := .bool false,
              help := .str "Show this message and exit.", role := .help, hidden := true }

def allNames (o : Opt) : List String :=
  o.names ++ o.offNames

def hint (o : Opt) : String :=
  " / ".intercalate (o.names.map fun n => s!"'{n}'")

def value (o : Opt) (given : Option Value) : Except Trouble Value :=
  match given.getD o.default with
  | .null => pure .null
  | v =>
    match o.kind.convert v with
    | .error (.usage located message) =>
      .error (.usage located s!"Invalid value for {o.hint}: {message}")
    | r => r

def nameColumn (o : Opt) (names : List String) : Try String := do
  let sorted := names.mergeSort fun a b => (splitName a).1.length ≤ (splitName b).1.length
  let joined := ", ".intercalate sorted
  if o.isFlag then return joined
  return joined ++ " " ++ (← o.kind.placeholder)

def defaultText (o : Opt) : String :=
  match o.default with
  | .null => ""
  | .list vs | .tuple vs => ", ".intercalate (vs.map Kind.plain)
  | v =>
    if o.isFlag && !v.truthy then "" else Kind.plain v

def helpRow (o : Opt) : Try (String × String) := do
  let first ← o.nameColumn o.names
  let second ← if o.offNames.isEmpty then pure [] else pure [← o.nameColumn o.offNames]
  let help := o.help.text?.getD ""
  let extra := if o.showDefault then o.defaultText else ""
  let note :=
    if extra == "" then help
    else if help == "" then s!"[default: {extra}]"
    else s!"{help}  [default: {extra}]"
  return (" / ".intercalate (first :: second), note)

end Opt

end Launchpad.CommandLine
