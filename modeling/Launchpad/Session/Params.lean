import Launchpad.Session.Find
import Launchpad.Yaml.Load

/-!
Parameter files. A file may hold the parameters themselves, or sections of parameters for nodes
and namespaces, in which `*` stands for one part of a name and `**` for any number of parts.
-/

namespace Launchpad.Launch

def lacking {α : Type} (v : Value) (name : String) : Launch α :=
  silent .noAttribute s!"'{v.typeText}' object has no attribute '{name}'"

def paramsKey : String := "ros__parameters"

def sectionPattern (name : String) : String :=
  let parts := (Text.splitAt (Text.trimBy (· == '/') name) '/').map fun part =>
    if part == "**" then ".*" else if part == "*" then "[^/]+" else part
  "^" ++ "/".intercalate parts ++ "$"

def sectionMatches (key : Value) (name : String) : Launch Bool := do
  match key with
  | .str k =>
    let p ← lift (Pattern.compile (sectionPattern k))
    return (Pattern.matchAt p.pattern name).isSome
  | .bytes _ => silent .wrongType "a bytes-like object is required, not 'str'"
  | v => lacking v "strip"

def holdsParams (v : Value) : Launch Bool :=
  lift (Value.contains v (.str paramsKey))

def sectionName (v : Value) : Launch String := do
  match v with
  | .str s => return Text.trimBy (· == '/') s
  | .ref (.node i) => return Text.trimBy (· == '/') (← getNode i).fullname
  | v => lacking v "strip"

def entriesOf (v : Value) : Launch Entries :=
  match v with
  | .map es => pure es
  | v => lacking v "keys"

def pathOf (v : Value) : Launch String :=
  match v with
  | .str p => pure p
  | _ => silent .wrongType

def matchingSections (name : String) : Entries → Entries → Launch Entries
  | acc, [] => return acc
  | acc, (k, v) :: es => do
    if ← sectionMatches k name then
      matchingSections name (← lift (acc.extend v)) es
    else matchingSections name acc es

def targetParams (target params : Value) : Launch Value := do
  if !target.truthy then return params
  let name ← sectionName target
  let es ← entriesOf params
  let found ← matchingSections name [] es
  if found.isEmpty then told .invalidValue s!"No param section matching '{name}'"
  return .map found

def unpackParams (params : Value) : Launch Value := do
  if ← holdsParams params then
    match params with
    | .map es =>
      let inner := (Entries.getText? es paramsKey).getD .null
      let es ← lift (Entries.extend es inner)
      return .map (Entries.erase es (.str paramsKey))
    | v => lacking v "update"
  else return params

def readParams (package file subdir : Value) : Launch Value := do
  let path ← pathOf (← find package file subdir)
  lift (Yaml.load path (← readText path))

def paramsFor (target params : Value) : Launch Value := do
  if ← holdsParams params then
    lift (Value.item params (.str paramsKey))
  else unpackParams (← targetParams target params)

def loadParams (package file subdir target : Value) : Launch Value := do
  paramsFor target (← readParams package file subdir)

end Launchpad.Launch
