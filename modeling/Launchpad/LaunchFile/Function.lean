import Launchpad.Expr.Eval
import Launchpad.LaunchFile.Spec

/-!
Launch functions: where a launch file has one, its parameters, and how it is found.
-/

namespace Launchpad

def defaultsLast : List LaunchParam → Bool
  | [] => true
  | p :: ps => (p.default.isNone || ps.all fun q => q.default.isSome) && defaultsLast ps

def isName (s : String) : Bool :=
  Text.isIdentifier s && !Expr.keywords.contains s

def LaunchParam.toParam (p : LaunchParam) : Param :=
  ⟨p.name, p.default⟩

def LaunchSpec.signature (s : LaunchSpec) : Signature :=
  { params := s.params.map LaunchParam.toParam, varargs := s.varargs,
    kwonly := s.kwonly.map LaunchParam.toParam, varkw := s.varkw }

def Signature.names (s : Signature) : List String :=
  s.params.map (·.name) ++ s.varargs.toList ++ s.kwonly.map (·.name) ++ s.varkw.toList

def LaunchSpec.isReadable (s : LaunchSpec) : Bool :=
  defaultsLast s.params && isName s.func && s.before.all isName && s.signature.names.all isName &&
    (s.params ++ s.kwonly).all fun p => p.hint.all fun h => (Expr.parse h).isOk

def LaunchSpec.isRunnable (s : LaunchSpec) : Bool :=
  s.isReadable && decide s.signature.names.Nodup

def Signature.localNames (s : Signature) : List String :=
  s.params.map (·.name) ++ s.kwonly.map (·.name) ++ s.varargs.toList ++ s.varkw.toList

/-- The arguments that a running function finds in its own variables, bound anew by name. A
parameter that collects positional arguments cannot be given by name. -/
def Signature.rebind (s : Signature) (b : Bound) (fill : Bool) : Except BindError Bound :=
  s.bind [] (s.localNames.filterMap fun k => (b.values.lookup k).map (k, ·)) fill

def Content.launchFunction? (c : Content) : Try (Option LaunchSpec) :=
  match c with
  | .launch s =>
    if !s.isReadable then .ok none
    else if s.obscured then fails .noAttribute
    else if s.asynchronous then .ok none
    else match s.marking with
      | .name | .call => .ok (some s)
      | .callViaModule => fails .noAttribute
      | .viaModule | .other | .none => .ok none
  | _ => .ok none

def markingOptions : List String :=
  ["ui", "join", "screen_log_format", "file_log_format", "colormode", "manage_foreign_nodes",
    "keep_alive"]

def LaunchSpec.isMarked (s : LaunchSpec) : Bool :=
  match s.marking with
  | .name | .call | .viaModule | .callViaModule => true
  | .other | .none => false

def LaunchSpec.markingSettings (s : LaunchSpec) : Named :=
  match s.marking with
  | .call | .callViaModule => s.options
  | _ => []

/-- What a hint on a parameter stands for. It may name the functions that are defined `before`, and
the one for marking. -/
def LaunchParam.hintValue? (p : LaunchParam) (before : List String) : Try (Option Value) :=
  match p.hint with
  | none => .ok none
  | some text =>
    let names (n : String) : Option Value :=
      if before.contains n || n == "launch_this" then some (.ref (.function n)) else none
    (Expr.evaluate names text).map some

end Launchpad
