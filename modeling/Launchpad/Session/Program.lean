import Launchpad.CommandLine.Help
import Launchpad.Session.Include
import Launchpad.Starter.File

/-!
Launch files that are run as programs. The parameters of the launch function become options of the
command line. A launch file that the other launch system includes is run with its configuration
instead. How the steps of a launch function are run is a parameter.
-/

namespace Launchpad.Launch

open CommandLine

/-! ### The start -/

def startText (file dir : String) : String :=
  s!"Starting launch file:\n{file}\n\nLog files will be saved at\n{dir}\n\n" ++
    Text.repeatText "=" 50 ++ "\n"

/-- What a program has written after its start: after the drawing of the launcher if there is one,
else after the first lines. -/
def afterStart (out : String) : String :=
  match Text.cut? out ("\n".intercalate rocket ++ "\n\n") with
  | some (_, rest) => rest
  | none => (Text.cut? out (Text.repeatText "=" 50 ++ "\n")).elim out (·.2)

/-- How a launch function is run: from its marking, the environment and the command line. -/
structure ProgramSettings where
  terminal : Bool
  joins : Bool
  screenFormat : Value
  fileFormat : Value
  colorMode : Value
  manageForeign : Value
  keepAlive : Value

def switch? (s : String) : Option Bool :=
  let t := Text.lower s
  if ["enable", "true", "1"].contains t then some true
  else if ["disable", "false", "0"].contains t then some false
  else none

def programSettings (spec : LaunchSpec) (env : TextPairs) : ProgramSettings :=
  let given (k : String) (d : Value) : Value := (spec.markingSettings.lookup k).getD d
  let setting (name k : String) (d : Value) : Value :=
    ((env.lookup name).map Value.str).getD (given k d)
  { terminal := (switch? ((env.lookup "BL_UI_OVERRIDE").getD "")).getD
      (given "ui" (.bool false)).truthy
    joins := (given "join" (.bool true)).truthy
    screenFormat := setting "BL_SCREEN_LOG_FORMAT_OVERRIDE" "screen_log_format" .null
    fileFormat := setting "BL_FILE_LOG_FORMAT_OVERRIDE" "file_log_format" .null
    colorMode := setting "BL_COLORMODE_OVERRIDE" "colormode" (.str "default")
    manageForeign := given "manage_foreign_nodes" (.bool false)
    keepAlive := given "keep_alive" (.bool false) }

def announce (spec : LaunchSpec) (mainThread : Bool) : Launch Unit := do
  checkDefinition spec
  if (← get).announced then told .runtime "Can only use one launch decorator"
  modify fun s => { s with announced := true }
  write (startText ((← get).launchFile.getD "") (← logDir))
  unless mainThread do told .runtime "launch_this must be used on the main thread"
  modify fun s => { s with programSignals := true }

/-! ### The command line -/

def paramOption (doc : Doc) (name : String) (hint : Option Value) (default : Value) : Try Opt := do
  let kind ←
    match default, hint with
    | .null, some h => pure (some (← Kind.ofHint h))
    | _, _ => pure none
  Opt.ofParameter name kind default true (doc.help name)

def launchCommand (spec : LaunchSpec) : Try Command := do
  let doc ← (spec.doc.map Doc.parse).getD (.ok {})
  let plain (p : LaunchParam) := do
    paramOption doc p.name (← p.hintValue? spec.before) (p.default.getD .null)
  let collecting (n : String) := paramOption doc n none .null
  let options ← spec.params.mapM plain
  let rest ← spec.varargs.toList.mapM collecting
  let named ← spec.kwonly.mapM plain
  let more ← spec.varkw.toList.mapM collecting
  let overrides := Starter.overrideOptions.map fun o => { o with hidden := true }
  return { options := options ++ rest ++ named ++ more ++ overrides, help := doc.short,
           ignoresUnknown := spec.varkw.isSome, takesMore := spec.varkw.isSome }

def readCommandLine (c : Command) (argv : List String) : Launch (Option Reading) := do
  let s ← get
  let path := Path.baseName (s.launchFile.getD "")
  let width := pageWidth (s.world.env.lookup "COLUMNS")
  match c.read false argv with
  | .ok r =>
    write (String.join (r.printed.map (· ++ "\n")))
    return some r
  | .error .help | .error .version =>
    write ((← lift (helpPage width path c [])) ++ "\n")
    return none
  | .error (.usage located message) =>
    modify fun s => { s with err := s.err ++ complaint width path c located message }
    throw (.exit 2)
  | .error (.stop e) => throw e

/-! ### The run -/

/-- The arguments that a function with a parameter for all others is called with. Words that belong
to no option have to come in pairs, and pairs are not accepted. -/
def extraArgs (spec : LaunchSpec) (words : List String) (named : Named) : Launch Named :=
  match spec.varkw with
  | none => return named
  | some n => do
    if words.length % 2 != 0 then
      told .assertion "extra arguments need to be '--<key> <value>' tuples"
    unless words.isEmpty do silent .wrongType
    return named.filter (·.1 != n) ++ [(n, .map [])]

def callFunction (runBody : List Script.Step → Launch (List Answer)) (spec : LaunchSpec)
    (named : Named) : Launch Unit := do
  let bound ← bindArgs spec.signature [] named
  unless spec.asynchronous do
    runFunction runBody ((← get).launchFile.getD "") spec bound

/-- Runs a launch function. A fault in it ends the launcher; else the launcher is made if there is
none, and waits for its nodes unless the terminal does. -/
def launchWith (runBody : List Script.Step → Launch (List Answer)) (spec : LaunchSpec)
    (settings : ProgramSettings) (words : List String) (named : Named) : Launch Unit := do
  let named ← extraArgs spec words named
  catchFault (callFunction runBody spec named) fun f => do
    if (← get).launcher.isSome then
      unless ← isShutdown do
        shutdownAll (.str s!"Exception in launch file: {f.text}") (.int Script.termSignal)
    throw (.fault f)
  if (← get).launcher.isNone then begin .null .null (.str "/")
  if settings.joins && !settings.terminal then spin (!settings.keepAlive.truthy)

def runProgram (runBody : List Script.Step → Launch (List Answer)) (spec : LaunchSpec)
    (argv : List String) (mainThread : Bool) : Launch Unit := do
  unless spec.isRunnable do silent .badSyntax
  unless spec.isMarked do return
  announce spec mainThread
  let settings := programSettings spec (← get).world.env
  let command ← lift (launchCommand spec)
  match ← readCommandLine command argv with
  | none => pure ()
  | some r =>
    let terminal := match r.get? "bl_ui_override" with
      | some (.str "unset") | none => settings.terminal
      | some v => v.same (.str "enable")
    let mode := (r.get? "bl_colormode_override").getD settings.colorMode
    let settings := { settings with terminal, colorMode := mode }
    initLogging settings.screenFormat settings.fileFormat settings.colorMode
    let bound ← bindArgs spec.signature [] r.shown
    modify fun s => { s with launchArgs := .record bound.values }
    if settings.terminal then
      emit (.terminal (← reportOf settings.manageForeign) (← reportOf settings.keepAlive))
    launchWith runBody spec settings r.words r.shown

/-! ### Included by the other launch system -/

def declaredArgs (spec : LaunchSpec) : List (String × Option String) :=
  let text (p : LaunchParam) := (p.name, p.default.map fun v => v.display Value.plainRef)
  spec.params.map text ++ spec.varargs.toList.map (·, none) ++ spec.kwonly.map text ++
    spec.varkw.toList.map (·, none)

def offerProgram (spec : LaunchSpec) : Launch (List (String × Option String)) := do
  unless spec.isRunnable do silent .badSyntax
  unless spec.isMarked do silent .unknownKey
  announce spec true
  let settings := programSettings spec (← get).world.env
  let name := Path.baseName ((← get).launchFile.getD "")
  write s!"[NOTE] Launch file {name} got included from ROS2\n"
  initLogging settings.screenFormat settings.fileFormat settings.colorMode
  return declaredArgs spec

def configured (v : Value) : Try Value :=
  match v with
  | .str s =>
    match Expr.readLiteral s with
    | .error (.fault f) => if f.cause == .invalidValue then .ok v else .error (.fault f)
    | r => r
  | v => .ok v

def configuration (declared : List (String × Option String)) (given : Named) : Named :=
  given ++ declared.filterMap fun (k, d) =>
    if given.any (·.1 == k) then none else d.map fun t => (k, .str t)

def runOffered (runBody : List Script.Step → Launch (List Answer)) (spec : LaunchSpec)
    (given : Named) : Launch Unit := do
  let named ← (configuration (declaredArgs spec) given).mapM fun (k, v) => do
    return (k, ← lift (configured v))
  callFunction runBody spec named

end Launchpad.Launch
