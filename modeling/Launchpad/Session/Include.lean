import Launchpad.LaunchFile.Function
import Launchpad.Session.Simulator

/-!
Included launch files: a launch function is run with the arguments that it has parameters for, and
any other file is left to the launch service. How the steps of a launch function are run is a
parameter.
-/

namespace Launchpad.Launch

def runFunction (runBody : List Script.Step → Launch (List Answer)) (path : String)
    (spec : LaunchSpec) (args : Bound) : Launch Unit := do
  let locals := spec.signature.localNames.filterMap fun k =>
    (args.values.lookup k).map fun v => (Value.str k, v)
  emit (.launched path (← reportOf (.map locals)))
  unless spec.body.isEmpty do
    if (← get).launcher.isNone then begin .null .null (.str "/")
    emit (.body (← runBody spec.body))
  match spec.failure with
  | some t => silentWith .runtime t
  | none => pure ()
where
  silentWith (c : Cause) (t : String) : Launch Unit := throw (.fault (.silent c t))

def includedArgs (spec : LaunchSpec) (args : Entries) : Launch Bound :=
  let sig := spec.signature
  let named : Named := sig.names.filterMap fun k =>
    (Entries.getText? args k).map fun v => (k, v)
  bindArgs sig [] named

def checkDefinition (spec : LaunchSpec) : Launch Unit := do
  if spec.markingSettings.any fun o => !markingOptions.contains o.1 then silent .wrongType
  for p in spec.params ++ spec.kwonly do
    let _ ← lift (p.hintValue? spec.before)

def includeFunction (runBody : List Script.Step → Launch (List Answer)) (package file : Value)
    (path : String) (args : Entries) (spec : LaunchSpec) : Launch Unit := do
  let logger := (← getLauncher).logger
  catchFault (do
    unless spec.isRunnable do silent .badSyntax
    checkDefinition spec
    info logger
      s!"Including launch file: {← display file} (args={← display (.map args)})"
    let bound ← includedArgs spec args
    runFunction runBody path spec bound) fun f => do
      error logger
        s!"Launch include '{← display package}/{← display file}' failed: {f.text}"
      throw (.fault f)

def includeFile (runBody : List Script.Step → Launch (List Answer))
    (package file subdir : Value) (pass : Bool) (named : Named) : Launch Unit := do
  let path ← textOf (← find package file subdir)
  let s ← get
  let own ← if pass then lift (Entries.extend [] s.launchArgs) else pure []
  let args := Entries.update own (named.map fun (k, v) => (.str k, v))
  let content := s.world.files.read? (Path.absolute s.world.cwd path)
  match ← lift ((content.map Content.launchFunction?).getD (.ok none)) with
  | none => includeForeign path args
  | some spec => includeFunction runBody package file path args spec

end Launchpad.Launch
