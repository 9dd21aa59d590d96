import Launchpad.Session.Graph
import Launchpad.Text.Lines

/-!
Child processes: they are started, asked whether they have ended, signalled and waited for. While
a child is watched, each question lets it write its next piece of output, until it is found to have
ended; what it has written then and nobody has read is lost.
-/

namespace Launchpad

def signalNames : List (Int × String) :=
  [(1, "SIGHUP"), (2, "SIGINT"), (3, "SIGQUIT"), (4, "SIGILL"), (5, "SIGTRAP"), (6, "SIGABRT"),
    (7, "SIGBUS"), (8, "SIGFPE"), (9, "SIGKILL"), (10, "SIGUSR1"), (11, "SIGSEGV"),
    (12, "SIGUSR2"), (13, "SIGPIPE"), (14, "SIGALRM"), (15, "SIGTERM"), (16, "SIGSTKFLT"),
    (17, "SIGCHLD"), (18, "SIGCONT"), (19, "SIGSTOP"), (20, "SIGTSTP"), (21, "SIGTTIN"),
    (22, "SIGTTOU"), (23, "SIGURG"), (24, "SIGXCPU"), (25, "SIGXFSZ"), (26, "SIGVTALRM"),
    (27, "SIGPROF"), (28, "SIGWINCH"), (29, "SIGIO"), (30, "SIGPWR"), (31, "SIGSYS"),
    (34, "SIGRTMIN"), (64, "SIGRTMAX")]

def interruptSignal : Int := 2
def killSignal : Int := 9

namespace Launch

def signalOf (v : Value) : Launch (Int × String) := do
  match v.whole?.bind fun n => (signalNames.lookup n).map fun s => (n, s) with
  | some r => return r
  | none =>
    throw (Stop.silent .invalidValue (v.literal Value.plainRef ++ " is not a valid Signals"))

def getChild (i : Nat) : Launch Child := do
  match (← get).world.children[i]? with
  | some c => return c
  | none => silent .noAttribute

def modifyChild (i : Nat) (f : Child → Child) : Launch Unit :=
  modifyWorld fun w => { w with children := w.children.modify i f }

def endChild (i : Nat) (code : Int) : Launch Unit :=
  modifyChild i fun c => { c with code := some code }

def Pipe.write (p : Pipe) (failing : Bool) (t : String) : Pipe :=
  { text := p.text ++ Text.unifyLineEnds t, failing := p.failing || failing }

def Child.poll (watching : Bool) (c : Child) : Child :=
  if c.code.isSome then c
  else if watching then
    if c.pending.length ≤ c.script.unread then { c with code := some c.script.exit }
    else match c.pending with
    | (err, failing, t) :: rest =>
      let c := { c with pending := rest }
      let c := if t == "" || c.ready.contains err then c
        else { c with ready := c.ready ++ [err] }
      if err then { c with stderr := Pipe.write c.stderr failing t }
      else { c with stdout := Pipe.write c.stdout failing t }
    | [] => { c with code := some c.script.exit }
  else match c.script.polls with
    | some n =>
      if c.polled < n then { c with polled := c.polled + 1 }
      else { c with code := some c.script.exit }
    | none => c

def pollChild (i : Nat) : Launch (Option Int) := do
  let watching := (← get).watching
  modifyChild i (Child.poll watching)
  return (← getChild i).code

def spawn (argv : List String) (event : Event) : Launch Nat := do
  let w := (← get).world
  let script := (w.scripts.lookup (Path.baseName (argv.headD ""))).getD {}
  emit event
  if script.spawnError then silent .permissionDenied
  modifyWorld fun w => { w with
    children := w.children.push { pid := w.nextPid, script, pending := script.output },
    nextPid := w.nextPid + 1 }
  return w.children.size

def takeSignal (i : Nat) (script : Script.ChildScript) (signal : Int) : Launch Unit := do
  if script.vanish then
    modifyChild i fun c => { c with code := some 0 }
    silent .processGone
  match script.deny with
  | some t => told .permissionDenied t
  | none =>
    if !script.ignore.contains signal then
      modifyChild i fun c => { c with code := some (-signal) }

def signalChild (i : Nat) (signal : Int) : Launch Unit := do
  let c ← getChild i
  if c.code.isSome then return
  emit (.signalled signal c.pid)
  takeSignal i c.script signal

def waitChild (i : Nat) (timeout : Value) : Launch (Option Int) := do
  let c ← getChild i
  match c.code with
  | some code => return some code
  | none =>
    if !(← endsInTime c.script.lifetime timeout) then return none
    endChild i c.script.exit
    return some c.script.exit

end Launch

end Launchpad
