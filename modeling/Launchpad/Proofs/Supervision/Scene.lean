import Launchpad.Proofs.Supervision.Ending
import Launchpad.Proofs.Supervision.Watching

/-!
A scene is a session together with the timers that have sent their first signal. It moves on by
acts: nodes are started and asked to end, children exit, watchers come to their end and timers fire.
Each act is one of the session's operations, taken as a whole; the two signals of a timer are two
acts.
-/

namespace Launchpad

def Task.watches? (i : Nat) : Task → Option Nat
  | .watchChild j c => if j = i then some c else none
  | _ => none

namespace Session.Core

/-- The children of a node whose watchers have not come to their end. -/
def watchers (k : Core) (i : Nat) : List Nat :=
  k.tasks.filterMap (Task.watches? i)

def dropTask (k : Core) (n : Nat) : Core :=
  { k with tasks := k.tasks.eraseIdx n }

end Session.Core

/-- No child is started and no task comes or goes. Signals are sent to processes of nodes for which
`P` holds. -/
structure Idles (P : Nat → Prop) (s t : Session) : Prop where
  children : AgeAll s.core.children t.core.children
  process : ∀ i, t.core.process? i = s.core.process? i
  foreign : ∀ i, t.core.foreign? i = s.core.foreign? i
  wrapped : ∀ i, t.core.wrapped? i = s.core.wrapped? i
  nextPid : t.core.world.nextPid = s.core.world.nextPid
  tasks : t.core.tasks = s.core.tasks
  ended : s.core.ended → t.core.ended
  signals : ∃ new, t.core.signals = s.core.signals ++ new ∧
    ∀ x ∈ new, ∃ i, P i ∧ s.core.Runs i x.2

lemma Winds.idles {known : Prop} {P : Nat → Prop} {s t : Session} (h : Winds known P s t) :
    Idles (fun i => known ∧ P i) s t := by
  refine ⟨h.children, h.process, h.foreign, h.wrapped, ?_, ?_, fun hs => ?_, ?_⟩
  · exact congrArg (fun k => k.world.nextPid) h.still
  · exact congrArg (fun k => k.tasks) h.still
  · have hended : t.core.ended = s.core.ended := congrArg (fun k => k.ended) h.still
    rw [hended, hs]
  · obtain ⟨new, hnew, htarget⟩ := h.signals
    refine ⟨new, hnew, fun x hx => ?_⟩
    obtain ⟨hknown, i, hi, hruns⟩ := htarget x hx
    exact ⟨i, ⟨hknown, hi⟩, hruns⟩

namespace Idles

variable {P Q : Nat → Prop} {s t u : Session}

variable (h : Idles P s t)
include h

lemma mono (hPQ : ∀ i, P i → Q i) : Idles Q s t := by
  obtain ⟨new, hnew, htarget⟩ := h.signals
  refine { h with signals := ⟨new, hnew, fun x hx => ?_⟩ }
  obtain ⟨i, hi, hruns⟩ := htarget x hx
  exact ⟨i, hPQ i hi, hruns⟩

lemma size_eq : t.core.children.size = s.core.children.size :=
  h.children.size

lemma childOf_eq (i : Nat) : t.core.childOf i = s.core.childOf i := by
  rw [Session.Core.childOf, h.process]
  rfl

lemma owns_iff (i c : Nat) : t.core.Owns i c ↔ s.core.Owns i c := by
  simp only [Session.Core.Owns, h.childOf_eq, h.foreign]

lemma pid?_eq (c : Nat) : t.core.pid? c = s.core.pid? c :=
  h.children.pid_eq c

lemma runs_iff (i : Nat) (pid : Int) : t.core.Runs i pid ↔ s.core.Runs i pid := by
  simp only [Session.Core.Runs, h.owns_iff, h.foreign, h.pid?_eq]

lemma trans (h' : Idles P t u) : Idles P s u := by
  obtain ⟨new, hnew, htarget⟩ := h.signals
  obtain ⟨new', hnew', htarget'⟩ := h'.signals
  refine ⟨h.children.trans h'.children, fun i => (h'.process i).trans (h.process i),
    fun i => (h'.foreign i).trans (h.foreign i), fun i => (h'.wrapped i).trans (h.wrapped i),
    h'.nextPid.trans h.nextPid, h'.tasks.trans h.tasks, h'.ended ∘ h.ended, new ++ new', ?_, ?_⟩
  · rw [hnew', hnew, List.append_assoc]
  · intro x hx
    rcases List.mem_append.1 hx with hx | hx
    · exact htarget x hx
    · obtain ⟨i, hi, hruns⟩ := htarget' x hx
      exact ⟨i, hi, (h.runs_iff i x.2).1 hruns⟩

end Idles

lemma Aged.idles {s t : Session} (h : Aged s t) : Idles (fun _ => False) s t :=
  (Winds.of_aged h : Winds False (fun _ => False) s t).idles.mono fun _ h => h.1

instance (P : Nat → Prop) : Patient (Idles P) where
  refl s := (refl_of Aged s).idles.mono nofun
  trans _ _ _ := Idles.trans
  calm _ _ h := (Tolerant.calm (R := Aged) _ _ h).idles.mono nofun
  aged _ _ h := h.idles.mono nofun

namespace Launch

variable {R : SessionRel}

/-! ## The end of a launch -/

lemma keeps_announceShutdown [Tolerant R] {l : Launcher} {reason : Value} :
    Keeps R (announceShutdown l reason) := by
  unfold announceShutdown
  split
  · exact keeps_warn
  · exact keeps_display.bind fun _ => keeps_info

lemma keeps_allGroups [Tolerant R] : Keeps R allGroups := by
  refine Keeps.bind ?_ fun root => keeps_get.bind fun _ => .pure
  exact keeps_getLauncher.bind fun _ => .pure

lemma keeps_ownNodes [Tolerant R] {components service : Bool} :
    Keeps R (ownNodes components service) := by
  refine keeps_allGroups.bind fun gs => Keeps.bind (Keeps.mapM gs fun g _ => ?_) fun nodes => ?_
  · refine keeps_getGroup.bind fun group => ?_
    refine Keeps.bind (Keeps.mapM _ fun i _ => ?_) fun _ => .pure
    refine keeps_getNode.bind fun n => ?_
    split
    · exact Keeps.ite (keeps_managedComponents.bind fun _ => .pure) .pure
    · exact .pure
  · exact keeps_getLauncher.bind fun _ => .pure

lemma keeps_settle {P : Nat → Prop} (i : Nat) {p : Promise} (hp : p.state != .pending) :
    Keeps (Idles P) (settle i p) := by
  refine keeps_modify fun s => ⟨.refl _, fun _ => rfl, fun _ => rfl, fun _ => rfl, rfl, rfl, ?_,
    [], (List.append_nil _).symm, by simp⟩
  intro hended
  simp only [Session.Core.ended, Session.core, Option.any_eq_true] at hended ⊢
  obtain ⟨q, hq, hstate⟩ := hended
  obtain ⟨l, hl, hq⟩ := Option.bind_eq_some_iff.1 hq
  refine ⟨if i = l.ending then if q.state == .pending then p else q else q, ?_, ?_⟩
  · rw [hl, Option.bind_some, Array.getElem?_modify, hq]
    split <;> rfl
  · split
    · split
      · exact hp
      · exact hstate
    · exact hstate

lemma keeps_tellShutdown_of [Tolerant R] (l : Launcher)
    (h : Keeps R (modifyLauncher fun l => { l with callbacks := [] })) :
    Keeps R (tellShutdown l) := by
  refine keeps_getLauncher.bind fun k => h.bind fun _ => Keeps.forM _ fun cb _ => ?_
  refine (keeps_callValue.bind fun _ => .pure).catchFault fun f => ?_
  exact keeps_warn

lemma keeps_tellShutdown {P : Nat → Prop} {l : Launcher} : Keeps (Idles P) (tellShutdown l) := by
  refine keeps_tellShutdown_of l (keeps_modify fun s => ⟨.refl _, fun _ => rfl, fun _ => rfl,
    fun _ => rfl, rfl, rfl, ?_, [], (List.append_nil _).symm, by simp⟩)
  intro hended
  simp only [Session.Core.ended, Session.core] at hended ⊢
  cases hl : s.launcher <;> simp_all

lemma yields_getLauncher (s : Session) :
    Yields getLauncher s (fun l t => t = s ∧ s.launcher = some l) (fun _ t => t = s) := by
  simp only [getLauncher, yields_bind, yields_get]
  cases hl : s.launcher with
  | none => exact .throw rfl
  | some l => exact .pure ⟨rfl, rfl⟩

/-- The node that a step of the end of a launch asks to end. -/
def ShutdownStep.asks? (s : Session) : ShutdownStep → Option Nat
  | .ask i => some i
  | .service => s.launcher.bind Launcher.service
  | _ => none

/-- The signals of a step go to processes of nodes that are reached from the one that is asked. -/
def ShutdownStep.Reaches (step : ShutdownStep) (s : Session) (i : Nat) : Prop :=
  ∃ j, step.asks? s = some j ∧ s.core.Reaches j i

lemma idles_askServiceToEnd (l : Launcher) (reason signal : Value) (s : Session) :
    let P := fun i => SignalKnown signal ∧ ShutdownStep.service.Reaches s i
    EndsIn (askServiceToEnd l reason signal) s (Idles P s) := by
  intro P
  have unchanged {t : Session} (h : t = s) : Idles P s t := by
    rw [h]
    exact refl_of _ s
  refine (yields_getLauncher s).seq ?_ fun _ _ h => unchanged h
  rintro k s ⟨rfl, hk⟩
  split
  · exact .pure (refl_of _ s)
  next j hj =>
  have asked := winds_shutdownNode j reason signal (.int 0)
    (refl_of (Winds _ (ShutdownStep.service.Reaches s)) s) fun i hi =>
      ⟨j, by simp [ShutdownStep.asks?, hk, hj], hi⟩
  refine Yields.catchFault (asked.imp (fun _ _ h => h.idles) fun _ _ h => h.idles) ?_ ?_
  · exact fun f t ht => keeps_error.then ht
  · exact fun _ _ ht => ht

lemma idles_takeStep (l : Launcher) (reason signal : Value) (step : ShutdownStep)
    (s : Session) :
    let P := fun i => SignalKnown signal ∧ step.Reaches s i
    EndsIn (step.take l reason signal) s (Idles P s) := by
  cases step with
  | ask i =>
    refine (winds_askToEnd l reason signal i s).imp (fun _ _ h => ?_) fun _ _ h => ?_
    all_goals exact h.idles.mono fun j hj => ⟨hj.1, i, rfl, hj.2⟩
  | adapter => exact keeps_stopAdapter.catchFault (fun _ => keeps_error) s
  | service => exact idles_askServiceToEnd l reason signal s
  | resolve => exact keeps_settle _ rfl s
  | callbacks => exact keeps_tellShutdown s

lemma keeps_shutdownAll {reason signal : Value} :
    Keeps (Idles fun _ => SignalKnown signal) (shutdownAll reason signal) := by
  refine keeps_getLauncher.bind fun l => keeps_announceShutdown.bind fun _ => ?_
  refine Keeps.bind ?_ fun nodes => Keeps.forM _ fun step _ s => ?_
  · exact keeps_ownNodes.bind fun _ => .pure
  · refine (idles_takeStep l reason signal step s).imp (fun _ _ h => ?_) fun _ _ h => ?_
    all_goals exact h.mono fun _ h => h.1

end Launch

/-! ## Acts -/

/-- What happens without being asked for: a child exits, or a watcher comes to its end. The watcher
is given by the place of its task; children may go on while it looks at them. -/
inductive Happening where
  | exits (child : Nat) (code : Int)
  | finishes (task : Nat) (live : Bool)

/-- Lets a thread do its work. -/
def Launch.threaded (live : Bool) (x : Launch Unit) : Launch Unit :=
  if live then watching x else x

namespace Session

def dropTask (s : Session) (n : Nat) : Session :=
  { s with tasks := s.tasks.eraseIdx n }

def happen (s : Session) : Happening → Session
  | .exits c code => (Launch.endChild c code).after s
  | .finishes n live => match s.tasks[n]? with
    | some (.watchChild i c) =>
      (Launch.threaded live (Launch.runTask (.watchChild i c))).after (s.dropTask n)
    | _ => s

end Session

inductive Act where
  | start (node : Nat)
  | happen (h : Happening)
  | shutdown (node : Nat) (reason signal timeout : Value)
  | shutdownAll (reason signal : Value)
  | fire (task : Nat) (live : Bool)
  | kill (timer : Nat) (live : Bool)

/-- The node and the child of the watcher that an act brings to its end. -/
def Act.watcher? (a : Act) (s : Session) : Option (Nat × Nat) :=
  match a with
  | .happen (.finishes n _) => match s.tasks[n]? with
    | some (.watchChild i c) => some (i, c)
    | _ => none
  | _ => none

/-- A session, and the nodes whose timers have sent the first of their two signals. -/
structure Scene where
  session : Session
  armed : List Nat := []

namespace Scene

def fire (sc : Scene) (n : Nat) (live : Bool) : Scene :=
  match sc.session.tasks[n]? with
  | some (.escalate i) =>
    match (Launch.threaded live (Launch.signalLater i Script.termSignal)).run
        (sc.session.dropTask n) with
    | .ok _ t => { session := t, armed := sc.armed ++ [i] }
    | .error _ t => { sc with session := t }
  | _ => sc

def kill (sc : Scene) (n : Nat) (live : Bool) : Scene :=
  match sc.armed[n]? with
  | some i =>
    { session := (Launch.threaded live (Launch.signalLater i killSignal)).after sc.session,
      armed := sc.armed.eraseIdx n }
  | none => sc

def step (sc : Scene) : Act → Scene
  | .start i => { sc with session := (Launch.startProcess i).after sc.session }
  | .happen h => { sc with session := sc.session.happen h }
  | .shutdown i reason signal timeout =>
    { sc with session := (Launch.shutdownNode i reason signal timeout).after sc.session }
  | .shutdownAll reason signal =>
    { sc with session := (Launch.shutdownAll reason signal).after sc.session }
  | .fire n live => sc.fire n live
  | .kill n live => sc.kill n live

def run (sc : Scene) (acts : List Act) : Scene :=
  acts.foldl step sc

end Scene

namespace Launch

lemma keeps_threaded {R : SessionRel} [Tolerant R] {x : Launch Unit}
    (hx : Keeps R x) (live : Bool) : Keeps R (threaded live x) := by
  refine Keeps.ite (Keeps.bind ?_ fun _ => hx.always ?_) hx
  all_goals exact keeps_of_calm (keeps_modify fun _ => .of_core rfl rfl)

lemma yields_threaded_watchChild (i c : Nat) (live : Bool) (s : Session) :
    Yields (threaded live (runTask (.watchChild i c))) s (fun _ t => WatcherReturns i s t)
      (fun _ t => WatcherEnds i s t) := by
  have calm (b : Bool) (t : Session) : Calm t { t with watching := b } := .of_core rfl rfl
  refine Yields.ite (.of_bind (.modify ?_)) (yields_watchChild i c true s)
  refine Yields.always_of (A := WatcherReturns i s) (D := WatcherEnds i s) ?_
    (fun t ht => .modify (ht.then_calm (calm false t)))
    fun t ht => .modify (ht.then_calm (calm false t))
  have aged : Aged s { s with watching := true } := Tolerant.calm _ _ (calm true s)
  exact (yields_watchChild i c true _).imp (fun _ _ h => h.of_aged aged) fun _ _ h =>
    h.of_aged aged

lemma watcherEnds_after (i c : Nat) (live : Bool) (s : Session) :
    WatcherEnds i s ((threaded live (runTask (.watchChild i c))).after s) :=
  ((yields_threaded_watchChild i c live s).map fun _ _ h => h.1).after

lemma keeps_signalLater (i : Nat) (signal : Int) :
    Keeps (Winds (SignalKnown (.int signal)) (· = i)) (signalLater i signal) := fun s =>
  keeps_advance.along (refl_of (Winds _ (· = i)) s) fun _ _ h =>
    winds_signalProcess (P := (· = i)) h rfl

end Launch

inductive Scene.Moves (sc : Scene) : Act → Scene → Prop where
  | stays {a : Act} (h : a.watcher? sc.session = none) : Moves sc a sc
  | starts {i : Nat} {t : Session} (h : Starts i sc.session t) :
      Moves sc (.start i) { sc with session := t }
  | exits {c : Nat} {code : Int} {t : Session} (h : Aged sc.session t) :
      Moves sc (.happen (.exits c code)) { sc with session := t }
  | finishes {n i c : Nat} {live : Bool} {t : Session}
      (hn : sc.session.tasks[n]? = some (.watchChild i c))
      (h : WatcherEnds i (sc.session.dropTask n) t) :
      Moves sc (.happen (.finishes n live)) { sc with session := t }
  | shuts {i : Nat} {reason signal timeout : Value} {t : Session}
      (h : Winds (SignalKnown signal) (sc.session.core.Reaches i) sc.session t) :
      Moves sc (.shutdown i reason signal timeout) { sc with session := t }
  | shutsAll {reason signal : Value} {t : Session}
      (h : Idles (fun _ => SignalKnown signal) sc.session t) :
      Moves sc (.shutdownAll reason signal) { sc with session := t }
  | fires {n i : Nat} {live : Bool} {t : Session} {armed : List Nat} {known : Prop}
      (hn : sc.session.tasks[n]? = some (.escalate i))
      (h : Winds known (· = i) (sc.session.dropTask n) t)
      (harmed : ∀ j ∈ armed, j ∈ sc.armed ∨ j = i) : Moves sc (.fire n live) ⟨t, armed⟩
  | kills {n i : Nat} {live : Bool} {t : Session} {known : Prop} (hn : sc.armed[n]? = some i)
      (h : Winds known (· = i) sc.session t) :
      Moves sc (.kill n live) ⟨t, sc.armed.eraseIdx n⟩

open Launch in
lemma Scene.moves (sc : Scene) (a : Act) : sc.Moves a (sc.step a) := by
  cases a with
  | start i => exact .starts (yields_startProcess i _).after
  | happen h =>
    cases h with
    | exits c code => exact .exits (keeps_endChild.after _)
    | finishes n live =>
      simp only [step, Session.happen]
      split
      · next i c hn => exact .finishes hn (watcherEnds_after i c live _)
      · next hn =>
        refine .stays ?_
        simp only [Act.watcher?]
  | shutdown i reason signal timeout =>
    exact .shuts (winds_shutdownNode i reason signal timeout (refl_of _ _) fun _ h => h).after
  | shutdownAll reason signal => exact .shutsAll (keeps_shutdownAll.after _)
  | fire n live =>
    simp only [step, fire]
    split
    · next i hn =>
      have winds := keeps_threaded (keeps_signalLater i Script.termSignal) live
      split
      · next ht =>
        have h := yields_run_ok (winds _) ht
        exact .fires hn h (by simp)
      · next ht =>
        have h := yields_run_error (winds _) ht
        exact .fires hn h fun j hj => .inl hj
    · exact .stays rfl
  | kill n live =>
    simp only [step, kill]
    split
    · next i hn => exact .kills hn ((keeps_threaded (keeps_signalLater i _) live).after _)
    · exact .stays rfl

/-! ## A small session -/

def ProcessNode.plain (respawns : Int) : ProcessNode :=
  { env := .map [], isolateEnv := .bool false, cmdArgs := .list [], logLevel := .null,
    useShell := .bool false, maxRespawns := .int respawns, respawnDelay := .int 0,
    onExit := .null, raw := .bool true }

def Launcher.plain : Launcher :=
  { logger := "main", rootGroup := 0, groupStack := [0], ending := 0 }

def Session.single (respawns : Int) (script : Script.ChildScript) : Session :=
  let n : Node :=
    { id := 0, package := .null, executable := .str "/bin/talker", name := "n", ns := "/",
      remaps := .map [], params := .map [], logger := "/n", kind := .process (.plain respawns) }
  { launcher := some .plain, groups := #[{ parent := none, ns := "/", nodes := [0] }],
    promises := #[{}], nodes := #[n], world := { scripts := [("talker", script)] } }

end Launchpad
