import Launchpad.Proofs.Launch.Outcome

/-!
Calm operations. Most operations of a session write log lines, look something up or talk to the
node graph. None of them touches what is known of processes, tasks, groups and promises or the
terminal, which is the core of a session, and none of them sends a signal. A relation that tolerates calm steps is
kept by all of these operations.
-/

namespace Launchpad

/-- The signal that an event tells of, with the process that it was sent to. -/
def Event.signal? : Event → Option (Int × Int)
  | .signalled n pid => some (n, pid)
  | _ => none

/-- The signal to a whole group of processes that an event tells of. -/
def Event.groupSignal? : Event → Option (Int × Int)
  | .groupSignalled n pid => some (n, pid)
  | _ => none

/-- A registry after any number of messages have been logged. -/
inductive Log.Registry.Logged (r : Log.Registry) : Log.Registry → Prop where
  | refl : Logged r r
  | log {r' : Log.Registry} (h : Logged r r') (logger : String) (level : Int) (msg : String)
      (now : Float) (args : List Value) :
      Logged r (r'.log logger (.int level) (.str msg) now args).1

lemma Log.Registry.Logged.trans {r r' r'' : Log.Registry} (h : r.Logged r')
    (h' : r'.Logged r'') : r.Logged r'' := by
  induction h' with
  | refl => exact h
  | log _ logger level msg now args ih => exact ih.log logger level msg now args

/-- What of the world is concerned with processes. -/
structure World.Core where
  children : Array Child
  nextPid : Int
  platform : String
  serviceIgnores : List Int
  serviceLost : Bool
  serviceForeign : Bool

def World.core (w : World) : World.Core :=
  { children := w.children, nextPid := w.nextPid, platform := w.platform,
    serviceIgnores := w.serviceIgnores, serviceLost := w.serviceLost,
    serviceForeign := w.serviceForeign }

def Node.title (n : Node) : String × String :=
  (n.name, n.logger)

lemma map_modify_of_eq {α β : Type} (a : Array α) (i : Nat) {f : α → α} {g : α → β}
    (h : ∀ x, g (f x) = g x) : (a.modify i f).map g = a.map g := by
  refine Array.ext_getElem? fun j => ?_
  simp only [Array.getElem?_map, Array.getElem?_modify]
  split <;> simp [h, Function.comp_def]

namespace Session

def signals (s : Session) : List (Int × Int) :=
  s.events.filterMap Event.signal?

def groupSignals (s : Session) : List (Int × Int) :=
  s.events.filterMap Event.groupSignal?

/-- What of a session is concerned with processes and their nodes, and the terminal. -/
structure Core where
  world : World.Core
  kinds : Array NodeKind
  titles : Array (String × String)
  namespaces : Array String
  groups : Array Group
  tasks : List Task
  promises : Array Promise
  launcher : Option Launcher
  terminal : Option Terminal
  signals : List (Int × Int)
  groupSignals : List (Int × Int)

def core (s : Session) : Core :=
  { world := s.world.core, kinds := s.nodes.map Node.kind, titles := s.nodes.map Node.title,
    namespaces := s.nodes.map Node.ns, groups := s.groups, tasks := s.tasks, promises := s.promises,
    launcher := s.launcher.map fun l => { l with adapterRunning := false },
    terminal := s.terminal, signals := s.signals, groupSignals := s.groupSignals }

end Session

/-- Only what is not of the core has changed, and messages may have been logged. -/
structure Calm (s t : Session) : Prop where
  core : t.core = s.core
  log : s.log.Logged t.log

instance : IsPreorder Session Calm where
  refl _ := ⟨rfl, .refl⟩
  trans _ _ _ h h' := ⟨h'.core.trans h.core, h.log.trans h'.log⟩

variable {s t : Session}

lemma Calm.of_core (h : t.core = s.core) (hl : t.log = s.log) : Calm s t :=
  ⟨h, hl ▸ .refl⟩

/-- A relation between sessions that calm steps keep. -/
class Tolerant (R : SessionRel) : Prop extends IsPreorder Session R where
  calm : ∀ s t, Calm s t → R s t

instance : Tolerant Calm where
  calm _ _ h := h

def Node.given (n : Node) : Node :=
  { n with lifecycle := none, liveParamsReady := false }

/-- A calm step that leaves to the nodes what they were given, and to the launcher its
arguments. -/
structure Light (s t : Session) : Prop where
  calm : Calm s t
  given : t.nodes.map Node.given = s.nodes.map Node.given
  args : t.launchArgs = s.launchArgs

instance : IsPreorder Session Light where
  refl s := ⟨refl_of Calm s, rfl, rfl⟩
  trans _ _ _ h h' :=
    ⟨trans_of Calm h.calm h'.calm, h'.given.trans h.given, h'.args.trans h.args⟩

lemma Light.of_core (h : t.core = s.core) (hl : t.log = s.log) (hn : t.nodes = s.nodes)
    (ha : t.launchArgs = s.launchArgs) : Light s t :=
  ⟨.of_core h hl, by rw [hn], ha⟩

/-- A relation between sessions that light steps keep. -/
class Lenient (R : SessionRel) : Prop extends IsPreorder Session R where
  light : ∀ s t, Light s t → R s t

instance : Lenient Light where
  light _ _ h := h

instance {R : SessionRel} [Tolerant R] : Lenient R where
  light s t h := Tolerant.calm s t h.calm

/-- Only what is written has changed: the screen, the files and, as messages were logged, the
registry. -/
def Written (s t : Session) : Prop :=
  ∃ log out files, s.log.Logged log ∧ t = { s with log, out, world := { s.world with files } }

instance : IsPreorder Session Written where
  refl _ := ⟨_, _, _, .refl, rfl⟩
  trans := by
    rintro _ _ _ ⟨_, _, _, h, rfl⟩ ⟨_, _, _, h', rfl⟩
    exact ⟨_, _, _, h.trans h', rfl⟩

lemma Written.light (h : Written s t) : Light s t := by
  obtain ⟨_, _, _, h, rfl⟩ := h
  exact ⟨⟨rfl, h⟩, rfl, rfl⟩

lemma Written.nodes_eq (h : Written s t) : t.nodes = s.nodes := by
  obtain ⟨_, _, _, -, rfl⟩ := h
  rfl

/-- A relation between sessions that holds whatever is written. -/
class Writable (R : SessionRel) : Prop extends IsPreorder Session R where
  written : ∀ s t, Written s t → R s t

instance : Writable Written where
  written _ _ h := h

instance {R : SessionRel} [Lenient R] : Writable R where
  written s t h := Lenient.light s t h.light

namespace Launch

variable {α β : Type} {R : SessionRel}

lemma keeps_of_calm [Tolerant R] {x : Launch α} (h : Keeps Calm x) : Keeps R x :=
  h.mono Tolerant.calm

lemma keeps_of_light [Lenient R] {x : Launch α} (h : Keeps Light x) : Keeps R x :=
  h.mono Lenient.light

/-! ## Reading -/

section Reading

variable [IsPreorder Session R]
variable {s : Session} {i : Nat} {E : Post Stop}

variable {t : String} {v : Value}

@[grind ←]
lemma keeps_told {c : Cause} : Keeps R (told c t : Launch α) :=
  .throw

@[grind ←]
lemma keeps_silent {c : Cause} : Keeps R (silent c t : Launch α) :=
  .throw

@[grind ←]
lemma keeps_lift {r : Try α} : Keeps R (lift r) := by
  unfold lift
  grind

@[grind ←]
lemma keeps_getNode : Keeps R (getNode i) := by
  unfold getNode
  grind

lemma yields_getNode {n : Node} (h : s.nodes[i]? = some n) :
    Yields (getNode i) s (fun m t => m = n ∧ t = s) E := by
  refine .of_bind (.get ?_)
  rw [h]
  exact .pure ⟨rfl, rfl⟩

lemma yields_getLauncher_of {l : Launcher} (h : s.launcher = some l) :
    Yields getLauncher s (fun k t => k = l ∧ t = s) E := by
  simp only [getLauncher, yields_bind, yields_get, h]
  exact .pure ⟨rfl, rfl⟩

lemma yields_getGroup_of {g : Group} (h : s.groups[i]? = some g) :
    Yields (getGroup i) s (fun k t => k = g ∧ t = s) E := by
  simp only [getGroup, yields_bind, yields_get, h]
  exact .pure ⟨rfl, rfl⟩

lemma node_of_kind {view : NodeKind → Option α} {a : α}
    (h : s.core.kinds[i]?.bind view = some a) :
    ∃ n, s.nodes[i]? = some n ∧ view n.kind = some a := by
  obtain ⟨kind, hkind, ha⟩ := Option.bind_eq_some_iff.1 h
  obtain ⟨n, hn, rfl⟩ : ∃ n, s.nodes[i]? = some n ∧ n.kind = kind := by
    simpa [Session.core] using hkind
  exact ⟨n, hn, ha⟩

lemma yields_view {view : NodeKind → Option α} {f : Node → Launch α}
    (hf : ∀ n : Node, f n = (view n.kind).elim (silent .noAttribute) pure) (i : Nat) (s : Session) :
    Yields (getNode i >>= f) s (fun a t => t = s ∧ s.core.kinds[i]?.bind view = some a)
      (fun _ t => t = s ∧ s.core.kinds[i]?.bind view = none) := by
  simp only [getNode, yields_bind, yields_get, Session.core, Array.getElem?_map]
  cases s.nodes[i]? with
  | none => exact .throw ⟨rfl, rfl⟩
  | some n =>
    rw [yields_pure, hf]
    cases hview : view n.kind with
    | none => exact .throw ⟨rfl, hview⟩
    | some a => exact .pure ⟨rfl, hview⟩

lemma run_getNode {n : Node} (h : s.nodes[i]? = some n) : (getNode i).run s = .ok n s := by
  obtain ⟨_, _, hrun, rfl, rfl⟩ := (yields_getNode (E := fun _ _ => False) h).exists_ok
  exact hrun

@[grind ←]
lemma keeps_getGroup : Keeps R (getGroup i) := by
  unfold getGroup
  grind

@[grind ←]
lemma keeps_getLauncher : Keeps R getLauncher := by
  unfold getLauncher
  grind

@[grind ←]
lemma keeps_getChild {c : Nat} : Keeps R (getChild c) := by
  unfold getChild
  grind

@[grind ←]
lemma keeps_textOf : Keeps R (textOf v) := by
  unfold textOf
  grind

@[grind ←]
lemma keeps_getEnv? (k : String) : Keeps R (getEnv? k) :=
  keeps_get.bind fun _ => .pure

@[grind ←]
lemma keeps_getProcess : Keeps R (getProcess i) := by
  unfold getProcess
  grind

@[grind ←]
lemma keeps_now : Keeps R now :=
  keeps_get.bind fun _ => .pure

@[grind ←]
lemma keeps_millis {x : Float} : Keeps R (millis x) := by
  unfold millis
  grind

@[grind ←]
lemma keeps_waitRounds {timeout : Value} : Keeps R (waitRounds timeout) := by
  unfold waitRounds
  grind

@[grind ←]
lemma keeps_seconds : Keeps R (seconds v) := by
  unfold seconds
  grind

@[grind ←]
lemma keeps_limitOf : Keeps R (limitOf v) :=
  keeps_seconds.bind fun _ => Keeps.ite .pure keeps_millis

@[grind ←]
lemma keeps_lessThan {a b : Value} : Keeps R (lessThan a b) :=
  keeps_lift

@[grind ←]
lemma keeps_signalOf : Keeps R (signalOf v) := by
  unfold signalOf
  grind

@[grind ←]
lemma keeps_reportOf : Keeps R (reportOf v) :=
  keeps_get.bind fun _ => .pure

@[grind ←]
lemma keeps_plainReportOf : Keeps R (plainReportOf v) :=
  keeps_get.bind fun _ => .pure

@[grind ←]
lemma keeps_kindOf : Keeps R (kindOf v) := by
  unfold kindOf
  grind

@[grind ←]
lemma keeps_display : Keeps R (display v) := by
  unfold display
  split
  · refine keeps_get.bind fun s => ?_
    split
    · exact .pure
    · exact .pure
  · exact keeps_get.bind fun _ => .pure
  · exact .pure

lemma yields_display (reason : Value) (s : Session) :
    Yields (display reason) s (fun why t => t = s ∧ ∀ w, reason = .str w → w = why) E := by
  unfold display
  split
  · refine .of_bind (.get ?_)
    split
    all_goals exact .pure ⟨rfl, fun _ h => by cases h⟩
  · exact .of_bind (.get (.pure ⟨rfl, fun _ h => by cases h⟩))
  · refine .pure ⟨rfl, ?_⟩
    rintro w rfl
    rfl

end Reading

/-! ## Writing -/

section Writing

variable [Writable R]

@[grind ←]
lemma keeps_write {t : String} : Keeps R (write t) :=
  keeps_modify fun _ => Writable.written _ _ ⟨_, _, _, .refl, rfl⟩

@[grind ←]
lemma keeps_writeTo {t : Log.Target × String} : Keeps R (writeTo t) := by
  unfold writeTo
  split
  · exact keeps_write
  · exact keeps_modify fun _ => Writable.written _ _ ⟨_, _, _, .refl, rfl⟩

@[grind ←]
lemma keeps_log (logger : String) (level : Int) (msg : String) (args : List Value) :
    Keeps R (log logger level msg args) := by
  intro s
  unfold log
  simp only [yields_bind, yields_get, yields_set]
  have hset : R s { s with log :=
      (s.log.log logger (.int level) (.str msg) (timeOf s.world.clock) args).1 } :=
    Writable.written _ _ ⟨_, _, _, Log.Registry.Logged.refl.log logger level msg _ args, rfl⟩
  refine ((Keeps.forM _ fun t _ => keeps_writeTo).then hset).map fun _ _ h => ?_
  exact keeps_lift.then h

variable {logger msg : String}

@[grind ←]
lemma keeps_info : Keeps R (info logger msg) :=
  keeps_log logger _ msg _

@[grind ←]
lemma keeps_warn : Keeps R (warn logger msg) :=
  keeps_log logger _ msg _

@[grind ←]
lemma keeps_error : Keeps R (error logger msg) :=
  keeps_log logger _ msg _

@[grind ←]
lemma keeps_critical : Keeps R (critical logger msg) :=
  keeps_log logger _ msg _

end Writing

variable [Lenient R]

lemma keeps_get_set {f : Session → Session} {x : Session → Launch α} (hf : ∀ s, Light s (f s))
    (hx : ∀ s, Keeps R (x s)) :
    Keeps R (do
      let s ← get
      set (f s)
      x s) := by
  intro s
  simp only [yields_bind, yields_get, yields_set]
  exact (hx s).then (Lenient.light _ _ (hf s))

@[grind ←]
lemma keeps_emit {e : Event} (h : e.signal? = none) (h' : e.groupSignal? = none) :
    Keeps R (emit e) := by
  refine keeps_of_light (keeps_modify fun s => .of_core ?_ rfl rfl rfl)
  simp [Session.core, Session.signals, Session.groupSignals, h, h']

@[grind ←]
lemma keeps_noteCall {c : GraphCall} : Keeps R (noteCall c) :=
  keeps_of_light (keeps_modify fun _ => .of_core rfl rfl rfl rfl)

@[grind ←]
lemma keeps_modifyWorld {f : World → World} (h : ∀ w, (f w).core = w.core) :
    Keeps R (modifyWorld f) := by
  refine keeps_of_light (keeps_modify fun s => .of_core ?_ rfl rfl rfl)
  simp only [Session.core, h, Session.signals, Session.groupSignals]

@[grind ←]
lemma keeps_advance {ms : Int} : Keeps R (advance ms) :=
  keeps_modifyWorld fun _ => rfl

@[grind ←]
lemma keeps_sleep (x : Float) : Keeps R (sleep x) :=
  keeps_millis.bind fun _ => keeps_advance

@[grind ←]
lemma keeps_sleepOn (x : Float) : Keeps R (sleepOn x) :=
  (keeps_sleep x).bind fun _ => keeps_get.bind fun _ => Keeps.ite .throw .pure

@[grind ←]
lemma keeps_pause : Keeps R (pause v) :=
  keeps_limitOf.bind fun _ => keeps_advance

@[grind ←]
lemma keeps_endsInTime {life : Script.Lifetime} : Keeps R (endsInTime life v) := by
  unfold endsInTime
  grind

@[grind ←]
lemma keeps_modifyNode {R : SessionRel} [Tolerant R] (i : Nat) {f : Node → Node}
    (h : ∀ n, (f n).kind = n.kind) (h' : ∀ n, (f n).title = n.title)
    (h'' : ∀ n, (f n).ns = n.ns) : Keeps R (modifyNode i f) := by
  refine keeps_of_calm (keeps_modify fun s => .of_core ?_ rfl)
  simp only [Session.core, Session.signals, Session.groupSignals, map_modify_of_eq _ _ h,
    map_modify_of_eq _ _ h', map_modify_of_eq _ _ h'']

@[grind ←]
lemma keeps_modifyNode_given (i : Nat) {f : Node → Node} (h : ∀ n, (f n).given = n.given) :
    Keeps R (modifyNode i f) := by
  have field {γ : Type} {g : Node → γ} (hg : ∀ n, g n.given = g n) (n : Node) : g (f n) = g n := by
    rw [← hg (f n), h, hg]
  refine keeps_of_light (keeps_modify fun s => ⟨?_, map_modify_of_eq _ _ h, rfl⟩)
  have hcalm := keeps_modifyNode (R := Calm) i (field fun _ => rfl) (field fun _ => rfl)
    (field fun _ => rfl) s
  exact (yields_modify _).1 hcalm

lemma keeps_modifyLauncher {f : Launcher → Launcher}
    (h : ∀ l, { f l with adapterRunning := false } = { l with adapterRunning := false }) :
    Keeps R (modifyLauncher f) := by
  refine keeps_of_light (keeps_modify fun s => .of_core ?_ rfl rfl rfl)
  simp only [Session.core, Session.signals, Session.groupSignals, Option.map_map,
    Function.comp_def, h]

/-! ## The node graph -/

@[grind ←]
lemma keeps_useAdapter : Keeps R useAdapter := by
  refine keeps_getLauncher.bind fun l => Keeps.ite .pure ?_
  exact Keeps.bind keeps_noteCall fun _ => keeps_modifyLauncher fun _ => rfl

@[grind ←]
lemma keeps_stopAdapter : Keeps R stopAdapter := by
  refine keeps_getLauncher.bind fun l => Keeps.ite ?_ .pure
  refine keeps_noteCall.bind fun _ => ?_
  refine Keeps.bind (keeps_modifyLauncher fun _ => rfl) fun _ => keeps_get.bind fun s => ?_
  split
  · exact keeps_told
  · exact .pure

@[grind ←]
lemma keeps_graphNodeNames : Keeps R graphNodeNames := by
  unfold graphNodeNames
  grind

variable {timeout : Value} {found : Launch Bool} {type : String} {state : Int}
  {fields : Named}

@[grind ←]
lemma keeps_timedOut {start : Float} {reached : Bool} :
    Keeps R (timedOut start timeout reached) := by
  unfold timedOut
  grind

@[grind ←]
lemma keeps_waitUntil (hf : Keeps R found) (timeout : Value) (reached : Bool) (start : Float)
    (n : Nat) : Keeps R (waitUntil found timeout reached start n) := by
  induction n with
  | zero => exact .pure
  | succ n ih =>
    refine hf.bind fun b => Keeps.ite .pure ?_
    refine keeps_timedOut.bind fun b => Keeps.ite .pure ?_
    exact (keeps_sleep _).bind fun _ => ih

@[grind ←]
lemma keeps_wait (hf : Keeps R found) (timeout : Value) (reached : Bool) :
    Keeps R (wait found timeout reached) := by
  unfold wait
  grind

@[grind ←]
lemma keeps_serviceQuality (v : Value) : Keeps R (serviceQuality v) :=
  Keeps.ite keeps_plainReportOf .pure

@[grind ←]
lemma keeps_keepTopic (topic : Value) : Keeps R (keepTopic topic) :=
  keeps_get_set (fun _ => .of_core rfl rfl rfl rfl) fun _ => .pure

variable {topic : Value}

@[grind ←]
lemma keeps_openClient {qos : Report} : Keeps R (openClient topic type qos) := by
  unfold openClient
  grind

@[grind ←]
lemma keeps_awaitService {kind : String} {t : Float} : Keeps R (awaitService kind topic t) := by
  refine keeps_get.bind fun s => keeps_reportOf.bind fun r => ?_
  refine keeps_millis.bind fun span => ?_
  have missed : Keeps R (do
      advance span
      noteCall (.waited kind r false)
      return false) :=
    keeps_advance.bind fun _ => keeps_noteCall.bind fun _ => .pure
  dsimp only
  split
  · exact missed
  · refine Keeps.ite ?_ missed
    refine Keeps.ite (Keeps.bind (keeps_modifyWorld fun _ => rfl) fun _ => ?_) ?_
    all_goals exact keeps_noteCall.bind fun _ => .pure

@[grind ←]
lemma keeps_serviceClient {qos : Value} : Keeps R (serviceClient topic type timeout qos) := by
  unfold serviceClient
  grind

@[grind ←]
lemma keeps_takeResponse : Keeps R (takeResponse topic) := by
  refine keeps_get.bind fun s => ?_
  dsimp only
  split
  · exact Keeps.bind (keeps_modifyWorld fun _ => rfl) fun _ => .pure
  · exact .pure

@[grind ←]
lemma keeps_setLifecycle {node : Nat} : Keeps R (setLifecycle node state) :=
  keeps_modifyNode_given node fun _ => rfl

@[grind ←]
lemma keeps_callValue {f : Value} {args : List Value} : Keeps R (callValue f args) := by
  unfold callValue
  split
  · refine keeps_get.bind fun s => ?_
    split
    · refine keeps_get.bind fun s => (keeps_emit rfl rfl).bind fun _ => ?_
      split
      · exact .throw
      · exact .pure
    · exact keeps_silent
  · exact keeps_kindOf.bind fun _ => keeps_silent

@[grind ←]
lemma keeps_keepMessage : Keeps R (keepMessage type fields) :=
  keeps_get_set (fun _ => .of_core rfl rfl rfl rfl) fun _ => .pure

@[grind ←]
lemma keeps_deliverState {topic : String} : Keeps R (deliverState topic state) := by
  refine keeps_get.bind fun s => ?_
  dsimp only
  refine (Keeps.forM _ fun e _ => ?_).bind fun _ => .pure
  split
  · exact keeps_setLifecycle
  · refine keeps_get_set (fun _ => .of_core rfl rfl rfl rfl) fun s => ?_
    exact keeps_callValue.bind fun _ => .pure

@[grind ←]
lemma keeps_request {asynchronous : Bool} : Keeps R (request asynchronous topic type fields) := by
  refine keeps_get.bind fun s => keeps_noteCall.bind fun _ => ?_
  refine keeps_takeResponse.bind fun r => ?_
  refine (Keeps.forM _ fun e _ => ?_).bind fun _ => .pure
  exact keeps_textOf.bind fun t => keeps_deliverState.bind fun _ => .pure

@[grind ←]
lemma keeps_callWith {qos : Value} : Keeps R (callWith topic type fields timeout qos) := by
  unfold callWith
  grind

@[grind ←]
lemma keeps_callAsync {qos : Value} : Keeps R (callAsync topic type fields timeout qos) := by
  refine keeps_serviceClient.bind fun _ => ?_
  refine keeps_request.bind fun r => ?_
  refine keeps_keepMessage.bind fun m => ?_
  exact keeps_get_set (fun _ => .of_core rfl rfl rfl rfl) fun _ => .pure

@[grind ←]
lemma keeps_replyDone {i : Nat} : Keeps R (replyDone i) := by
  refine keeps_of_light fun s => ?_
  simp only [replyDone, yields_bind, yields_get]
  split
  · exact keeps_silent s
  · split
    · split
      · refine .of_bind (.set (Keeps.then ?_ (Light.of_core rfl rfl rfl rfl)))
        split
        · exact keeps_noteCall.bind fun _ => .pure
        · exact .pure
      · exact Keeps.pure s
    · exact Keeps.pure s

end Launch

end Launchpad
