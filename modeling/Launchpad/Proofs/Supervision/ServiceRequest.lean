import Launchpad.Proofs.Launch.Messages
import Launchpad.Proofs.Supervision.Scene

/-!
How a launch service is asked to end. Each request sends the next signal: the service is interrupted
first, then it is told to terminate, and then it is killed. A request may also send nothing, if its
message cannot be logged or if signals do not get through.
-/

namespace Launchpad

open Session.Core

/-- How far the requests to a launch service have gone. -/
def ServiceNode.level (n : ServiceNode) : Nat :=
  if n.terminateRequested then 2 else if n.shutdownRequested then 1 else 0

namespace Launch

/-- The signal that a request sends. -/
def levelSignal : Nat → Int
  | 0 => interruptSignal
  | 1 => Script.termSignal
  | _ => killSignal

def requestText (name why : String) : Nat → String
  | 0 => s!"Asking {name} to shutdown gracefully via SIGINT ({why})"
  | 1 => s!"{name} is still runing, escalating to SIGTERM ({why})"
  | _ => s!"{why} - {name} was asked to terminate with SIGKILL. Killing the ROS2 " ++
    "launch service may leave stale processes behind!"

end Launch

namespace Session.Core

/-- Does a launch service outlive a signal? -/
def survives (k : Core) (signal : Int) : Bool :=
  k.world.serviceLost || k.world.serviceIgnores.contains signal

/-- Can the process of a launch service be seen, and signals be sent to it? -/
def hears (k : Core) : Bool :=
  !k.world.serviceForeign && k.world.platform != "Windows"

end Session.Core

/-- Every request to a launch service is logged without a fault and gets through to its process. -/
def Session.Attentive (s : Session) (v : Nat) (why : String) : Prop :=
  s.core.hears ∧ ∀ name logger, s.core.titles[v]? = some (name, logger) →
    ∀ level, s.log.Accepts logger (Launch.requestText name why level)

structure Beside (s t : Session) : Prop where
  wrapped : ∀ i, t.core.wrapped? i = s.core.wrapped? i
  isService : ∀ i, (t.core.service? i).isSome = (s.core.service? i).isSome
  titles : t.core.titles = s.core.titles
  world : t.core.still.world = s.core.still.world
  service : t.core.launcher.bind Launcher.service = s.core.launcher.bind Launcher.service
  log : s.log.Logged t.log

structure Apart (v : Nat) (s t : Session) : Prop extends Beside s t where
  node : t.core.service? v = s.core.service? v
  groupSignals : t.core.groupSignals = s.core.groupSignals

variable {why : String} {pid : Int}

namespace Beside

variable {s t u : Session}

lemma trans (h : Beside s t) (h' : Beside t u) : Beside s u :=
  ⟨fun i => (h'.wrapped i).trans (h.wrapped i), fun i => (h'.isService i).trans (h.isService i),
    h'.titles.trans h.titles, h'.world.trans h.world, h'.service.trans h.service,
    h.log.trans h'.log⟩

lemma survives_eq (h : Beside s t) (signal : Int) :
    t.core.survives signal = s.core.survives signal := by
  have hlost := congrArg World.Core.serviceLost h.world
  have hignores := congrArg World.Core.serviceIgnores h.world
  simp only [still] at hlost hignores
  rw [survives, hlost, hignores, survives]

lemma hears_eq (h : Beside s t) : t.core.hears = s.core.hears := by
  have hforeign := congrArg World.Core.serviceForeign h.world
  have hplatform := congrArg World.Core.platform h.world
  simp only [still] at hforeign hplatform
  rw [hears, hforeign, hplatform, hears]

lemma attentive (h : Beside s t) {v : Nat} (hs : s.Attentive v why) : t.Attentive v why := by
  refine ⟨h.hears_eq ▸ hs.1, fun name logger htitle level => ?_⟩
  rw [h.titles] at htitle
  exact (hs.2 name logger htitle level).later h.log

end Beside

lemma Winds.beside {known : Prop} {P : Nat → Prop} {s t : Session} (h : Winds known P s t) :
    Beside s t := by
  refine ⟨h.wrapped, h.isService, ?_, ?_, ?_, h.log⟩
  · exact congrArg (fun k => k.titles) h.still
  · exact congrArg (fun k => k.world) h.still
  · exact congrArg (fun k => k.launcher.bind Launcher.service) h.still

lemma Aged.apart {v : Nat} {s t : Session} (h : Aged s t) : Apart v s t := by
  have hwinds : Winds False (fun _ => False) s t := .of_aged h
  refine ⟨hwinds.beside, hwinds.service v id, ?_⟩
  rw [h.core]

instance (v : Nat) : Patient (Apart v) where
  refl s := (refl_of Aged s).apart
  trans _ _ _ h h' :=
    ⟨h.toBeside.trans h'.toBeside, h'.node.trans h.node, h'.groupSignals.trans h.groupSignals⟩
  calm _ _ h := (Tolerant.calm (R := Aged) _ _ h).apart
  aged _ _ h := h.apart

/-- What comes of a signal for a launch service. Either nothing is sent, which must have a reason if
its process is alive; or the signal is sent, and the process ends unless it survives it. -/
inductive Delivers (v : Nat) (n : ServiceNode) (signal : Int) (s t : Session) : Prop where
  | held (q : ServiceProcess) (hnode : t.core.service? v = some { n with process := q })
      (hq : q = n.process ∨ ∃ pid, q = .ended pid)
      (hgroup : t.core.groupSignals = s.core.groupSignals)
      (hdeaf : ∀ pid, n.process = .alive pid → ¬ s.core.hears)
  | sends (pid : Int) (q : ServiceProcess) (hpid : n.process = .alive pid)
      (hnode : t.core.service? v = some { n with process := q })
      (hq : q = if s.core.survives signal then .alive pid else .ended pid)
      (hgroup : t.core.groupSignals = s.core.groupSignals ++ [(signal, pid)])

open Launch in
/-- What comes of a request to a launch service. Either nothing is sent, which must have a reason if
its process is alive; or the signal of its level is sent, and the level has risen. -/
inductive Asked (v : Nat) (reason : Value) (s t : Session) : Prop where
  | held (n m : ServiceNode) (hn : s.core.service? v = some n) (hm : t.core.service? v = some m)
      (hlevel : m.level = n.level ∨ m.level = min (n.level + 1) 2)
      (hprocess : m.process = n.process ∨ ∃ pid, m.process = .ended pid)
      (hgroup : t.core.groupSignals = s.core.groupSignals)
      (hwhy : ∀ pid why, n.process = .alive pid → reason = .str why → ¬ s.Attentive v why)
  | signals (n m : ServiceNode) (pid : Int) (hn : s.core.service? v = some n)
      (hpid : n.process = .alive pid) (hm : t.core.service? v = some m)
      (hlevel : m.level = min (n.level + 1) 2)
      (hprocess : m.process =
        if s.core.survives (levelSignal n.level) then .alive pid else .ended pid)
      (hgroup : t.core.groupSignals = s.core.groupSignals ++ [(levelSignal n.level, pid)])

namespace Asked

variable {v : Nat} {reason : Value} {s m t : Session}

lemma of_apart (h : Apart v s m) (hm : Asked v reason m t) : Asked v reason s t := by
  cases hm with
  | held n n' hn hn' hlevel hprocess hgroup hwhy =>
    refine .held n n' (h.node ▸ hn) hn' hlevel hprocess (hgroup.trans h.groupSignals) ?_
    exact fun pid why hpid hreason hs => hwhy pid why hpid hreason (h.attentive hs)
  | signals n n' pid hn hpid hn' hlevel hprocess hgroup =>
    rw [h.survives_eq] at hprocess
    rw [h.groupSignals] at hgroup
    exact .signals n n' pid (h.node ▸ hn) hpid hn' hlevel hprocess hgroup

lemma then_apart (h : Asked v reason s m) (hm : Apart v m t) : Asked v reason s t := by
  cases h with
  | held n n' hn hn' hlevel hprocess hgroup hwhy =>
    exact .held n n' hn (hm.node.trans hn') hlevel hprocess (hm.groupSignals.trans hgroup) hwhy
  | signals n n' pid hn hpid hn' hlevel hprocess hgroup =>
    exact .signals n n' pid hn hpid (hm.node.trans hn') hlevel hprocess
      (hm.groupSignals.trans hgroup)

variable {n : ServiceNode}

open Launch in
lemma sent (h : Asked v reason s t) (hn : s.core.service? v = some n) :
    t.core.groupSignals = s.core.groupSignals ∨
      ∃ pid, n.process = .alive pid ∧
        t.core.groupSignals = s.core.groupSignals ++ [(levelSignal n.level, pid)] := by
  cases h with
  | held n' m hn' hm hlevel hprocess hgroup hwhy => exact .inl hgroup
  | signals n' m pid hn' hpid hm hlevel hprocess hgroup =>
    obtain rfl : n = n' := Option.mem_unique hn hn'
    exact .inr ⟨pid, hpid, hgroup⟩

open Launch in
lemma outcome (h : Asked v reason s t) (hn : s.core.service? v = some n)
    (hpid : n.process = .alive pid) :
    ∃ m, t.core.service? v = some m ∧
      ((t.core.groupSignals = s.core.groupSignals ∧
          (∀ q, m.process = .alive q → q = pid) ∧
          (m.level = n.level ∨ m.level = min (n.level + 1) 2) ∧
          ∀ why, reason = .str why → ¬ s.Attentive v why) ∨
        (t.core.groupSignals = s.core.groupSignals ++ [(levelSignal n.level, pid)] ∧
          m.level = min (n.level + 1) 2 ∧
          m.process = if s.core.survives (levelSignal n.level) then .alive pid
            else .ended pid)) := by
  cases h with
  | held n' m hn' hm hlevel hprocess hgroup hwhy =>
    obtain rfl : n = n' := Option.mem_unique hn hn'
    refine ⟨m, hm, .inl ⟨hgroup, fun q hq => ?_, hlevel, fun why => hwhy pid why hpid⟩⟩
    rcases hprocess with hprocess | ⟨_, hprocess⟩
    · rw [hq, hpid] at hprocess
      exact ServiceProcess.alive.inj hprocess
    · rw [hq] at hprocess
      cases hprocess
  | signals n' m pid' hn' hpid' hm hlevel hprocess hgroup =>
    obtain rfl : n = n' := Option.mem_unique hn hn'
    obtain rfl : pid = pid' := ServiceProcess.alive.inj (hpid.symm.trans hpid')
    exact ⟨m, hm, .inr ⟨hgroup, hlevel, hprocess⟩⟩

open Launch in
lemma signalled (h : Asked v (.str why) s t) (hn : s.core.service? v = some n)
    (hpid : n.process = .alive pid) (hs : s.Attentive v why) :
    ∃ m, t.core.service? v = some m ∧
      t.core.groupSignals = s.core.groupSignals ++ [(levelSignal n.level, pid)] ∧
      m.level = min (n.level + 1) 2 ∧
      m.process = if s.core.survives (levelSignal n.level) then .alive pid else .ended pid := by
  obtain ⟨m, hm, ⟨-, -, -, hwhy⟩ | hsent⟩ := h.outcome hn hpid
  · exact absurd hs (hwhy why rfl)
  · exact ⟨m, hm, hsent⟩

lemma isSome (h : Asked v reason s t) : (t.core.service? v).isSome := by
  cases h with
  | held _ _ _ hm => rw [hm]; rfl
  | signals _ _ _ _ _ hm => rw [hm]; rfl

lemma idle (hn : s.core.service? v = some n) (h : Apart v s t)
    (hdeaf : ∀ pid, n.process = .alive pid → ¬ s.core.hears) : Asked v reason s t :=
  .held n n hn (h.node.trans hn) (.inl rfl) (.inl rfl) h.groupSignals
    fun pid _ hpid _ hs => hdeaf pid hpid hs.1

end Asked

def Raised (v : Nat) (n : ServiceNode) (t : Session) : Prop :=
  ∃ m, t.core.service? v = some m ∧ m.level = min (n.level + 1) 2

open Launch in
lemma Delivers.asked {v : Nat} {n n' : ServiceNode} {reason : Value} {s m t : Session}
    (hn : s.core.service? v = some n) (hsm : Beside s m)
    (hgroup : m.core.groupSignals = s.core.groupSignals) (hprocess : n'.process = n.process)
    (hlevel : n'.level = min (n.level + 1) 2) (h : Delivers v n' (levelSignal n.level) m t) :
    Asked v reason s t ∧ Raised v n t := by
  cases h with
  | held q hnode hq hsent hdeaf =>
    refine ⟨.held n { n' with process := q } hn hnode (.inr hlevel) (hprocess ▸ hq)
      (hsent.trans hgroup) fun pid why hpid _ hs => hdeaf pid (hprocess.trans hpid) ?_,
      _, hnode, hlevel⟩
    rw [hsm.hears_eq]
    exact hs.1
  | sends pid q hpid hnode hq hsent =>
    rw [hsm.survives_eq] at hq
    rw [hgroup] at hsent
    exact ⟨.signals n { n' with process := q } pid hn (hprocess.symm.trans hpid) hnode hlevel hq
      hsent, _, hnode, hlevel⟩

namespace Launch

variable {s : Session} {signal : Value}

/-! ## The process of a launch service -/

variable {v : Nat} {n : ServiceNode}

section

variable (h : s.core.service? v = some n)
include h

lemma node_of_service : ∃ d, s.nodes[v]? = some d ∧ d.kind = .service n := by
  obtain ⟨d, hd, hview⟩ := node_of_kind h
  cases hkind : d.kind <;> simp_all [NodeKind.service?]

lemma yields_getService_of : Succeeds (getService v) s (fun m t => m = n ∧ t = s) := by
  obtain ⟨d, hd, hkind⟩ := node_of_service h
  simp only [getService, getNode, yields_bind, yields_get, hd, yields_pure, hkind, and_self]

lemma yields_isRunning_service :
    Yields (isRunning v) s
      (fun b t => t = s ∧ (b.truthy ↔ ∃ pid, n.process = .alive pid))
      (fun _ t => t = s ∧ ¬ s.core.hears) := by
  obtain ⟨d, hd, hkind⟩ := node_of_service h
  simp only [isRunning, runningWith, getNode, yields_bind, yields_get, hd, yields_pure, hkind]
  have asked (b : Bool) (hb : b ↔ ∃ pid, n.process = .alive pid) :
      Yields (do
        if (← get).world.serviceForeign then told .assertion "can only test a child process"
        else return .bool b : Launch Value) s
        (fun b t => t = s ∧ (b.truthy ↔ ∃ pid, n.process = .alive pid))
        (fun _ t => t = s ∧ ¬ s.core.hears) := by
    refine .of_bind (.get ?_)
    split
    · next hforeign =>
      refine .throw ⟨rfl, ?_⟩
      have : s.core.world.serviceForeign = true := hforeign
      simp [hears, this]
    · exact .pure ⟨rfl, by simpa [Value.truthy] using hb⟩
  unfold serviceRunning
  cases hp : n.process with
  | none => exact .pure ⟨rfl, by simp [Value.truthy]⟩
  | alive pid => exact (hp ▸ asked true) (by simp)
  | ended pid => exact (hp ▸ asked false) (by simp)
  | closed => exact .pure ⟨rfl, by simp [Value.truthy]⟩

lemma yields_modifyService {E : Post Stop} (f : ServiceNode → ServiceNode) :
    Yields (modifyService v f) s (fun _ t => Beside s t ∧ t.core.service? v = some (f n) ∧
      t.core.groupSignals = s.core.groupSignals) E := by
  have winds : Keeps (Winds True (· = v)) (modifyService v f) :=
    keeps_modifyService (P := (· = v)) rfl f
  obtain ⟨d, hd, hkind⟩ := node_of_service h
  refine .modify ⟨((yields_modify _).1 (winds s)).beside, ?_, rfl⟩
  simp [service?, Session.core, Array.getElem?_modify, hd, hkind, NodeKind.service?]

lemma delivers_signalGroup (hpid : n.process = .alive pid) (num : Int) :
    EndsIn (signalGroup v pid num) s (Launchpad.Delivers v n num s) := by
  refine .of_bind (.get (.of_bind ?_))
  refine (yields_emit_groupSignalled num pid s).map fun _ t ht => ?_
  have hgroup : t.core.groupSignals = s.core.groupSignals ++ [(num, pid)] := by rw [ht]
  have hnode : t.core.service? v = some n := by
    rw [ht]
    exact h
  have hs : s.core.survives num =
      (s.world.serviceLost || s.world.serviceIgnores.contains num) := rfl
  have alive (hs : s.core.survives num) : Launchpad.Delivers v n num s t :=
    .sends pid n.process hpid hnode (by rw [if_pos hs, hpid]) hgroup
  dsimp only
  split
  · next hlost =>
    refine .of_bind (.throw (alive ?_))
    rw [hs, hlost, Bool.true_or]
  next hlost =>
  rw [Bool.not_eq_true] at hlost
  split
  · next hends =>
    rw [Bool.not_eq_true'] at hends
    refine (yields_modifyService hnode _).map fun _ u hu => ?_
    refine .sends pid (.ended pid) hpid hu.2.1 ?_ (hu.2.2.trans hgroup)
    rw [hs, hlost, hends, Bool.or_self, if_neg Bool.false_ne_true]
  · next hignores =>
    rw [Bool.not_eq_true', Bool.not_eq_false] at hignores
    refine .pure (alive ?_)
    rw [hs, hignores, Bool.or_true]

lemma delivers_closeService (hdeaf : ¬ s.core.hears) (signal : Value) (num : Int) :
    EndsIn (closeService v pid signal) s (Launchpad.Delivers v n num s) := by
  have held {t : Session} (ht : Calm s t) : Launchpad.Delivers v n num s t := by
    refine .held n.process (by rw [ht.core, h]) (.inl rfl) (by rw [ht.core]) fun _ _ => hdeaf
  have emits (e : Event) (he : e.signal? = none) (he' : e.groupSignal? = none) :=
    keeps_emit (R := Calm) he he' s
  refine Yields.ite ((emits _ rfl rfl).imp (fun _ _ ht => held ht) fun _ _ ht => held ht)
    (Yields.ite ?_ (.pure (held (refl_of Calm s))))
  refine (emits _ rfl rfl).seq (fun _ t ht => ?_) fun _ _ ht => held ht
  have hnode : t.core.service? v = some n := by rw [ht.core, h]
  refine (yields_modifyService hnode _).map fun _ u hu => ?_
  exact .held (.ended pid) hu.2.1 (.inr ⟨pid, rfl⟩) (by rw [hu.2.2, ht.core]) fun _ _ => hdeaf

lemma delivers_signalService (num : Int) :
    EndsIn (signalService v (.int num)) s (Launchpad.Delivers v n num s) := by
  have held (hdeaf : ∀ pid, n.process = .alive pid → ¬ s.core.hears) :
      Launchpad.Delivers v n num s s :=
    .held n.process h (.inl rfl) rfl hdeaf
  refine (yields_isRunning_service h).seq ?_ ?_
  · rintro b s ⟨rfl, hb⟩
    split
    · next hidle =>
      refine .pure (held fun pid hpid => ?_)
      have hrun := hb.2 ⟨pid, hpid⟩
      simp [hrun] at hidle
    next hrun =>
    obtain ⟨pid, hpid⟩ := hb.1 (by simpa using hrun)
    refine (yields_getService_of h).exactly ?_
    simp only [hpid]
    refine .of_bind (.get ?_)
    split
    · next hwindows =>
      have hwindows : s.core.world.platform = "Windows" := eq_of_beq hwindows
      exact delivers_closeService h (by simp [hears, hwindows]) _ num
    · exact .of_bind (.pure (delivers_signalGroup h hpid num))
  · rintro _ _ ⟨rfl, hdeaf⟩
    exact held fun _ _ => hdeaf

end

/-! ## Requests -/

variable {reason : Value}

lemma asked_announced {u : Session} {n' : ServiceNode} {d : Node}
    (hn : s.core.service? v = some n) (hd : s.nodes[v]? = some d)
    (hreason : ∀ w, reason = .str w → w = why) (hsu : Beside s u)
    (hn' : u.core.service? v = some n') (hgroup : u.core.groupSignals = s.core.groupSignals)
    (hprocess : n'.process = n.process) (hlevel : n'.level = min (n.level + 1) 2) {grade : Int}
    (hgrade : grade ∈ [Log.info, Log.warning]) :
    EndsIn (do
      log d.logger grade (requestText d.name why n.level)
      signalService v (.int (levelSignal n.level))) u
      (fun t => Launchpad.Asked v reason s t ∧ Raised v n t) := by
  refine (yields_log _ hgrade _ u).seq (fun _ m hm => ?_) ?_
  · have hapart : Apart v u m := Tolerant.calm _ _ hm
    have hnode : m.core.service? v = some n' := hapart.node.trans hn'
    have asked {t : Session} (ht : Launchpad.Delivers v n' (levelSignal n.level) m t) :
        Launchpad.Asked v reason s t ∧ Raised v n t :=
      ht.asked hn (hsu.trans hapart.toBeside) (hapart.groupSignals.trans hgroup) hprocess hlevel
    exact (delivers_signalService hnode _).imp (fun _ _ ht => asked ht) fun _ _ ht => asked ht
  · rintro _ m ⟨hm, hrefused⟩
    have hapart : Apart v u m := Tolerant.calm _ _ hm
    refine ⟨.held n n' hn (hapart.node.trans hn') (.inr hlevel) (.inl hprocess)
      (hapart.groupSignals.trans hgroup) fun pid w _ hw hs => hrefused ?_,
      n', hapart.node.trans hn', hlevel⟩
    have htitle : s.core.titles[v]? = some (d.name, d.logger) := by
      simp [Session.core, hd, Node.title]
    obtain rfl := hreason w hw
    exact (hs.2 _ _ htitle n.level).later hsu.log

lemma asked_requestEnd {d : Node} (hn : s.core.service? v = some n) (hd : s.nodes[v]? = some d)
    (hreason : ∀ w, reason = .str w → w = why) :
    EndsIn (requestEnd v d why false) s (fun t => Launchpad.Asked v reason s t ∧ Raised v n t) := by
  -- The flag is set before the message is logged.
  have noted (f : ServiceNode → ServiceNode) (hp : (f n).process = n.process)
      (hl : (f n).level = min (n.level + 1) 2) :
      EndsIn (do
        modifyService v f
        log d.logger Log.info (requestText d.name why n.level)
        signalService v (.int (levelSignal n.level))) s
        (fun t => Launchpad.Asked v reason s t ∧ Raised v n t) := by
    refine (yields_modifyService hn f).bind ?_
    rintro _ u ⟨hsu, hnode, hgroup⟩
    exact asked_announced hn hd hreason hsu hnode hgroup hp hl (by decide)
  refine (yields_getService_of hn).andThen ?_
  rintro m s ⟨rfl, rfl⟩
  cases hterminate : m.terminateRequested with
  | true =>
    have hlevel : m.level = 2 := by simp [ServiceNode.level, hterminate]
    have announced := asked_announced hn hd hreason (refl_of (Apart v) s).toBeside hn rfl rfl
      (by rw [hlevel]; rfl) (by decide : Log.warning ∈ [Log.info, Log.warning])
    rw [hlevel] at announced
    exact announced
  | false =>
    cases hshutdown : m.shutdownRequested with
    | true =>
      have hlevel : m.level = 1 := by simp [ServiceNode.level, hterminate, hshutdown]
      have told := noted (fun n => { n with terminateRequested := true }) rfl
        (by rw [hlevel]; rfl)
      rw [hlevel] at told
      exact told
    | false =>
      have hlevel : m.level = 0 := by simp [ServiceNode.level, hterminate, hshutdown]
      have told := noted (fun n => { n with shutdownRequested := true }) rfl
        (by simp [ServiceNode.level, hterminate, hshutdown])
      rw [hlevel] at told
      exact told

lemma yields_pause (x : Float) (s : Session) :
    Yields (pause (.float x)) s (fun _ t => Calm s t) (fun e t => Calm s t ∧ e.handled?.isSome) := by
  have faults : Yields (pause (.float x)) s (fun _ _ => True) (fun e _ => e.handled?.isSome) := by
    refine Yields.seq (P := fun _ _ => True) ?_ (fun _ t _ => .modify trivial)
      fun _ _ h => h
    refine .of_bind (.pure (Yields.ite (.pure trivial) ?_))
    unfold millis
    dsimp only
    split
    · exact .of_bind (.throw rfl)
    · split
      · exact .of_bind (.throw rfl)
      · exact .pure trivial
  exact ((keeps_pause (R := Calm) s).and faults).map fun _ _ h => h.1

variable (hn : s.core.service? v = some n)
include hn

lemma yields_joinServiceProcess (x : Float) :
    Yields (joinServiceProcess v (.float x)) s (fun _ t => Calm s t)
      (fun e t => Calm s t ∧ e.handled?.isSome) := by
  refine (yields_getService_of hn).exactly ?_
  split
  · exact .throw ⟨refl_of Calm s, rfl⟩
  · exact .throw ⟨refl_of Calm s, rfl⟩
  · exact .pure (refl_of Calm s)
  · exact yields_pause x s

lemma yields_awaitTermination :
    Yields (awaitTermination v) s (fun _ t => Calm s t) (fun _ t => Calm s t ∧ ¬ s.core.hears) := by
  refine (yields_getService_of hn).exactly ?_
  refine Yields.ite ?_ (.pure (refl_of Calm s))
  refine (yields_isRunning_service hn).seq ?_ ?_
  · rintro b s ⟨rfl, -⟩
    refine Yields.ite ?_ (.pure (refl_of Calm s))
    refine (yields_joinServiceProcess hn 0.5).catchFault_of (fun f t ht _ => ?_) ?_
    · exact .pure ht.1
    · rintro e t ⟨-, hsome⟩ hnone
      simp [hnone] at hsome
  · rintro _ _ ⟨rfl, hdeaf⟩
    exact ⟨refl_of Calm _, hdeaf⟩

lemma asked_shutdownService_of {timeout : Value} {R : SessionRel}
    (hsignal : (signal == .int killSignal) = false) (hrefl : ∀ m, R m m)
    (hwait : ∀ m, (m.core.service? v).isSome → EndsIn (if timeout == .int 0 then pure () else
      joinServiceProcess v timeout) m (R m)) :
    let Q := fun t => ∃ m, (Launchpad.Asked v reason s m ∧
      ∀ pid, n.process = .alive pid → s.core.hears → Raised v n m) ∧ R m t
    EndsIn (shutdownService v reason signal timeout) s Q := by
  intro Q
  have idle {t : Session} (ht : Apart v s t)
      (hdeaf : ∀ pid, n.process = .alive pid → ¬ s.core.hears) : Q t :=
    ⟨t, ⟨.idle hn ht hdeaf, fun pid hpid hs => absurd hs (hdeaf pid hpid)⟩, hrefl t⟩
  refine (yields_awaitTermination hn).seq (fun _ m hm => ?_) ?_
  · have hsm : Apart v s m := Tolerant.calm _ _ hm
    have hnm : m.core.service? v = some n := hsm.node.trans hn
    obtain ⟨d, hd, hkind⟩ := node_of_service hnm
    refine (yields_isRunning_service hnm).seq ?_ ?_
    · rintro b m ⟨rfl, hb⟩
      split
      · next hidle =>
        refine .pure (idle hsm fun pid hpid _ => ?_)
        have hrun := hb.2 ⟨pid, hpid⟩
        simp [hrun] at hidle
      simp only [getNode, yields_bind, yields_get, hd, yields_pure, hsignal]
      refine (yields_display reason m).map ?_
      rintro why m ⟨rfl, hreason⟩
      have waited {t u : Session} (ht : Launchpad.Asked v reason m t ∧ Raised v n t) (hu : R t u) :
          Q u :=
        ⟨t, ⟨Asked.of_apart hsm ht.1, fun _ _ _ => ht.2⟩, hu⟩
      refine ((asked_requestEnd hnm hd hreason).catchFault (fun f t ht => .pure ht)
        fun _ t ht => waited ht (hrefl t)).map fun _ t ht => ?_
      exact (hwait t ht.1.isSome).imp (fun _ _ hu => waited ht hu) fun _ _ hu => waited ht hu
    · rintro _ _ ⟨rfl, hdeaf⟩
      exact idle hsm fun _ _ hs => hdeaf (hsm.hears_eq ▸ hs)
  · rintro _ t ⟨ht, hdeaf⟩
    exact idle (Tolerant.calm _ _ ht) fun _ _ => hdeaf

lemma asked_shutdownService (hsignal : (signal == .int killSignal) = false) :
    EndsIn (shutdownService v reason signal (.int 0)) s (Launchpad.Asked v reason s) := by
  have hzero : (Value.int 0 == Value.int 0) = true := by decide +kernel
  have asked : Yields (shutdownService v reason signal (.int 0)) s _ _ :=
    asked_shutdownService_of (R := fun m t => m = t) hn hsignal (fun _ => rfl) fun m _ => by
      rw [if_pos hzero]
      exact .pure rfl
  exact asked.imp (fun _ _ ⟨_, ht, heq⟩ => heq ▸ ht.1) fun _ _ ⟨_, ht, heq⟩ => heq ▸ ht.1

lemma asked_shutdownNode (hsignal : (signal == .int killSignal) = false) :
    EndsIn (shutdownNode v reason signal (.int 0)) s
      (fun t => Beside s t ∧ Launchpad.Asked v reason s t) := by
  have winds := winds_shutdownNode v reason signal (.int 0)
    (refl_of (Winds _ fun _ => True) s) fun _ _ => trivial
  have asked : EndsIn (shutdownNode v reason signal (.int 0)) s (Launchpad.Asked v reason s) := by
    obtain ⟨d, hd, hkind⟩ := node_of_service hn
    simp only [shutdownNode, shutdownWith, getNode, yields_bind, yields_get, hd, yields_pure, hkind]
    exact asked_shutdownService hn hsignal
  exact (winds.and asked).imp (fun _ _ h => ⟨h.1.beside, h.2⟩) fun _ _ h => ⟨h.1.beside, h.2⟩

end Launch

end Launchpad
