import Launchpad.Proofs.Launch.Polling
import Launchpad.Proofs.Launch.Search

/-!
How children come to be. A start of a node either leaves all as it was, but for what a look at the
node's child changes, or it adds one child, which becomes the node's child and gets a watcher. The
end of a watcher may start another child, which is counted, or set up the timer that signals the
child that the node has then.
-/

namespace Launchpad

def NodeKind.mapProcess (f : ProcessNode → ProcessNode) : NodeKind → NodeKind
  | .process p => .process (f p)
  | kind => kind

lemma NodeKind.process?_mapProcess (f : ProcessNode → ProcessNode) (kind : NodeKind) :
    (kind.mapProcess f).process? = kind.process?.map f := by
  cases kind <;> rfl

namespace Session.Core

def modifyProcess (k : Core) (i : Nat) (f : ProcessNode → ProcessNode) : Core :=
  { k with kinds := k.kinds.modify i (NodeKind.mapProcess f) }

def addTask (k : Core) (t : Task) : Core :=
  { k with tasks := k.tasks ++ [t] }

def addChild (k : Core) (d : Child) : Core :=
  { k with
    world := { k.world with children := k.children.push d, nextPid := k.world.nextPid + 1 } }

/-- A child becomes the child of a node, and gets a watcher. -/
def bear (k : Core) (i : Nat) (d : Child) : Core :=
  ((k.addChild d).modifyProcess i fun p => { p with child := some k.children.size }).addTask
    (.watchChild i k.children.size)

lemma process?_modifyProcess (k : Core) (i j : Nat) (f : ProcessNode → ProcessNode) :
    (k.modifyProcess i f).process? j =
      if i = j then (k.process? j).map f else k.process? j := by
  simp only [process?, modifyProcess, Array.getElem?_modify]
  split
  · cases k.kinds[j]? with
    | none => rfl
    | some kind => exact kind.process?_mapProcess f
  · rfl

lemma process?_bear_self {k : Core} {i : Nat} {p : ProcessNode} (h : k.process? i = some p)
    (d : Child) : (k.bear i d).process? i = some { p with child := some k.children.size } := by
  have hself := process?_modifyProcess (k.addChild d) i i
    fun p => { p with child := some k.children.size }
  have hadd : (k.addChild d).process? i = some p := h
  rw [if_pos rfl, hadd] at hself
  exact hself

lemma process?_bear_of_ne (k : Core) {i j : Nat} (h : i ≠ j) (d : Child) :
    (k.bear i d).process? j = k.process? j := by
  have hother := process?_modifyProcess (k.addChild d) i j
    fun p => { p with child := some k.children.size }
  rw [if_neg h] at hother
  exact hother

lemma children_bear (k : Core) (i : Nat) (d : Child) : (k.bear i d).children = k.children.push d :=
  rfl

lemma alive_bear (k : Core) (i : Nat) {d : Child} (hd : d.code = none) (c : Nat) :
    (k.bear i d).alive c = (decide (c = k.children.size) || k.alive c) := by
  unfold alive
  rw [children_bear, Array.getElem?_push]
  split
  · next hc => simp [hc, hd]
  · next hc => simp [hc]

end Session.Core

/-- A child is started for a node whose last child does not run, while the launcher goes on. -/
structure Births (i : Nat) (s t : Session) : Prop where
  going : s.core.ended = false
  idle : ∃ p, s.core.process? i = some p ∧ p.child.any s.core.alive = false
  born : ∃ d : Child, d.pid = s.core.world.nextPid ∧ d.code = none ∧ t.core = s.core.bear i d

namespace Births

variable {i : Nat} {s t : Session}

variable (h : Births i s t)
include h

lemma size_eq : t.core.children.size = s.core.children.size + 1 := by
  obtain ⟨d, -, -, hcore⟩ := h.born
  rw [hcore, Session.Core.children_bear, Array.size_push]

lemma alive_eq (c : Nat) :
    t.core.alive c = (decide (c = s.core.children.size) || s.core.alive c) := by
  obtain ⟨d, -, hcode, hcore⟩ := h.born
  rw [hcore, Session.Core.alive_bear _ _ hcode]

lemma process?_of_ne {j : Nat} (hij : i ≠ j) : t.core.process? j = s.core.process? j := by
  obtain ⟨d, -, -, hcore⟩ := h.born
  rw [hcore, Session.Core.process?_bear_of_ne _ hij]

lemma process?_self {p : ProcessNode} (hp : s.core.process? i = some p) :
    t.core.process? i = some { p with child := some s.core.children.size } := by
  obtain ⟨d, -, -, hcore⟩ := h.born
  rw [hcore, Session.Core.process?_bear_self hp]

lemma tasks_eq : t.core.tasks = s.core.tasks ++ [.watchChild i s.core.children.size] := by
  obtain ⟨d, -, -, hcore⟩ := h.born
  rw [hcore]
  rfl

lemma signals_eq : t.core.signals = s.core.signals := by
  obtain ⟨d, -, -, hcore⟩ := h.born
  rw [hcore]
  rfl

end Births

/-- What a start of a node may lead to: nothing but aged children, or one child more. -/
inductive Starts (i : Nat) (s t : Session) : Prop where
  | fails (h : Aged s t)
  | spawns (m : Session) (hm : Aged s m) (h : Births i m t)

lemma Starts.of_aged {i : Nat} {s m t : Session} (h : Aged s m) (hm : Starts i m t) :
    Starts i s t := by
  cases hm with
  | fails ht => exact .fails (trans_of Aged h ht)
  | spawns u hu hb => exact .spawns u (trans_of Aged h hu) hb

namespace Launch

lemma core_modifyProcess (s : Session) (i : Nat) (f : ProcessNode → ProcessNode) :
    Session.core { s with nodes := s.nodes.modify i fun n => match n.kind with
      | .process p => { n with kind := .process (f p) }
      | _ => n } = s.core.modifyProcess i f := by
  have htitles := map_modify_of_eq s.nodes i (g := Node.title) (f := fun n => match n.kind with
    | .process p => { n with kind := .process (f p) }
    | _ => n) fun n => by split <;> rfl
  have hnamespaces := map_modify_of_eq s.nodes i (g := Node.ns) (f := fun n => match n.kind with
    | .process p => { n with kind := .process (f p) }
    | _ => n) fun n => by split <;> rfl
  simp only [Session.core, Session.Core.modifyProcess, Session.signals, Session.groupSignals,
    htitles, hnamespaces, Session.Core.mk.injEq, true_and, and_true]
  refine Array.ext_getElem? fun j => ?_
  simp only [Array.getElem?_map, Array.getElem?_modify]
  split
  · cases s.nodes[j]? with
    | none => rfl
    | some n =>
      obtain ⟨_, _, _, _, _, _, _, _, _, _, kind⟩ := n
      cases kind <;> rfl
  · rfl

lemma yields_modifyProcess {E : Post Stop} (i : Nat) (f : ProcessNode → ProcessNode) (s : Session) :
    Yields (modifyProcess i f) s (fun _ t => t.core = s.core.modifyProcess i f) E :=
  .modify (core_modifyProcess s i f)

lemma yields_addTask {E : Post Stop} (a : Task) (s : Session) :
    Yields (addTask a) s (fun _ t => t.core = s.core.addTask a) E :=
  .modify rfl

lemma yields_spawn (argv : List String) {event : Event} (h : event.signal? = none)
    (h' : event.groupSignal? = none) (s : Session) :
    Yields (spawn argv event) s
      (fun c t => c = s.core.children.size ∧ ∃ d : Child, d.pid = s.core.world.nextPid ∧
        d.code = none ∧ t.core = s.core.addChild d)
      (fun _ t => Calm s t) := by
  unfold spawn
  simp only [yields_bind, yields_get]
  refine (keeps_emit (R := Calm) h h' s).map fun _ m hm => ?_
  have hcore : m.core = s.core := hm.core
  split
  · exact .of_bind (.throw hm)
  · simp only [modifyWorld, yields_bind, yields_modify, yields_pure]
    rw [← hcore]
    refine ⟨?_, _, ?_, ?_, rfl⟩
    · exact congrArg (fun k => k.children.size) hcore.symm
    · rfl
    · rfl

lemma keeps_childSetup {R : SessionRel} [Tolerant R] {i : Nat} {p : ProcessNode}
    {logger : String} : Keeps R (childSetup i p logger) := by
  refine (keeps_commandLine i).bind fun cmd => Keeps.unless keeps_silent fun _ => ?_
  refine keeps_info.bind fun _ => keeps_childEnv.bind fun env => ?_
  exact keeps_get.bind fun s => .pure

lemma yields_getProcess (i : Nat) (s : Session) :
    Yields (getProcess i) s (fun p t => t = s ∧ s.core.process? i = some p) (fun _ t => t = s) :=
  (yields_view (fun n => by cases n.kind <;> rfl) i s).imp (fun _ _ h => h) fun _ _ h => h.1

lemma yields_launchChild (i : Nat) (logger : String) (s : Session) :
    Yields (launchChild i logger) s
      (fun _ t => ∃ p d, s.core.process? i = some p ∧ d.pid = s.core.world.nextPid ∧
        d.code = none ∧ t.core = s.core.bear i d)
      (fun _ t => Calm s t) := by
  refine (yields_getProcess i s).seq ?_ ?_
  · rintro p s ⟨rfl, hp⟩
    refine keeps_childSetup.along (refl_of Calm s) fun setup m hm => ?_
    refine (yields_spawn _ rfl rfl m).seq ?_ fun _ _ h => trans_of Calm hm h
    rintro c u ⟨rfl, d, hpid, hcode, hu⟩
    refine (yields_modifyProcess i _ u).bind fun _ v hv => ?_
    refine (yields_addTask _ v).map fun _ w hw => ⟨p, d, hp, ?_, hcode, ?_⟩
    · rw [hpid, hm.core]
    · rw [hw, hv, hu, hm.core]
      rfl
  · rintro _ _ rfl
    exact refl_of Calm _

/-- Starting a node lets time pass, unless it launches a child while the launcher goes on and the
node does not run. -/
lemma startProcess_of {i : Nat} {s : Session} {P : Session → Prop} (haged : ∀ t, Aged s t → P t)
    (hlaunch : ∀ logger v u, (isRunning i).run s = .ok v u → Aged s u → v.truthy = false →
      s.core.ended = false → Yields (launchChild i logger) u (fun _ => P) (fun _ t => Calm u t)) :
    EndsIn (startProcess i) s P := by
  have aged {α : Type} {x : Launch α} (hx : Keeps Aged x) {m : Session} (hm : Aged s m) :
      EndsIn x m P :=
    (hx.then hm).imp (fun _ => haged) fun _ => haged
  refine keeps_getNode.followed (refl_of Eq s) ?_ fun _ _ h => haged _ (h ▸ refl_of Aged s)
  rintro n s rfl
  refine (yields_isShutdown s).seq ?_ fun _ _ h => haged _ (h ▸ refl_of Aged s)
  rintro b s ⟨rfl, hb⟩
  split
  · exact aged (keeps_nodeText.bind fun _ => keeps_warn.bind fun _ => .pure) (refl_of Aged s)
  next hgoing =>
  refine ((keeps_isRunning (R := Aged) s).and (yields_self _ s)).seq ?_ fun _ _ h => haged _ h.1
  rintro v u ⟨hu, hrun⟩
  split
  · exact aged (keeps_nodeText.bind fun _ => keeps_warn.bind fun _ => .pure) hu
  next hidle =>
  refine (hlaunch n.logger v u hrun hu (by simpa using hidle) (by simpa [hb] using hgoing)).catchFault
    (fun f t ht => ?_) fun c t ht => haged _ (trans_of Aged hu (Tolerant.calm _ _ ht))
  exact aged keeps_error (trans_of Aged hu (Tolerant.calm _ _ ht))

lemma yields_startProcess (i : Nat) (s : Session) : EndsIn (startProcess i) s (Starts i s) := by
  refine startProcess_of (fun _ => .fails) fun logger v u hrun hu hidle hgoing => ?_
  refine (yields_launchChild i logger u).map ?_
  rintro _ t ⟨p, d, hp, hpid, hcode, ht⟩
  refine .spawns u hu ⟨hu.ended_eq.trans hgoing, ⟨p, hp, ?_⟩, ⟨d, hpid, hcode, ht⟩⟩
  have hv := (yields_run_ok (yields_isRunning i s) hrun).2 p (by rw [← hu.process?_eq, hp])
  simpa [hv, Value.truthy] using hidle

end Launch

end Launchpad
