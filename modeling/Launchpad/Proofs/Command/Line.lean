import Launchpad.Proofs.Command.Reading
import Launchpad.Proofs.Supervision.Starting

/-!
The command line that a node is started with. It is made of what the node holds when its child is
started.
-/

namespace Launchpad.Launch

variable {s t : Session} {i : Nat}

/-- The arguments that a node was given for its command line, as far as they can be gone through. -/
def ownOf (p : ProcessNode) : List Value :=
  if p.cmdArgs.truthy then p.cmdArgs.elements?.getD [] else []

def levelArgs : Value → List Value
  | .null => []
  | v => [.str "--log-level", v]

structure GraphArgs (n : Node) (args : List Value) : Prop where
  made : ∃ flat params remaps, flatten (.str "") n.params [] = .ok flat ∧
    paramArgs flat = .ok params ∧ Entries.extend [] n.remaps = .ok remaps ∧
    args = params ++ remapArgs (Entries.insert (Entries.insert remaps (.str "__ns") (.str n.ns))
      (.str "__node") (.str n.name))

/-- The command line of a node that runs as a child process, unless it is a plain one. -/
structure Commands (n : Node) (p : ProcessNode) (cmd : List Value) : Prop where
  kind : n.kind = .process p
  made : p.raw.truthy = false → ∃ exe args, GraphArgs n args ∧
    cmd = exe :: ownOf p ++ [.str nodeMark] ++ args ++ levelArgs p.logLevel

lemma yields_nodeParams (i : Nat) (s : Session) :
    Yields (nodeParams i) s (fun v t => Calm s t ∧ ∃ n, t.nodes[i]? = some n ∧ n.params = v)
      (fun _ t => Calm s t) := by
  have hcalm := keeps_nodeParams (R := Calm) i s
  have hnode : IfOk (nodeParams i) s (fun v t => ∃ n, t.nodes[i]? = some n ∧ n.params = v) := by
    unfold nodeParams
    cases hn : s.nodes[i]? with
    | none =>
      simp only [getNode, yields_bind, yields_get, hn]
      exact .throw trivial
    | some n =>
      refine (yields_getNode hn).bind ?_
      rintro m u ⟨rfl, rfl⟩
      refine .of_bind (.get ?_)
      split
      · refine keeps_loadParams.along (refl_of Calm _) fun v u hu => ?_
        simp only [modifyNode, yields_bind, yields_modify, yields_pure]
        obtain ⟨m, hm⟩ : ∃ m, u.nodes[i]? = some m := by
          have hkinds := congrArg (fun k => k.kinds[i]?) hu.core
          simp only [Session.core, Array.getElem?_map, hn, Option.map_some] at hkinds
          obtain ⟨m, hm, -⟩ := Option.map_eq_some_iff.1 hkinds
          exact ⟨m, hm⟩
        exact ⟨{ m with params := v }, by simp [Array.getElem?_modify, hm], rfl⟩
      · exact .pure ⟨m, hn, rfl⟩
  exact (hcalm.and hnode).imp (fun _ _ h => h) fun _ _ h => h.1

lemma yields_graphArgs {n : Node} (hn : s.nodes[i]? = some n) {E : Post Stop} (hE : ∀ e, E e s) :
    Yields (graphArgs i) s (fun es t => t = s ∧ ∃ remaps, Entries.extend [] n.remaps = .ok remaps ∧
      es = Entries.insert (Entries.insert remaps (.str "__ns") (.str n.ns)) (.str "__node")
        (.str n.name)) E := by
  refine (yields_getNode hn).exactly ?_
  refine .of_bind (yields_lift.2 ⟨fun es hes => ?_, fun e _ => hE e⟩)
  exact .pure ⟨rfl, es, hes, rfl⟩

lemma yields_behindMark {β : Type} {f : List Value → Entries → Launch β} {Q : Post β}
    {E : Post Stop} (i : Nat) (s : Session)
    (hf : ∀ t n params es, Calm s t → t.nodes[i]? = some n →
      GraphArgs n (params ++ remapArgs es) → Yields (f params es) t Q E)
    (hE : ∀ e t, Calm s t → E e t) :
    Yields (flatParams i >>= fun flat => lift (paramArgs flat) >>= fun params =>
      graphArgs i >>= fun es => f params es) s Q E := by
  refine .of_bind ((yields_nodeParams i s).seq ?_ hE)
  rintro v t ⟨hcalm, n, hn, rfl⟩
  refine yields_lift.2 ⟨fun flat hflat => ?_, fun e _ => hE e t hcalm⟩
  refine .of_bind (yields_lift.2 ⟨fun params hparams => ?_, fun e _ => hE e t hcalm⟩)
  refine (yields_graphArgs hn fun e => hE e t hcalm).bind ?_
  rintro es _ ⟨rfl, remaps, hremaps, rfl⟩
  exact hf _ n params _ hcalm hn ⟨flat, params, remaps, hflat, hparams, hremaps, rfl⟩

lemma yields_ownArgs (p : ProcessNode) (s : Session) :
    Yields (ownArgs p) s (fun own t => t = s ∧ own = ownOf p) (fun _ t => t = s) := by
  unfold ownArgs ownOf
  split
  · split
    · next xs hxs => exact .pure ⟨rfl, by rw [hxs]; rfl⟩
    · exact .throw rfl
  · exact .pure ⟨rfl, rfl⟩

lemma yields_commandLine (i : Nat) (s : Session) :
    Yields (commandLine i) s
      (fun cmd t => Calm s t ∧ ∃ n p, t.nodes[i]? = some n ∧ Commands n p cmd)
      (fun _ t => Calm s t) := by
  have hkept := keeps_commandLine (R := Calm) i s
  have hmade : IfOk (commandLine i) s
      (fun cmd t => ∃ n p, t.nodes[i]? = some n ∧ Commands n p cmd) := by
    refine keeps_getNode.along (refl_of Calm s) fun n m hm => ?_
    refine (yields_getProcess i m).andThen ?_
    rintro p _ ⟨rfl, hp⟩
    refine keeps_display.along (refl_of Calm _) fun place u hu => ?_
    refine (keeps_find _ _ _ _).along hu fun exe v hv => ?_
    refine (yields_ownArgs p v).andThen ?_
    rintro own v ⟨rfl, rfl⟩
    have hnode {w : Session} (hw : Calm v w) : ∃ n, w.nodes[i]? = some n ∧ n.kind = .process p :=
      node_of_process (by rw [(trans_of Calm hv hw).core, hp])
    split
    · next hraw =>
      obtain ⟨n, hn, hkind⟩ := hnode (refl_of Calm v)
      exact .pure ⟨n, p, hn, hkind, fun h => absurd hraw (by simp [h])⟩
    · refine yields_behindMark i v (fun w n params es hw hn hargs => ?_) fun _ _ _ => trivial
      obtain ⟨n', hn', hkind⟩ := hnode hw
      obtain rfl : n' = n := Option.mem_unique hn' hn
      refine .pure ⟨n', p, hn, hkind, fun _ => ⟨exe, _, hargs, ?_⟩⟩
      simp only [List.append_assoc]
      rfl
  exact (hkept.and hmade).imp (fun _ _ h => h) fun _ _ h => h.1

def StartedWith (i : Nat) (t : Session) : Prop :=
  ∃ n p cmd shell env, t.nodes[i]? = some n ∧ Commands n p cmd ∧
    t.events.getLast? = some (.spawned
      ((cmd.map fun v => v.display Value.plainRef).map .str) shell env)

lemma yields_spawn_event (argv : List String) (event : Event) (s : Session) :
    Yields (spawn argv event) s (fun _ t => t.nodes = s.nodes ∧ t.events = s.events ++ [event])
      (fun _ t => t.events = s.events ++ [event]) := by
  simp only [spawn, emit, yields_bind, yields_get, yields_modify]
  split
  · exact .of_bind (.throw rfl)
  · simp only [modifyWorld, yields_bind, yields_modify, yields_pure, and_self]

lemma yields_childSetup (i : Nat) (p : ProcessNode) (logger : String) (s : Session) :
    IfOk (childSetup i p logger) s (fun setup t => ∃ n q cmd, t.nodes[i]? = some n ∧
      Commands n q cmd ∧ setup.1 = cmd.map fun v => v.display Value.plainRef) := by
  refine (yields_commandLine i s).andThen ?_
  rintro cmd t ⟨-, n, q, hn, hcmd⟩
  refine Yields.ite ?_ (.of_bind (.throw trivial))
  refine keeps_info.along (refl_of Written t) fun _ u hu => ?_
  refine keeps_childEnv.along hu fun env v hv => ?_
  simp only [yields_bind, yields_get, yields_pure]
  exact ⟨n, q, cmd, by rw [hv.nodes_eq, hn], hcmd, rfl⟩

lemma Commands.setChild {n : Node} {p : ProcessNode} {cmd : List Value} (h : Commands n p cmd)
    (c : Option Nat) : Commands { n with kind := .process { p with child := c } }
      { p with child := c } cmd :=
  ⟨rfl, fun hraw =>
    let ⟨exe, args, ⟨hargs⟩, hcmd⟩ := h.made hraw
    ⟨exe, args, ⟨hargs⟩, hcmd⟩⟩

lemma startedWith_launchChild (i : Nat) (logger : String) (s : Session) :
    Yields (launchChild i logger) s (fun _ t => StartedWith i t) (fun _ t => Calm s t) := by
  have hcalm := yields_launchChild i logger s
  have hstarted : IfOk (launchChild i logger) s (fun _ t => StartedWith i t) := by
    refine keeps_getProcess.along (refl_of Calm s) fun p m _ => ?_
    refine (yields_childSetup i p logger m).andThen ?_
    rintro ⟨argv, shell, env⟩ t ⟨n, q, cmd, hn, hcmd, rfl⟩
    refine (yields_spawn_event _ _ t).andThen ?_
    rintro c u ⟨hnodes, hevents⟩
    simp only [modifyProcess, modifyNode, addTask, yields_bind, yields_modify]
    refine ⟨_, _, cmd, shell, some env, ?_, hcmd.setChild (some c), ?_⟩
    · simp only [hnodes, Array.getElem?_modify, if_true, hn, Option.map_some, hcmd.kind]
    · rw [hevents, List.getLast?_concat]
  exact (hcalm.and hstarted).imp (fun _ _ h => h.2) fun _ _ h => h.1

lemma startedWith_startProcess (i : Nat) (s : Session) :
    IfOk (startProcess i) s (fun _ t => Aged s t ∨ StartedWith i t) := by
  refine (startProcess_of (fun _ => .inl) fun logger _ u _ _ _ _ => ?_).imp (fun _ _ h => h)
    fun _ _ _ => trivial
  exact (startedWith_launchChild i logger u).map fun _ _ => .inr

end Launchpad.Launch
