import Launchpad.Proofs.Composition.Loading
import Launchpad.Proofs.Groups.Tree
import Launchpad.Proofs.Launch.Asking

/-!
Operations that leave groups and nodes where they are. Starting a node, asking for its state or
looking for another one changes neither the tree of groups nor where the script stands, and makes no
node; the namespaces of the nodes that the launcher has made stay as they are.
-/

namespace Launchpad

/-- For a node that the launcher makes: the node that it is around, if it is around one. -/
def NodeKind.made? : NodeKind → Option (Option Nat)
  | .process _ => some none
  | .composer c => some (some c.wrapped)
  | _ => none

/-- For a node that the launcher makes: the node that it is around, and its namespace. -/
def Node.made? (n : Node) : Option (Option Nat × String) :=
  n.kind.made?.map fun around => (around, n.ns)

def Session.made? (s : Session) (i : Nat) : Option (Option Nat × String) :=
  s.nodes[i]?.bind Node.made?

/-- The script stands where it stood, there are no other nodes and groups than before, and the
terminal is the same. -/
structure Stays (s t : Session) : Prop where
  terminal : t.terminal = s.terminal
  launcher : t.core.launcher = s.core.launcher
  groups : t.groups = s.groups
  size : t.nodes.size = s.nodes.size
  made : ∀ i, t.made? i = s.made? i

variable {s : Session} {f : Node → Node}

namespace Session

lemma made?_eq_of_core {t : Session} (hnamespaces : t.core.namespaces = s.core.namespaces)
    {i : Nat} (hkind : t.core.kinds[i]?.map NodeKind.made? = s.core.kinds[i]?.map NodeKind.made?) :
    t.made? i = s.made? i := by
  have hns : t.nodes[i]?.map Node.ns = s.nodes[i]?.map Node.ns := by
    have hget := congrArg (fun a => a[i]?) hnamespaces
    simpa [core] using hget
  have hmade : t.nodes[i]?.map (fun n => n.kind.made?) = s.nodes[i]?.map fun n => n.kind.made? := by
    simpa [core, Function.comp_def] using hkind
  unfold made?
  cases ht : t.nodes[i]? with
  | none =>
    have hs : s.nodes[i]? = none := by simpa [ht] using hns.symm
    rw [hs]
  | some n =>
    rw [ht] at hns
    obtain ⟨m, hm, hmns⟩ := Option.map_eq_some_iff.1 hns.symm
    have hkinds : n.kind.made? = m.kind.made? := by simpa [ht, hm] using hmade
    rw [hm, Option.bind_some, Option.bind_some, Node.made?, Node.made?, hkinds, hmns]

lemma size_eq_of_core {t : Session} (h : t.core.namespaces = s.core.namespaces) :
    t.nodes.size = s.nodes.size := by
  have hsize := congrArg Array.size h
  simpa [core] using hsize

end Session

lemma Stays.of_core {s t : Session} (hterminal : t.core.terminal = s.core.terminal)
    (hlauncher : t.core.launcher = s.core.launcher)
    (hgroups : t.core.groups = s.core.groups) (hnamespaces : t.core.namespaces = s.core.namespaces)
    (hkinds : ∀ i : Nat, t.core.kinds[i]?.map NodeKind.made? =
      s.core.kinds[i]?.map NodeKind.made?) :
    Stays s t :=
  ⟨hterminal, hlauncher, hgroups, Session.size_eq_of_core hnamespaces,
    fun _ => Session.made?_eq_of_core hnamespaces (hkinds _)⟩

instance : Patient Stays where
  refl _ := ⟨rfl, rfl, rfl, rfl, fun _ => rfl⟩
  trans _ _ _ h h' := ⟨h'.terminal.trans h.terminal, h'.launcher.trans h.launcher,
    h'.groups.trans h.groups, h'.size.trans h.size, fun i => (h'.made i).trans (h.made i)⟩
  calm s t h := by
    refine .of_core ?_ ?_ ?_ ?_ fun i => ?_
    all_goals rw [h.core]
  aged s t h := by
    refine .of_core ?_ ?_ ?_ ?_ fun i => ?_
    all_goals rw [h.core]

lemma Stays.of_fields {t : Session} (hlauncher : t.launcher = s.launcher)
    (hgroups : t.groups = s.groups) (hnodes : t.nodes = s.nodes)
    (hterminal : t.terminal = s.terminal) : Stays s t := by
  refine ⟨hterminal, ?_, hgroups, by rw [hnodes], fun i => ?_⟩
  · simp only [Session.core, hlauncher]
  · rw [Session.made?, hnodes, Session.made?]

lemma Session.made?_modify (s : Session) (i j : Nat)
    (hf : ∀ n, s.nodes[i]? = some n → (f n).made? = n.made?) :
    Session.made? { s with nodes := s.nodes.modify i f } j = s.made? j := by
  simp only [made?, Array.getElem?_modify]
  split
  · next hij =>
    subst hij
    cases hn : s.nodes[i]? with
    | none => rfl
    | some n => exact hf n hn
  · rfl

lemma stays_modifyNodes (i : Nat) (hf : ∀ n, s.nodes[i]? = some n → (f n).made? = n.made?) :
    Stays s { s with nodes := s.nodes.modify i f } :=
  ⟨rfl, rfl, rfl, Array.size_modify, fun j => s.made?_modify i j hf⟩

namespace Launch

lemma stays_modifyNode (i : Nat) (hf : ∀ n, (f n).made? = n.made?) : Keeps Stays (modifyNode i f) :=
  keeps_modify fun _ => stays_modifyNodes i fun n _ => hf n

lemma stays_modifyWorld (f : World → World) : Keeps Stays (modifyWorld f) :=
  keeps_modify fun _ => .of_fields rfl rfl rfl rfl

lemma stays_emit (e : Event) : Keeps Stays (emit e) :=
  keeps_modify fun _ => .of_fields rfl rfl rfl rfl

lemma stays_addTask (t : Task) : Keeps Stays (addTask t) :=
  keeps_modify fun _ => .of_fields rfl rfl rfl rfl

/-! ## Loggers -/

lemma stays_set_log {f : Session → Log.Registry} {α : Type} {a : Session → α} :
    Keeps Stays (do
      let s ← get
      set { s with log := f s }
      return a s) := by
  intro s
  simp only [yields_bind, yields_get, yields_set, yields_pure]
  exact .of_fields rfl rfl rfl rfl

lemma stays_screenHandler : Keeps Stays screenHandler :=
  stays_set_log

lemma stays_attach (logger : String) (h : Nat) : Keeps Stays (attach logger h) :=
  keeps_modify fun _ => .of_fields rfl rfl rfl rfl

lemma stays_attachWith (logger : String) (h : Nat) (f : Option Nat) :
    Keeps Stays (attachWith logger h f) := by
  intro s
  refine .of_bind (.get (Yields.ite ?_ ?_))
  · exact .pure (refl_of Stays s)
  · exact .set (.of_fields rfl rfl rfl rfl)

lemma stays_renewLatest (dir : String) (noLinks : Bool) :
    Keeps Stays (renewLatest dir noLinks) := by
  have files : ∀ f, Keeps Stays (modifyWorld f) := stays_modifyWorld
  unfold renewLatest
  grind

lemma stays_logDir : Keeps Stays logDir := by
  refine Keeps.bind (keeps_get.bind fun s => ?_) fun _ => .pure
  split
  · exact .pure
  · have made : Keeps Stays makeLogDir :=
      keeps_get.bind fun _ => (stays_modifyWorld _).bind fun _ => .pure
    refine made.bind fun dir => Keeps.bind ?_ fun _ => ?_
    · exact keeps_modify fun _ => .of_fields rfl rfl rfl rfl
    refine Keeps.bind (Keeps.catchFault ?_ fun f => .pure) fun _ => .pure
    exact (stays_renewLatest dir _).bind fun _ => Keeps.ite .pure .pure

lemma stays_openForAppend (path : String) : Keeps Stays (openForAppend path) := by
  refine Keeps.when keeps_silent fun _ => Keeps.when keeps_silent fun _ => ?_
  refine keeps_get.bind fun s => ?_
  dsimp only
  split
  · exact keeps_silent
  · exact .pure
  · exact Keeps.ite (stays_modifyWorld _) keeps_silent

lemma stays_logFileHandler (name : String) : Keeps Stays (logFileHandler name) := by
  refine keeps_get.bind fun s => ?_
  split
  · exact .pure
  · refine (stays_logDir.bind fun _ => .pure).bind fun path => keeps_get.bind fun s => ?_
    refine Keeps.when keeps_silent fun _ => keeps_get.bind fun s => ?_
    exact (stays_openForAppend _).bind fun _ => stays_set_log

lemma stays_useLogger (name : String) : Keeps Stays (useLogger name) :=
  stays_screenHandler.bind fun _ => (stays_attach _ _).bind fun _ =>
    (stays_logFileHandler _).bind fun _ => stays_attach _ _

lemma stays_configureLogger (logger : String) (config : Value) :
    Keeps Stays (configureLogger logger config) := by
  refine keeps_lift.bind fun sinks => Keeps.forM sinks fun sink _ => ?_
  have attached : ∀ h f, Keeps Stays (attachWith logger h f) := stays_attachWith logger
  unfold addSink
  split
  · exact stays_screenHandler.bind fun _ => keeps_get.bind fun _ => attached _ _
  iterate 2 exact (stays_logFileHandler _).bind fun _ => keeps_get.bind fun _ => attached _ _
  exact .pure

/-! ## Starting -/

lemma stays_spawn (argv : List String) (event : Event) : Keeps Stays (spawn argv event) := by
  refine keeps_get.bind fun s => (stays_emit _).bind fun _ => ?_
  exact Keeps.when keeps_silent fun _ => (stays_modifyWorld _).bind fun _ => .pure

lemma stays_modifyProcess (i : Nat) (f : ProcessNode → ProcessNode) :
    Keeps Stays (modifyProcess i f) :=
  stays_modifyNode i fun n => by cases h : n.kind <;> simp [Node.made?, NodeKind.made?, h]

lemma stays_modifyForeign (i : Nat) (f : ForeignNode → ForeignNode) :
    Keeps Stays (modifyForeign i f) :=
  stays_modifyNode i fun n => by cases h : n.kind <;> simp [Node.made?, NodeKind.made?, h]

lemma stays_modifyService (i : Nat) (f : ServiceNode → ServiceNode) :
    Keeps Stays (modifyService i f) :=
  stays_modifyNode i fun n => by cases h : n.kind <;> simp [Node.made?, NodeKind.made?, h]

lemma stays_modifyComponent (i : Nat) (f : ComponentNode → ComponentNode) :
    Keeps Stays (modifyComponent i f) :=
  stays_modifyNode i fun n => by cases h : n.kind <;> simp [Node.made?, NodeKind.made?, h]

lemma stays_modifyComposer (i : Nat) {f : ComposerNode → ComposerNode}
    (hf : ∀ c, (f c).wrapped = c.wrapped) : Keeps Stays (modifyComposer i f) := by
  refine stays_modifyNode i fun n => ?_
  obtain ⟨_, _, _, _, _, _, _, _, _, _, kind⟩ := n
  cases kind with
  | composer c => simp [Node.made?, NodeKind.made?, hf]
  | _ => rfl

lemma stays_isShutdown : Keeps Stays isShutdown := by
  intro s
  refine (yields_isShutdown s).imp (fun _ t ht => ?_) fun _ t ht => ?_
  · exact ht.1 ▸ refl_of Stays _
  · exact ht ▸ refl_of Stays _

lemma stays_notStarted (i : Nat) (logger before behind : String) :
    Keeps Stays (do
      warn logger (before ++ toString (← nodeText i) ++ behind)
      return) :=
  keeps_nodeText.bind fun _ => keeps_warn.bind fun _ => .pure

lemma stays_startProcess (i : Nat) : Keeps Stays (startProcess i) := by
  have launched (logger : String) : Keeps Stays (launchChild i logger) := by
    refine keeps_getProcess.bind fun p => keeps_childSetup.bind fun _ => ?_
    refine (stays_spawn _ _).bind fun c => (stays_modifyProcess i _).bind fun _ => ?_
    exact stays_addTask _
  refine keeps_getNode.bind fun n => stays_isShutdown.bind fun _ => ?_
  refine Keeps.ite (stays_notStarted i _ _ _) (keeps_isRunning.bind fun _ => ?_)
  refine Keeps.ite (stays_notStarted i _ _ _) ?_
  exact (launched _).catchFault fun f => keeps_error

lemma stays_startForeign (i : Nat) : Keeps Stays (startForeign i) := by
  refine keeps_getNode.bind fun n => stays_isShutdown.bind fun _ => ?_
  refine Keeps.ite (stays_notStarted i _ _ _) (keeps_isRunning.bind fun _ => ?_)
  refine Keeps.ite (stays_notStarted i _ _ _) (keeps_getForeign.bind fun f => ?_)
  have spawned := stays_spawn
  have changed := stays_modifyForeign i
  have watched := stays_addTask
  have params := (keeps_flatParams (R := Stays) i)
  have args := (keeps_graphArgs (R := Stays) i)
  split
  · refine params.bind fun _ => keeps_lift.bind fun _ => args.bind fun _ => ?_
    grind
  · refine keeps_silent.bind fun _ => params.bind fun _ => keeps_lift.bind fun _ => ?_
    grind

lemma stays_startService (i : Nat) : Keeps Stays (startService i) := by
  refine keeps_getNode.bind fun n => keeps_isRunning.bind fun _ => Keeps.ite ?_ ?_
  · exact keeps_warn.bind fun _ => .pure
  · refine keeps_getService.bind fun v => keeps_plainReportOf.bind fun _ => ?_
    refine (stays_emit _).bind fun _ => keeps_get.bind fun s => (stays_modifyWorld _).bind fun _ => ?_
    exact (stays_modifyService i _).bind fun _ => stays_addTask _

lemma yields_takeName {m : Session} (h : Stays s m) {c : Nat} (hc : s.made? c = none)
    (full : Value) : EndsIn (takeName c full) m (Stays s) := by
  have unchanged : Keeps Stays (pure () : Launch Unit) := .pure
  refine Yields.ite ?_ (unchanged.then h)
  split
  · split
    · next ns name _ =>
      refine .modify (trans_of Stays h (stays_modifyNodes c fun n hn => ?_))
      have hnone : n.kind.made? = none := by
        have hm := (h.made c).trans hc
        simpa [Session.made?, hn, Node.made?] using hm
      simp [Node.made?, hnone]
    · exact keeps_silent.then h
  · exact keeps_silent.then h

lemma made?_of_component {c : Nat} {n : ComponentNode} (h : s.books.component c = some n) :
    s.made? c = none := by
  obtain ⟨m, hm, hn⟩ := node_of_kind h
  have hkind : m.kind = .component n := by
    cases hk : m.kind with
    | component c =>
      rw [hk] at hn
      exact congrArg NodeKind.component (Option.some.inj hn)
    | _ =>
      rw [hk] at hn
      cases hn
  simp [Session.made?, hm, Node.made?, NodeKind.made?, hkind]

lemma stays_requestLoad (k c : Nat) (logger : String) (intra : Value) (extra : Entries) :
    Keeps Stays (requestLoad k c logger intra extra) := by
  refine (keeps_serialized _ (keeps_flatParams c)).bind fun params => ?_
  refine keeps_getComposer.bind fun kn => keeps_getNode.bind fun n => ?_
  refine keeps_lift.bind fun remaps => (keeps_serialized _ .pure).bind fun _ => ?_
  exact keeps_info.bind fun _ => keeps_composerService.bind fun _ =>
    keeps_callWith

lemma stays_enterComponent (k c : Nat) (v : Value) : Keeps Stays (enterComponent k c v) := by
  refine (stays_modifyComponent c _).bind fun _ => Keeps.unless keeps_silent fun _ => ?_
  exact stays_modifyComposer k fun _ => rfl

lemma yields_adoptComponent_stays (k c : Nat) (logger : String) (s : Session) :
    Yields (adoptComponent k c logger) s (fun _ t => Stays s t ∧ s.made? c = none)
      (fun _ t => Stays s t) := by
  refine (yields_getComponent c s).seq ?_ fun _ t ht => ht.1 ▸ refl_of Stays _
  rintro n s ⟨rfl, hn⟩
  refine keeps_getNode.along (refl_of Stays s) fun m t ht => ?_
  refine (Keeps.then (Keeps.ite ?_ .pure) ht).map fun _ t ht => ⟨ht, made?_of_component hn⟩
  exact keeps_warn.bind fun _ => stays_modifyComponent c _

lemma stays_loadComponent (k : Nat) (x intra : Value) (extra : Entries) :
    Keeps Stays (loadComponent k x intra extra) := by
  have refused (logger msg : String) : Keeps Stays (do error logger msg; return Value.int (-1)) :=
    keeps_error.bind fun _ => .pure
  have number : Keeps Stays (nodeOf x) := fun s =>
    (yields_nodeOf x s).imp (fun _ t ht => ht.1 ▸ refl_of Stays _) fun _ t ht => ht ▸ refl_of Stays _
  refine keeps_getNode.bind fun n => keeps_isRunning.bind fun _ => ?_
  refine Keeps.ite (refused _ _) (number.bind fun c => ?_)
  refine keeps_isRunning.bind fun _ => Keeps.ite (refused _ _) fun s => ?_
  refine (yields_adoptComponent_stays k c _ s).bind ?_
  rintro _ m ⟨hm, hc⟩
  refine (stays_requestLoad k c _ _ _).along hm fun answer m hm => Yields.ite ?_ ?_
  · refine (yields_takeName hm hc _).bind fun _ m hm => ?_
    exact ((stays_enterComponent k c _).bind fun _ => .pure).then hm
  · refine Keeps.then (keeps_nodeText.bind fun _ => keeps_display.bind fun _ => ?_) hm
    exact keeps_error.bind fun _ => keeps_display.bind fun _ => .throw

lemma stays_startComponent (i : Nat) (intra : Value) (extra : Entries) :
    Keeps Stays (startComponent i intra extra) := by
  refine keeps_getComponent.bind fun c => keeps_getComposer.bind fun _ => ?_
  refine Keeps.when keeps_silent fun _ => ?_
  exact (stays_loadComponent _ _ _ _).bind fun _ => stays_modifyComponent i _

lemma stays_unlessImplemented {x : Launch Unit} (hx : Keeps Stays x) :
    Keeps Stays (unlessImplemented x) :=
  hx.catchFault fun _ => Keeps.ite .pure .throw

lemma stays_startWith (fuel i : Nat) : Keeps Stays (startWith fuel i) := by
  induction fuel generalizing i with
  | zero => exact keeps_silent
  | succ fuel ih =>
    refine keeps_getNode.bind fun n => ?_
    cases hkind : n.kind with
    | bare => exact .throw
    | process p => exact stays_startProcess i
    | foreign f => exact stays_startForeign i
    | component c => exact stays_startComponent i _ _
    | composer c =>
      exact (stays_unlessImplemented (ih _)).bind fun _ => keeps_awaitComposerServices
    | service v => exact stays_startService i

lemma stays_startComposer (i : Nat) (timeout : Value) : Keeps Stays (startComposer i timeout) := by
  refine keeps_getComposer.bind fun c => Keeps.bind (stays_unlessImplemented ?_) fun _ => ?_
  · exact keeps_get.bind fun s => stays_startWith _ _
  · exact keeps_awaitComposerServices

end Launch

end Launchpad
