import Launchpad.Proofs.Groups.Making
import Launchpad.Proofs.Shutdown.Sound
import Launchpad.Session.Terminal

/-!
Nodes and the launcher leave the terminal alone, whatever they are asked for from it.
-/

namespace Launchpad

def Aside (s t : Session) : Prop :=
  t.terminal = s.terminal

lemma Aside.of_core {s t : Session} (h : t.core.terminal = s.core.terminal) : Aside s t :=
  h

instance : Patient Aside where
  refl _ := rfl
  trans _ _ _ h h' := h'.trans h
  calm _ _ h := .of_core (by rw [h.core])
  aged _ _ h := .of_core (by rw [h.core])

instance : Launch.Neutral Aside where
  neutral _ _ _ h := h

namespace Launch

open Script

variable {α : Type}

lemma Keeps.aside {x : Launch α} (h : Keeps Stays x) : Keeps Aside x :=
  h.mono fun _ _ h => h.terminal

/-! ## Starting and ending -/

lemma aside_start (i : Nat) : Keeps Aside (start i) :=
  keeps_get.bind fun _ => (stays_startWith _ i).aside

lemma aside_defaultTimeout (i : Nat) : Keeps Aside (defaultTimeout i) := by
  refine keeps_getNode.bind fun n => ?_
  split <;> exact .pure

lemma aside_shutdownNode (i : Nat) (reason signal timeout : Value) :
    Keeps Aside (shutdownNode i reason signal timeout) :=
  (keeps_shutdownNode i reason signal timeout).mono fun _ _ h =>
    congrArg Session.Core.terminal h.still

lemma aside_takeStep (l : Launcher) (reason signal : Value) (step : ShutdownStep) :
    Keeps Aside (step.take l reason signal) := by
  cases step with
  | ask i =>
    refine Keeps.bind ?_ fun timeout => (aside_shutdownNode i reason signal timeout).catchFault ?_
    · exact aside_defaultTimeout i
    · exact fun f => Keeps.ite .pure (keeps_getNode.bind fun _ => keeps_error)
  | adapter => exact keeps_stopAdapter.catchFault fun _ => keeps_error
  | service =>
    refine keeps_getLauncher.bind fun l => ?_
    split
    · exact .pure
    · exact (aside_shutdownNode _ reason signal _).catchFault fun _ => keeps_error
  | resolve => exact keeps_modify fun _ => rfl
  | callbacks => exact keeps_tellShutdown_of l (keeps_modify fun _ => rfl)

lemma aside_shutdownAll (reason signal : Value) : Keeps Aside (shutdownAll reason signal) := by
  refine keeps_getLauncher.bind fun l => keeps_announceShutdown.bind fun _ => ?_
  refine Keeps.bind ?_ fun nodes => Keeps.forM _ fun step _ => aside_takeStep l reason signal step
  exact keeps_ownNodes.bind fun _ => .pure

/-! ## Looking for nodes -/

lemma Keeps.filterM {R : SessionRel} [IsPreorder Session R] {f : α → Launch Bool}
    (l : List α) (hf : ∀ a, Keeps R (f a)) : Keeps R (l.filterM f) := by
  have kept (found : List α) : Keeps R (l.filterAuxM f found) := by
    induction l generalizing found with
    | nil => exact .pure
    | cons a l ih => exact (hf a).bind fun _ => ih _
  exact (kept []).bind fun _ => .pure

lemma aside_allNodes (components service foreign : Bool) :
    Keeps Aside (allNodes components service foreign) := by
  have command (p : ProcessEntry) : Keeps Aside (commandUnlessZombie p) := by
    refine ((keeps_commandOf p).bind fun _ => .pure).catchFault fun f => ?_
    exact Keeps.ite .pure .throw
  have processes : Keeps Aside nodeProcesses := by
    refine keeps_get.bind fun s => Keeps.filterMapM _ fun p => (command p).bind fun cmd => ?_
    split <;> exact .pure
  refine keeps_ownNodes.bind fun own =>
    Keeps.ite (Keeps.bind ?_ fun _ => .pure) .pure
  refine keeps_ownNodes.bind fun own => Keeps.bind (Keeps.mapM _ fun i _ => ?_) fun names => ?_
  · exact keeps_getNode.bind fun _ => .pure
  refine processes.bind fun pids => Keeps.bind (Keeps.mapM _ fun pid _ => ?_) fun found => ?_
  · exact (@founds_wrapProcess "" _).mono fun _ _ h => h.terminal
  exact Keeps.filterM _ fun i => keeps_getNode.bind fun _ => .pure

/-! ## Taking over -/

lemma aside_newNode (package executable name ns remaps params output : Value)
    (kind : NodeKind) :
    Keeps Aside (newNode package executable name ns remaps params output kind) := by
  have taken (n : Node) : Keeps Aside (takeUp n output) := by
    refine (stays_useLogger _).aside.bind fun _ => (stays_configureLogger _ _).aside.bind fun _ => ?_
    intro s
    simp only [yields_bind, yields_get, yields_set, yields_pure]
    rfl
  have named : Keeps Aside (namespaceText ns) := by
    unfold namespaceText
    grind
  refine Keeps.when keeps_told fun _ => named.bind fun ns => ?_
  refine Keeps.when keeps_told fun _ => keeps_get.bind fun s => ?_
  refine Keeps.bind (keeps_modify fun _ => rfl) fun _ => ?_
  split
  · exact taken _
  · exact keeps_silent

lemma aside_newProcessNode (args : Bound) (ns : Value) : Keeps Aside (newProcessNode args ns) := by
  obtain ⟨level, p, hnew⟩ := newProcessNode_eq args ns
  rw [hnew]
  exact keeps_lift.bind fun _ => aside_newNode _ _ _ _ _ _ _ _

lemma aside_takeover (i : Nat) (killAfter : Value) (named : Named) :
    Keeps Aside (takeover i killAfter named) := by
  have ended (j : Nat) : Keeps Aside (do
      startProcess j
      modifyForeign i fun f => { f with process := .gone }
      return Value.ref (.node j)) := by
    refine (stays_startProcess j).aside.bind fun _ => Keeps.bind ?_ fun _ => .pure
    exact keeps_modify fun _ => rfl
  refine (keeps_endForeign i _).bind fun _ => keeps_getNode.bind fun n => keeps_info.bind fun _ => ?_
  refine (keeps_nodeParams i).bind fun params => keeps_getForeign.bind fun f => ?_
  dsimp only
  generalize newNodeSignature.bind [] _ true = bound
  refine Keeps.when keeps_silent fun _ => ?_
  cases bound with
  | error e => exact fun s => .of_bind (.throw (refl_of Aside s))
  | ok args =>
    refine Keeps.pure.bind fun _ => (aside_newProcessNode _ _).bind fun j => ?_
    refine (keeps_findGroup _ _).bind fun g => ?_
    split
    · exact Keeps.bind (keeps_modify fun _ => rfl) fun _ => ended j
    · exact keeps_silent.bind fun _ => ended j

/-! ## Info sheets -/

lemma aside_infoSheet (i : Nat) : Keeps Aside (infoSheet i) := by
  have stage : Keeps Aside (stageText i) := by
    unfold stageText
    grind
  have kind : Keeps Aside (kindSection i) := by
    refine keeps_getNode.bind fun n => ?_
    split
    · grind
    · grind
    · refine keeps_managedComponents.bind fun js => Keeps.bind (Keeps.mapM js fun j _ => ?_) ?_
      · exact keeps_getNode.bind fun _ => keeps_display.bind fun _ => .pure
      · exact fun _ => .pure
    · grind
    · exact .pure
  have general : Keeps Aside (generalSection i) := by
    unfold generalSection
    grind
  have config : Keeps Aside (configSection i) := by
    unfold configSection
    grind
  have graph : Keeps Aside (graphSection i) := by
    have actions : Keeps Aside (describeActions i) :=
      keeps_getService.bind fun _ => keeps_get.bind fun _ => .pure
    have endpoints : Keeps Aside (endpointsOf i) := by
      unfold endpointsOf
      grind
    have connected := keeps_isConnected (R := Aside) i (.float 0.0)
    unfold graphSection
    grind
  unfold infoSheet
  grind

end Launch

end Launchpad
