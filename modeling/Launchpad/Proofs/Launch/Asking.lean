import Launchpad.Proofs.Supervision.Scene

/-!
Questions about nodes: how a new one is called, whether one is in the graph and managed, and which
processes are nodes. They are calm but for looking at children.
-/

namespace Launchpad.Launch

variable {R : SessionRel}

lemma Keeps.findM? {α : Type} [IsPreorder Session R] {f : α → Launch Bool} (l : List α)
    (hf : ∀ a, Keeps R (f a)) : Keeps R (l.findM? f) := by
  induction l with
  | nil => exact .pure
  | cons a l ih =>
    refine (hf a).bind fun b => ?_
    cases b with
    | true => exact .pure
    | false => exact ih

lemma Keeps.filterMapM {α β : Type} [IsPreorder Session R] {f : α → Launch (Option β)}
    (l : List α) (hf : ∀ a, Keeps R (f a)) : Keeps R (l.filterMapM f) := by
  induction l with
  | nil => exact .pure
  | cons a l ih =>
    rw [List.filterMapM_cons]
    refine (hf a).bind fun b => ?_
    cases b with
    | none => exact ih
    | some b => exact ih.bind fun _ => .pure

section Tolerant

variable [Tolerant R]

/-! ## Names -/

lemma keeps_uniqueName (name : Value) : Keeps R (uniqueName name) := by
  have counts : Keeps R (modifyWorld fun w => { w with nextUnique := w.nextUnique + 1 }) :=
    keeps_modifyWorld fun _ => rfl
  unfold uniqueName
  grind

lemma keeps_chooseName (name : Value) {default : Launch String} (h : Keeps R default)
    (anonymous hidden : Value) : Keeps R (chooseName name default anonymous hidden) := by
  have unique : ∀ v, Keeps R (uniqueName v) := keeps_uniqueName
  unfold chooseName
  grind

lemma keeps_bindArgs {sig : Signature} {positional : List Value} {named : Named} :
    Keeps R (bindArgs sig positional named) := by
  unfold bindArgs
  grind

lemma keeps_containerExecutable {variant : Value} : Keeps R (containerExecutable variant) := by
  unfold containerExecutable
  grind

/-! ## Managed nodes -/

lemma keeps_graphServices : Keeps R graphServices :=
  keeps_useAdapter.bind fun _ => keeps_get.bind fun _ => .pure

lemma keeps_manage (i : Nat) : Keeps R (manage i) := by
  refine keeps_getNode.bind fun n => keeps_useAdapter.bind fun _ => ?_
  refine keeps_noteCall.bind fun _ => Keeps.bind ?_ fun _ => ?_
  · exact keeps_of_calm (keeps_modify fun _ => .of_core rfl rfl)
  · refine keeps_openClient.bind fun _ => keeps_awaitService.bind fun ready => ?_
    refine Keeps.when keeps_told fun _ => ?_
    exact keeps_modifyNode i (fun _ => rfl) (fun _ => rfl) fun _ => rfl

lemma keeps_getLifecycle (i : Nat) : Keeps R (getLifecycle i) := by
  unfold getLifecycle
  grind

lemma keeps_followPath (i : Nat) (target topic : Value) (path : List Int) :
    Keeps R (followPath i target topic path) := by
  induction path with
  | nil => exact .pure
  | cons t path ih =>
    unfold followPath
    grind

lemma keeps_transition (i : Nat) (target : Value) : Keeps R (transition i target) := by
  have follow : ∀ topic path, Keeps R (followPath i target topic path) := keeps_followPath i target
  have state := keeps_getLifecycle (R := R) i
  unfold transition
  grind

lemma keeps_awaitComposerServices {i : Nat} {timeout : Value} :
    Keeps R (awaitComposerServices i timeout) := by
  refine Keeps.ite .pure (Keeps.forM _ fun x _ => ?_)
  grind

/-! ## Processes -/

lemma keeps_commandOf (p : Script.ProcessEntry) : Keeps R (commandOf p) := by
  unfold commandOf
  grind

lemma keeps_processesOfNode {ns name : Value} : Keeps R (processesOfNode ns name) := by
  refine keeps_lift.bind fun nsPattern => keeps_lift.bind fun namePattern => ?_
  refine keeps_get.bind fun s => Keeps.filterMapM _ fun p => ?_
  have command := keeps_commandOf (R := R) p
  unfold commandUnlessZombie
  grind

lemma keeps_splitAssignment (arg : Option String) : Keeps R (splitAssignment arg) := by
  unfold splitAssignment
  grind

-- An argument may take the next one with it, so the induction is on how many are left.
lemma keeps_readNodeArgs (node : Value) (inMarks : Bool) (acc : NodeArgs) (args : List String) :
    Keeps R (readNodeArgs node inMarks acc args) := by
  induction hn : args.length using Nat.strongRecOn generalizing inMarks acc args with
  | ind n ih =>
    cases args with
    | nil =>
      unfold readNodeArgs
      exact .pure
    | cons arg rest =>
      have next : ∀ inMarks acc, Keeps R (readNodeArgs node inMarks acc rest) :=
        fun inMarks acc => ih _ (by grind) inMarks acc rest rfl
      have later : ∀ inMarks acc, Keeps R (readNodeArgs node inMarks acc (rest.drop 1)) :=
        fun inMarks acc => ih _ (by grind) inMarks acc (rest.drop 1) rfl
      have assignment : ∀ arg, Keeps R (splitAssignment arg) := keeps_splitAssignment
      unfold readNodeArgs
      refine Keeps.ite (next _ _) (Keeps.ite (next _ _) (Keeps.ite ?_ (Keeps.ite ?_ ?_)))
      · exact (assignment _).bind fun _ => later _ _
      · grind
      · grind

lemma keeps_parseProcessArgs {pid : Int} {node : Value} : Keeps R (parseProcessArgs pid node) :=
  keeps_getEntry.bind fun p => (keeps_commandOf p).bind fun _ => keeps_readNodeArgs _ _ _ _

lemma keeps_processOf {v : Value} : Keeps R (processOf v) := by
  unfold processOf
  grind

lemma keeps_queryNode {pattern : Value} {components service : Bool} :
    Keeps R (queryNode pattern components service false) := by
  have known : Keeps R (allNodes components service false) :=
    keeps_ownNodes.bind fun _ => .pure
  have read : Keeps R (patternOf pattern) := by
    unfold patternOf
    grind
  refine read.bind fun p => known.bind fun nodes => Keeps.findM? _ fun i => ?_
  exact keeps_getNode.bind fun _ => .pure

end Tolerant

/-! ## Looking at children on the way -/

section Patient

variable [Patient R]

lemma keeps_isConnected (i : Nat) (timeout : Value) : Keeps R (isConnected i timeout) := by
  unfold isConnected
  grind

lemma keeps_offers {i : Nat} {suffix type : String} {timeout : Value} :
    Keeps R (offers i suffix type timeout) := by
  have published : Keeps R (publishedServices i) := by
    have connected := keeps_isConnected (R := R) i (.float 0.0)
    have services := keeps_graphServices (R := R)
    unfold publishedServices
    grind
  unfold offers
  grind

lemma keeps_isLifecycleNode (i : Nat) (timeout : Value) : Keeps R (isLifecycleNode i timeout) := by
  have managed : Keeps R (isManaged i timeout) := keeps_offers
  have manages := keeps_manage (R := R) i
  unfold isLifecycleNode
  grind

lemma keeps_awaitStage {i : Nat} {connectTime manageTime target : Value} :
    Keeps R (awaitStage i connectTime manageTime target) := by
  have connected := keeps_isConnected (R := R) i
  have managed := keeps_isLifecycleNode (R := R) i
  have changes := keeps_transition (R := R) i
  unfold awaitStage
  grind

end Patient

/-! ## Making way for another node -/

/-- A relation between sessions that looks at nothing but the nodes and the terminal. -/
class Neutral (R : SessionRel) : Prop extends IsPreorder Session R where
  neutral : ∀ s t : Session, t.nodes = s.nodes → t.terminal = s.terminal → R s t

section Neutral

variable [Neutral R]

lemma keeps_change {f : Session → Session} (hnodes : ∀ s, (f s).nodes = s.nodes)
    (hterminal : ∀ s, (f s).terminal = s.terminal) : Keeps R (modify f) :=
  keeps_modify fun s => Neutral.neutral _ _ (hnodes s) (hterminal s)

lemma keeps_findGroup (ns : Value) (create : Bool) : Keeps R (findGroup ns create) := by
  have child (g : Nat) (part : String) : Keeps R (childFor g part) := by
    have made : Keeps R (newGroup (some g) part) := by
      intro s
      simp only [newGroup, yields_bind, yields_get, yields_set, yields_pure]
      exact Neutral.neutral _ _ rfl rfl
    have added (c : Nat) : Keeps R (addChild g c) := by
      refine keeps_getGroup.bind fun _ => keeps_getGroup.bind fun _ => ?_
      exact Keeps.when keeps_told fun _ => keeps_change (fun _ => rfl) fun _ => rfl
    unfold childFor
    grind
  have found (parts : List String) (g : Nat) : Keeps R (findGroupFrom create parts g) := by
    induction parts generalizing g with
    | nil => exact .pure
    | cons part parts ih =>
      unfold findGroupFrom
      grind
  unfold findGroup groupRoot
  grind

lemma keeps_endForeign [Watchful R] (i : Nat) (killAfter : Value) :
    Keeps R (endForeign i killAfter) := by
  have told (e : Event) : Keeps R (emit e) := keeps_change (fun _ => rfl) fun _ => rfl
  have signalled (num : Int) : Keeps R (signalForeign i num) := by
    refine keeps_getForeign.bind fun f => ?_
    split
    · refine keeps_getEntry.bind fun e => (told _).bind fun _ => ?_
      exact Keeps.ite (keeps_modifyEntry _ _) .pure
    · refine keeps_getChild.bind fun d => Keeps.ite .pure ?_
      exact (told _).bind fun _ => keeps_takeSignal _ _ _
    · exact keeps_silent
  have killed : Keeps R (killForeign i) := by
    refine keeps_getForeign.bind fun f => ?_
    split
    · exact (told _).bind fun _ => keeps_modifyEntry _ _
    · refine keeps_getChild.bind fun d => (told _).bind fun _ => ?_
      exact keeps_change (fun _ => rfl) fun _ => rfl
    · exact keeps_silent
  have awaited (start : Float) (rounds : Nat) : Keeps R (killLater i killAfter start rounds) := by
    induction rounds with
    | zero => exact .throw
    | succ rounds ih =>
      refine keeps_isRunning.bind fun _ => Keeps.ite .pure ?_
      refine (keeps_sleepOn _).bind fun _ => keeps_now.bind fun _ => ?_
      refine keeps_lessThan.bind fun _ => Keeps.ite (keeps_lessThan.bind fun _ => ?_) ih
      exact Keeps.ite (killed.bind fun _ => .pure) ih
  refine keeps_now.bind fun start => Keeps.bind ?_ fun _ => ?_
  · refine keeps_isRunning.bind fun _ => Keeps.ite .pure ?_
    refine Keeps.bind ?_ fun _ => keeps_awaitForeign
    refine keeps_signalOf.bind fun r => keeps_getNode.bind fun n => ?_
    exact keeps_display.bind fun why => keeps_warn.bind fun _ => signalled _
  · exact awaited start _

end Neutral

end Launchpad.Launch
