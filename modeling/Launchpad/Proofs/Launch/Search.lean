import Launchpad.Proofs.Launch.Calm

/-!
The search for files and parameters is calm, however deep substitutions ask for substitutions:
what it finds comes from the files, the arguments and the node graph.
-/

namespace Launchpad.Launch

variable {R : SessionRel}
variable {handlers : Substitution.Handlers Launch}

/-! ## Files and packages -/

section Reading

variable [IsPreorder Session R]

variable {path : String} {package filename : Value} {args : List Value}

@[grind ←]
lemma keeps_readText : Keeps R (readText path) := by
  refine keeps_get.bind fun s => Keeps.when keeps_silent fun _ => ?_
  refine Keeps.when keeps_silent fun _ => Keeps.when keeps_silent fun _ => ?_
  dsimp only
  split
  · refine Keeps.when keeps_silent fun _ => ?_
    split <;> exact .pure
  · exact keeps_silent
  · exact keeps_silent

@[grind ←]
lemma keeps_isFile (path : String) : Keeps R (isFile path) :=
  keeps_get.bind fun _ => .pure

@[grind ←]
lemma keeps_describedName : Keeps R (describedName path) := by
  unfold describedName
  grind

@[grind ←]
lemma keeps_describedPackage (n : Nat) (path : String) : Keeps R (describedPackage n path) := by
  induction n generalizing path with
  | zero => exact .pure
  | succ n ih =>
    unfold describedPackage
    split
    · exact .pure
    · dsimp only
      refine Keeps.bind (Keeps.findSomeM? _ fun p => keeps_describedName) fun found => ?_
      split
      · exact .pure
      · exact ih _

@[grind ←]
lemma keeps_packageForPath : Keeps R (packageForPath path) := by
  unfold packageForPath
  grind

@[grind ←]
lemma keeps_packagePlace : Keeps R (packagePlace package) := by
  unfold packagePlace
  grind

@[grind ←]
lemma keeps_searchBelow {base : String} {subdir : Value} :
    Keeps R (searchBelow base filename package subdir) := by
  unfold searchBelow
  grind

@[grind ←]
lemma keeps_isAbsoluteName {given : Bool} : Keeps R (isAbsoluteName given filename) := by
  unfold isAbsoluteName
  grind

@[grind ←]
lemma keeps_ownPackage : Keeps R ownPackage := by
  unfold ownPackage
  grind

/-! ## Substitutions -/

@[grind ←]
lemma keeps_arity {least most : Nat} : Keeps R (arity least most args) :=
  Keeps.ite .pure keeps_silent

@[grind ←]
lemma keeps_argNames : Keeps R argNames := by
  unfold argNames
  grind

@[grind ←]
lemma keeps_substituteArg : Keeps R (substituteArg args) := by
  unfold substituteArg
  grind

@[grind ←]
lemma keeps_substituteEnv : Keeps R (substituteEnv args) := by
  unfold substituteEnv
  grind

end Reading

variable [Lenient R]

variable {args : List Value} {v target params : Value} {name : String}

@[grind ←]
lemma keeps_substituteParam : Keeps R (substituteParam args) := by
  refine keeps_arity.bind fun _ => keeps_getLauncher.bind fun _ => ?_
  refine keeps_display.bind fun node => ?_
  refine keeps_openClient.bind fun _ => keeps_awaitService.bind fun ready => ?_
  refine Keeps.when keeps_told fun _ => keeps_request.bind fun r => ?_
  dsimp only
  split
  · exact keeps_silent
  · exact keeps_display.bind fun _ => keeps_told

@[grind ←]
lemma keeps_substituteEval {mode : Script.EvalMode} : Keeps R (substituteEval mode args) := by
  unfold substituteEval
  grind

def KeepsAll (R : SessionRel) (handlers : Substitution.Handlers Launch) : Prop :=
  ∀ key call, handlers key = some call → ∀ args, Keeps R (call args)

lemma KeepsAll.applyForm (h : KeepsAll R handlers) (vs : List Value) :
    Keeps R (Substitution.applyForm handlers vs) := by
  unfold Substitution.applyForm
  split
  · exact .throw
  · split
    · dsimp only
      split
      · exact .throw
      · next call hcall => exact h _ call hcall _
    · split
      · exact .pure
      · exact .throw
  · exact .throw

mutual

lemma KeepsAll.expand (h : KeepsAll R handlers) (f : Substitution.Form) :
    Keeps R (f.expand handlers) := by
  cases f with
  | word s => exact .pure
  | items fs =>
    exact (h.expandAll fs).bind fun vs => h.applyForm vs

lemma KeepsAll.expandAll (h : KeepsAll R handlers) (fs : List Substitution.Form) :
    Keeps R (Substitution.expandAll handlers fs) := by
  cases fs with
  | nil => exact .pure
  | cons f fs =>
    exact (h.expand f).bind fun _ => (h.expandAll fs).bind fun _ => .pure

end

lemma KeepsAll.substituteValue (h : KeepsAll R handlers) (v : Value) :
    Keeps R (Substitution.substituteValue handlers v) := by
  unfold Substitution.substituteValue
  split
  · exact .throw
  · split
    · exact .throw
    · exact h.expand _

lemma keeps_findWith_resolveWith (fuel : Nat) :
    (∀ substitutions package filename subdir,
      Keeps R (findWith substitutions package filename subdir fuel)) ∧
      ∀ v, Keeps R (resolveWith v fuel) := by
  induction fuel with
  | zero =>
    refine ⟨fun _ _ _ _ => ?_, fun _ => ?_⟩
    · rw [findWith]
      exact keeps_silent
    · rw [resolveWith]
      exact keeps_silent
  | succ fuel ih =>
    obtain ⟨hfind, hresolve⟩ := ih
    refine ⟨fun substitutions package filename subdir => ?_, fun v => ?_⟩
    · rw [findWith]
      refine Keeps.ite_bind (hresolve _) .pure fun filename => ?_
      refine keeps_isAbsoluteName.bind fun b => Keeps.ite .pure ?_
      refine Keeps.ite_bind .pure keeps_ownPackage fun package => ?_
      refine Keeps.ite (keeps_packagePlace.bind fun base => ?_)
        (keeps_get.bind fun s => Keeps.pure.bind fun base => ?_)
      all_goals
        refine Keeps.ite_bind (hresolve _) .pure fun base => Keeps.ite .pure ?_
        split
        · exact keeps_searchBelow
        · exact keeps_silent
    · rw [resolveWith]
      refine Keeps.ite .pure (KeepsAll.substituteValue ?_ v)
      intro key call hcall args
      dsimp only at hcall
      split at hcall <;> cases hcall
      · exact keeps_arity.bind fun _ => hfind _ _ _ _
      · exact keeps_substituteArg
      · exact keeps_substituteParam
      · exact keeps_substituteEnv
      · exact keeps_substituteEval

@[grind ←]
lemma keeps_find (package filename subdir : Value) (substitutions : Bool) :
    Keeps R (find package filename subdir substitutions) :=
  (keeps_findWith_resolveWith _).1 _ _ _ _

/-! ## Parameters -/

@[grind ←]
lemma keeps_lacking {α : Type} : Keeps R (lacking v name : Launch α) :=
  keeps_silent

@[grind ←]
lemma keeps_sectionMatches {key : Value} : Keeps R (sectionMatches key name) := by
  unfold sectionMatches
  grind

@[grind ←]
lemma keeps_sectionName (v : Value) : Keeps R (sectionName v) := by
  unfold sectionName
  grind

@[grind ←]
lemma keeps_matchingSections (name : String) (acc es : Entries) :
    Keeps R (matchingSections name acc es) := by
  induction es generalizing acc with
  | nil => exact .pure
  | cons e es ih =>
    refine keeps_sectionMatches.bind fun b => Keeps.ite ?_ (ih acc)
    exact keeps_lift.bind fun acc => ih acc

@[grind ←]
lemma keeps_entriesOf (v : Value) : Keeps R (entriesOf v) := by
  unfold entriesOf
  grind

@[grind ←]
lemma keeps_pathOf : Keeps R (pathOf v) := by
  unfold pathOf
  grind

@[grind ←]
lemma keeps_targetParams : Keeps R (targetParams target params) := by
  unfold targetParams
  grind

@[grind ←]
lemma keeps_unpackParams : Keeps R (unpackParams params) := by
  refine keeps_lift.bind fun b => Keeps.ite ?_ .pure
  split
  · exact keeps_lift.bind fun _ => .pure
  · exact keeps_lacking

@[grind ←]
lemma keeps_loadParams {package file subdir : Value} :
    Keeps R (loadParams package file subdir target) := by
  refine Keeps.bind ?_ fun params => ?_
  · refine (keeps_find _ _ _ _).bind fun found => keeps_pathOf.bind fun path => ?_
    exact keeps_readText.bind fun t => keeps_lift
  · refine keeps_lift.bind fun b => Keeps.ite keeps_lift ?_
    exact keeps_targetParams.bind fun v => keeps_unpackParams

section Tolerant

variable {R : SessionRel} [Tolerant R]

@[grind ←]
lemma keeps_nodeParams (i : Nat) : Keeps R (nodeParams i) := by
  refine keeps_getNode.bind fun n => keeps_get.bind fun s => ?_
  split
  · refine keeps_loadParams.bind fun v => ?_
    refine Keeps.bind ?_ fun _ => .pure
    exact keeps_modifyNode i (fun _ => rfl) (fun _ => rfl) fun _ => rfl
  · exact .pure

@[grind ←]
lemma keeps_flatParams (i : Nat) : Keeps R (flatParams i) :=
  (keeps_nodeParams i).bind fun _ => keeps_lift

end Tolerant

section Reading

variable {R : SessionRel} [IsPreorder Session R]

@[grind ←]
lemma keeps_graphArgs (i : Nat) : Keeps R (graphArgs i) := by
  unfold graphArgs
  grind

/-! ## What a child is started with -/

variable {p : ProcessNode}

@[grind ←]
lemma keeps_ownArgs : Keeps R (ownArgs p) := by
  unfold ownArgs
  grind

@[grind ←]
lemma keeps_childEnv : Keeps R (childEnv p) := by
  unfold childEnv
  grind

end Reading

lemma Keeps.commandLine {R : SessionRel} [Lenient R] {i : Nat}
    (h : Keeps R (flatParams i)) : Keeps R (commandLine i) := by
  refine keeps_getNode.bind fun n => keeps_getProcess.bind fun p => ?_
  refine keeps_display.bind fun place => (keeps_find _ _ _ _).bind fun cmd => ?_
  refine keeps_ownArgs.bind fun own => Keeps.ite .pure ?_
  refine h.bind fun es => keeps_lift.bind fun params => ?_
  exact (keeps_graphArgs i).bind fun _ => .pure

@[grind ←]
lemma keeps_commandLine {R : SessionRel} [Tolerant R] (i : Nat) : Keeps R (commandLine i) :=
  (keeps_flatParams i).commandLine

end Launchpad.Launch
