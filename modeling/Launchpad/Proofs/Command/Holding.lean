import Launchpad.Proofs.Command.Line

/-!
What a node was made with stays with it: its names, its remappings, its own arguments, and its
parameters once they are there. Operations change its lifecycle, what runs it, and how often it was
started again.
-/

namespace Launchpad

def NodeKind.gift : NodeKind → NodeKind
  | .process p => .process { p with child := none, retries := 0 }
  | .foreign f => .foreign { f with process := .gone }
  | kind => kind

def Node.gift (n : Node) : Node :=
  { n.given with kind := n.kind.gift }

def Node.Loaded (n : Node) : Prop :=
  ∀ file, n.params ≠ .str file

def Holds (i : Nat) (s t : Session) : Prop :=
  ∀ n, s.nodes[i]? = some n → n.Loaded → ∃ m, t.nodes[i]? = some m ∧ m.gift = n.gift

lemma Node.Loaded.of_gift {n m : Node} (h : n.Loaded) (hm : m.gift = n.gift) : m.Loaded := by
  intro file hfile
  exact h file ((congrArg Node.params hm).symm.trans hfile)

instance (i : Nat) : IsPreorder Session (Holds i) where
  refl _ n hn _ := ⟨n, hn, rfl⟩
  trans _ _ _ h h' := by
    intro n hn hloaded
    obtain ⟨m, hm, hgift⟩ := h n hn hloaded
    obtain ⟨k, hk, hgift'⟩ := h' m hm (hloaded.of_gift hgift)
    exact ⟨k, hk, hgift'.trans hgift⟩

lemma Holds.of_nodes {i : Nat} {s t : Session} (h : t.nodes = s.nodes) : Holds i s t :=
  fun n hn _ => ⟨n, by rw [h, hn], rfl⟩

instance (i : Nat) : Watchful (Holds i) where
  watched _ _ _ := .of_nodes
  light s t h := by
    intro n hn _
    have hgiven := congrArg (fun nodes => nodes[i]?) h.given
    simp only [Array.getElem?_map, hn, Option.map_some] at hgiven
    obtain ⟨m, hm, hsame⟩ := Option.map_eq_some_iff.1 hgiven
    have hgift : m.given.gift = n.given.gift := by rw [hsame]
    exact ⟨m, hm, hgift⟩

namespace Launch

variable {α : Type} {s t : Session} {i : Nat}

lemma holds_modify {f : Session → Session} (h : ∀ s, (f s).nodes = s.nodes) :
    Keeps (Holds i) (modify f) :=
  keeps_modify fun s => .of_nodes (h s)

lemma holds_modifyWorld (f : World → World) : Keeps (Holds i) (modifyWorld f) :=
  holds_modify fun _ => rfl

lemma holds_emit (e : Event) : Keeps (Holds i) (emit e) :=
  holds_modify fun _ => rfl

lemma holds_modifyNode (j : Nat) {f : Node → Node} (h : ∀ n, (f n).gift = n.gift) :
    Keeps (Holds i) (modifyNode j f) := by
  refine keeps_modify fun s n hn _ => ?_
  by_cases hij : j = i
  · exact ⟨f n, by simp [Array.getElem?_modify, hij, hn], h n⟩
  · exact ⟨n, by simp [Array.getElem?_modify, hij, hn], rfl⟩

lemma holds_modifyProcess (j : Nat) {f : ProcessNode → ProcessNode}
    (h : ∀ p, (NodeKind.process (f p)).gift = (NodeKind.process p).gift) :
    Keeps (Holds i) (modifyProcess j f) := by
  refine holds_modifyNode j fun n => ?_
  cases hkind : n.kind with
  | process p => simp only [Node.gift, hkind, h, Node.given]
  | _ => rfl

lemma yields_nodeParams_loaded {n : Node} (hn : s.nodes[i]? = some n) (h : n.Loaded)
    {E : Post Stop} :
    Yields (nodeParams i) s (fun v t => v = n.params ∧ t = s) E := by
  refine (yields_getNode hn).exactly ?_
  refine .of_bind (.get ?_)
  split
  · next file _ hfile _ => exact absurd hfile (h file)
  · exact .pure ⟨rfl, rfl⟩
lemma holds_nodeParams (i : Nat) : Keeps (Holds i) (nodeParams i) := by
  intro s
  by_cases hthere : ∃ n, s.nodes[i]? = some n ∧ n.Loaded
  · obtain ⟨n, hn, hloaded⟩ := hthere
    refine (yields_nodeParams_loaded hn hloaded).map ?_
    rintro _ _ ⟨-, rfl⟩
    exact refl_of (Holds i) _
  · refine (keeps_nodeParams (R := Calm) i s).imp (fun _ t _ => ?_) fun _ t _ => ?_
    all_goals exact fun n hn hloaded => absurd ⟨n, hn, hloaded⟩ hthere

lemma holds_commandLine (i : Nat) : Keeps (Holds i) (commandLine i) :=
  Keeps.commandLine ((holds_nodeParams i).bind fun _ => keeps_lift)

lemma holds_spawn (argv : List String) (event : Event) : Keeps (Holds i) (spawn argv event) := by
  refine keeps_get.bind fun s => (holds_emit event).bind fun _ => ?_
  refine Keeps.when keeps_silent fun _ => ?_
  exact (holds_modifyWorld _).bind fun _ => .pure

lemma holds_launchChild (i : Nat) (logger : String) : Keeps (Holds i) (launchChild i logger) := by
  refine keeps_getProcess.bind fun p => Keeps.bind ?_ fun setup => ?_
  · refine (holds_commandLine i).bind fun cmd => Keeps.unless keeps_silent fun _ => ?_
    refine keeps_info.bind fun _ => keeps_childEnv.bind fun env => ?_
    exact keeps_get.bind fun s => .pure
  · refine (holds_spawn _ _).bind fun c => Keeps.bind ?_ fun _ => holds_modify fun _ => rfl
    exact holds_modifyProcess i fun _ => rfl

end Launch

end Launchpad
