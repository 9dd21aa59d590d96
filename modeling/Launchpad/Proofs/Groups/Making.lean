import Launchpad.Proofs.Groups.Staying

/-!
Making nodes. A new node is in the group where the script stands, and so is a composer around a new
node. Nothing else is made, the other nodes stay in their namespaces, and the script stays where it
is.
-/

namespace Launchpad

open Option

variable {home : String} {s t : Session} {groups more : Array Group}

namespace Session

variable {s t : Session}

lemma made?_eq_none {i : Nat} (h : s.nodes.size ≤ i) : s.made? i = none := by
  rw [made?, Array.getElem?_eq_none h, bind_none]

lemma lt_size_of_made? {i : Nat} {m : Option Nat × String} (h : s.made? i = some m) :
    i < s.nodes.size := by
  by_contra hle
  rw [made?_eq_none (Nat.le_of_not_lt hle)] at h
  cases h

end Session

def Group.shape (g : Group) : Group :=
  { g with nodes := [] }

/-- Processes that were added are in a namespace, and composers that were added have the namespace of
the process that they are around. -/
structure Makes (home : String) (s t : Session) : Prop where
  terminal : t.terminal = s.terminal
  launcher : t.core.launcher = s.core.launcher
  shapes : t.groups.map Group.shape = s.groups.map Group.shape
  size : s.nodes.size ≤ t.nodes.size
  kept : ∀ i < s.nodes.size, t.made? i = s.made? i
  processes : ∀ i ns, s.nodes.size ≤ i → t.made? i = some (none, ns) → ns = home
  composers : ∀ i w ns, s.nodes.size ≤ i → t.made? i = some (some w, ns) →
    w < i ∧ ∀ n, t.made? w = some (none, n) → n ≠ "" → ns = n

lemma Stays.makes (h : Stays s t) : Makes home s t := by
  have hnone : ∀ i, s.nodes.size ≤ i → t.made? i = none := by
    intro i hi
    rw [h.made, Session.made?_eq_none hi]
  refine ⟨h.terminal, h.launcher, by rw [h.groups], h.size.ge, fun i _ => h.made i,
    fun i ns hi hm => ?_, fun i w ns hi hm => ?_⟩
  · rw [hnone i hi] at hm
    cases hm
  · rw [hnone i hi] at hm
    cases hm

lemma Makes.trans {m : Session} (h : Makes home s m) (h' : Makes home m t) : Makes home s t := by
  refine ⟨h'.terminal.trans h.terminal, h'.launcher.trans h.launcher, h'.shapes.trans h.shapes,
    h.size.trans h'.size, ?_, ?_, ?_⟩
  · intro i hi
    exact (h'.kept i (hi.trans_le h.size)).trans (h.kept i hi)
  · intro i ns hi hm
    rcases lt_or_ge i m.nodes.size with hlt | hge
    · rw [h'.kept i hlt] at hm
      exact h.processes i ns hi hm
    · exact h'.processes i ns hge hm
  · intro i w ns hi hm
    rcases lt_or_ge i m.nodes.size with hlt | hge
    · rw [h'.kept i hlt] at hm
      obtain ⟨hwi, hw⟩ := h.composers i w ns hi hm
      rw [h'.kept w (hwi.trans hlt)]
      exact ⟨hwi, hw⟩
    · exact h'.composers i w ns hge hm

structure Founds (home : String) (s t : Session) : Prop extends Makes home s t where
  groups : t.groups = s.groups

lemma Stays.founds (h : Stays s t) : Founds home s t :=
  ⟨h.makes, h.groups⟩

instance (home : String) : Patient (Founds home) where
  refl s := (refl_of Stays s).founds
  trans _ _ _ h h' := ⟨h.toMakes.trans h'.toMakes, h'.groups.trans h.groups⟩
  calm s t h := (Tolerant.calm (R := Stays) s t h).founds
  aged s t h := (Patient.aged (R := Stays) s t h).founds

structure Gains (new : Option (Option Nat × String)) (s t : Session) : Prop where
  terminal : t.terminal = s.terminal
  launcher : t.core.launcher = s.core.launcher
  groups : t.groups = s.groups
  size : t.nodes.size = s.nodes.size + 1
  kept : ∀ i < s.nodes.size, t.made? i = s.made? i
  new : t.made? s.nodes.size = new

lemma Gains.founds {new : Option (Option Nat × String)} (h : Gains new s t)
    (hprocess : ∀ ns, new = some (none, ns) → ns = home)
    (hcomposer : ∀ w ns, new = some (some w, ns) → w < s.nodes.size ∧ ∀ n, s.made? w = some (none,
      n) → n ≠ "" → ns = n) : Founds home s t := by
  have hlast : ∀ {i m}, s.nodes.size ≤ i → t.made? i = some m → i = s.nodes.size ∧ new = some m := by
    intro i m hi hm
    have hlt := Session.lt_size_of_made? hm
    obtain rfl : i = s.nodes.size := by
      have := h.size
      omega
    exact ⟨rfl, h.new.symm.trans hm⟩
  refine ⟨⟨h.terminal, h.launcher, by rw [h.groups], by rw [h.size]; exact Nat.le_succ _, h.kept,
    ?_, ?_⟩, h.groups⟩
  · intro i ns hi hm
    obtain ⟨-, hnew⟩ := hlast hi hm
    exact hprocess ns hnew
  · intro i w ns hi hm
    obtain ⟨rfl, hnew⟩ := hlast hi hm
    obtain ⟨hw, hns⟩ := hcomposer w ns hnew
    rw [h.kept w hw]
    exact ⟨hw, hns⟩

namespace Launch

variable {s : Session} {home : String}

lemma Keeps.founds {α : Type} {x : Launch α} (h : Keeps Stays x) : Keeps (Founds home) x :=
  h.mono fun _ _ => Stays.founds

/-- The namespace of a new node. -/
def spelled (ns : String) : String :=
  if ns = "" then "/" else ns

lemma spelled_eq {ns : String} (h : ns ≠ "") : spelled ns = ns :=
  if_neg h

lemma namespaceText_str (ns : String) : namespaceText (.str ns) = pure (spelled ns) := by
  unfold namespaceText spelled Value.truthy
  by_cases h : ns = ""
  · simp [h]
  · simp [h, textOf]

lemma gains_push {s m : Session} (h : Stays s m) (n : Node) :
    Gains n.made? s { m with nodes := m.nodes.push n } := by
  refine ⟨h.terminal, h.launcher, h.groups, ?_, fun i hi => ?_, ?_⟩
  · rw [Array.size_push, h.size]
  · rw [← h.made i, Session.made?, Session.made?, Array.getElem?_push_lt (h.size ▸ hi),
      Array.getElem?_eq_getElem (h.size ▸ hi)]
  · rw [← h.size, Session.made?, Array.getElem?_push_size, bind_some]

lemma yields_takeUp {s m : Session} (h : Stays s m) (n : Node) (output : Value) :
    Yields (takeUp n output) m (fun i t => i = s.nodes.size ∧ Gains n.made? s t)
      (fun _ t => Stays s t) := by
  have hmade : Node.made? { n with logger := n.fullname } = n.made? := by
    simp only [Node.made?]
  refine (stays_useLogger _).along h fun _ m h => ?_
  refine (stays_configureLogger _ _).along h fun _ m h => ?_
  refine .of_bind (.get (.of_bind (.set ?_)))
  refine .pure ⟨h.size, ?_⟩
  rw [← hmade]
  exact gains_push h _

lemma yields_newNode (package executable name : Value) (ns : String) (remaps params output : Value)
    (kind : NodeKind) (s : Session) :
    Yields (newNode package executable name (.str ns) remaps params output kind) s
      (fun i t => i = s.nodes.size ∧
        Gains (kind.made?.map fun around => (around, spelled ns)) s t)
      (fun _ t => Stays s t) := by
  unfold newNode
  rw [namespaceText_str]
  refine Yields.ite (.of_bind (.throw (refl_of Stays s))) (.of_bind (.pure ?_))
  refine Yields.ite (.of_bind (.throw (refl_of Stays s))) ?_
  simp only [yields_bind, yields_get, yields_modify]
  have hcounted : Stays s { s with nodeCounter := s.nodeCounter + 1 } := .of_fields rfl rfl rfl rfl
  split
  · exact yields_takeUp hcounted _ output
  · exact .throw hcounted

lemma founds_newNode (package executable name : Value) (ns : String)
    (remaps params output : Value) {kind : NodeKind} (hkind : kind.made? = none) :
    Keeps (Founds home) (newNode package executable name (.str ns) remaps params output kind) := by
  intro s
  refine (yields_newNode package executable name ns remaps params output kind s).imp
    (fun i t ht => ht.2.founds ?_ ?_) fun _ _ ht => ht.founds
  · intro ns hnew
    rw [hkind] at hnew
    cases hnew
  · intro w ns hnew
    rw [hkind] at hnew
    cases hnew

lemma newProcessNode_eq (args : Bound) (ns : Value) :
    ∃ (level : Try Value) (p : Value → ProcessNode), newProcessNode args ns =
      lift level >>= fun v => newNode (args.get "package") (args.get "executable") (args.get "name")
        ns (args.get "remaps") (args.get "params") (args.get "output") (.process (p v)) := by
  unfold newProcessNode
  dsimp only
  split
  · exact ⟨_, _, rfl⟩
  · exact ⟨_, _, rfl⟩
  · exact ⟨.ok _, _, rfl⟩

lemma founds_newProcessNode (args : Bound) (hhome : home ≠ "") :
    Keeps (Founds home) (newProcessNode args (.str home)) := by
  obtain ⟨level, p, hnew⟩ := newProcessNode_eq args (.str home)
  rw [hnew]
  refine keeps_lift.bind fun v s => ?_
  refine (yields_newNode _ _ _ home _ _ _ _ s).imp (fun i t ht => ht.2.founds ?_ ?_)
    fun _ _ ht => ht.founds
  · intro ns hnew
    obtain ⟨-, hns⟩ := Prod.mk.inj (some.inj hnew)
    rw [← hns, spelled_eq hhome]
  · intro w ns hnew
    obtain ⟨hw, -⟩ := Prod.mk.inj (some.inj hnew)
    cases hw

lemma known_newProcessNode (args : Bound) (ns : String) (s : Session) :
    IfOk (newProcessNode args (.str ns)) s (fun i t => i = s.nodes.size ∧ i < t.nodes.size) := by
  obtain ⟨level, p, hnew⟩ := newProcessNode_eq args (.str ns)
  rw [hnew]
  refine .of_bind (yields_lift.2 ⟨fun v _ => ?_, fun _ _ => trivial⟩)
  refine (yields_newNode _ _ _ ns _ _ _ _ s).map ?_
  rintro i t ⟨rfl, ht⟩
  exact ⟨rfl, by rw [ht.size]; exact Nat.lt_succ_self _⟩

lemma yields_getNode_bind {α : Type} {i : Nat} {f : Node → Launch α} {Q : Post α}
    {E : Post Stop} (hE : ∀ e, E e s)
    (hf : ∀ n, s.nodes[i]? = some n → Yields (f n) s Q E) : Yields (getNode i >>= f) s Q E := by
  simp only [getNode, yields_bind, yields_get]
  cases hn : s.nodes[i]? with
  | none => exact .throw (hE _)
  | some n => exact .pure (hf n hn)

lemma founds_newComposer (i : Nat) (remaps output : Value) :
    Keeps (Founds home) (newComposer i remaps output) := by
  intro s
  refine yields_getNode_bind (fun _ => refl_of (Founds home) s) fun n hn => ?_
  refine (yields_newNode _ _ _ n.ns _ _ _ (.composer _) s).seq (fun j t ht => ?_) fun _ _ ht =>
    ht.founds
  have hfounds : Founds home s t := by
    refine ht.2.founds (fun ns hnew => ?_) fun w ns hnew => ?_
    · obtain ⟨hw, -⟩ := Prod.mk.inj (some.inj hnew)
      cases hw
    · obtain ⟨hw, hns⟩ := Prod.mk.inj (some.inj hnew)
      obtain rfl := some.inj hw
      refine ⟨(Array.getElem?_eq_some_iff.1 hn).1, fun m hm hne => ?_⟩
      obtain ⟨around, -, heq⟩ := map_eq_some_iff.1 (by simpa [Session.made?, hn] using hm :
        n.made? = some (none, m))
      obtain ⟨-, rfl⟩ := Prod.mk.inj heq
      rw [← hns, spelled_eq hne]
  split
  · exact .pure hfounds
  · exact .throw hfounds

lemma founds_wrapProcess (process : Value) : Keeps (Founds home) (wrapProcess process) := by
  have made (process package : Value) (name ns : String) (remaps params cmdArgs : Value) :
      Keeps (Founds home) (newForeignNode process package (.str name) (.str ns) remaps params
        cmdArgs (.str "screen")) := by
    refine keeps_processOf.bind fun pid => keeps_getEntry.bind fun p => ?_
    refine (keeps_commandOf p).bind fun cmd => ?_
    split
    · exact keeps_silent
    · refine (founds_newNode _ _ _ ns _ _ _ rfl).bind fun i => ?_
      exact (stays_addTask _).founds.bind fun _ => .pure
  refine keeps_processOf.bind fun pid => keeps_parseProcessArgs.bind fun args => ?_
  refine keeps_getEntry.bind fun p => (keeps_commandOf p).bind fun cmd => ?_
  dsimp only
  split
  · exact keeps_silent.bind fun _ => by grind
  · exact Keeps.pure.bind fun _ => by grind

lemma founds_existingComposer (ns : String) (name : Value) :
    Keeps (Founds home) (existingComposer ns name) := by
  have called : Keeps (Founds home) (composerFullname ns name) := by
    unfold composerFullname
    split
    · exact .pure
    · exact keeps_silent
  refine called.bind fun fullname => keeps_queryNode.bind fun known => ?_
  cases known with
  | some i => exact .pure
  | none =>
    refine keeps_graphNodeNames.bind fun names => Keeps.ite .pure ?_
    refine keeps_getLauncher.bind fun l => keeps_processesOfNode.bind fun pids => ?_
    split
    · exact keeps_error.bind fun _ => .pure
    · exact (founds_wrapProcess _).bind fun _ => .pure
    · exact keeps_warn.bind fun _ => (founds_wrapProcess _).bind fun _ => .pure

lemma founds_reusedNode (args : Bound) (l : Launcher) (ns : String) (name : Value) :
    Keeps (Founds home) (reusedNode args l ns name) := by
  refine Keeps.ite .pure ((founds_existingComposer ns name).bind fun found => ?_)
  cases found with
  | none => exact .pure
  | some i =>
    refine keeps_offers.bind fun _ => Keeps.ite ?_ .pure
    exact keeps_getNode.bind fun _ => keeps_warn.bind fun _ => .pure

lemma founds_newContainer (args : Bound) (hhome : home ≠ "") (name : Value) :
    Keeps (Founds home) (newContainer args home name) := by
  refine keeps_display.bind fun _ => keeps_containerExecutable.bind fun _ => ?_
  exact keeps_bindArgs.bind fun bound => founds_newProcessNode bound hhome

lemma founds_composerAround (args : Bound) (i : Nat) :
    Keeps (Founds home) (composerAround args i) := by
  refine keeps_getNode.bind fun n => ?_
  split
  · exact .pure
  · exact founds_newComposer i _ _

lemma known_composerAround (args : Bound) (i : Nat) (s : Session) :
    IfOk (composerAround args i) s (fun j t => j < t.nodes.size) := by
  refine yields_getNode_bind (fun _ => trivial) fun n hn => ?_
  split
  · exact .pure (Array.getElem?_eq_some_iff.1 hn).1
  · refine yields_getNode_bind (fun _ => trivial) fun n _ => ?_
    refine (yields_newNode _ _ _ n.ns _ _ _ _ s).andThen fun j t ht => ?_
    have hlt : j < t.nodes.size := by
      rw [ht.1, ht.2.size]
      exact Nat.lt_succ_self _
    split
    · exact .pure hlt
    · exact .throw trivial

end Launch

/-! ## Growth -/

section

variable (h : more.map Group.shape = groups.map Group.shape)
include h

lemma group_of_shapes {i : Nat} {g : Group} (hg : groups[i]? = some g) :
    ∃ k, more[i]? = some k ∧ k.shape = g.shape := by
  have hget : (more.map Group.shape)[i]? = (groups.map Group.shape)[i]? := by rw [h]
  rw [Array.getElem?_map, Array.getElem?_map, hg, map_some] at hget
  exact map_eq_some_iff.1 hget

lemma extended_of_shapes : Extended groups more := by
  intro i g hg
  obtain ⟨k, hk, hshape⟩ := group_of_shapes h hg
  have hparent : k.shape.parent = g.shape.parent := congrArg Group.parent hshape
  have hns : k.shape.ns = g.shape.ns := congrArg Group.ns hshape
  exact ⟨k, hk, hparent, hns⟩

lemma groupTree_of_shapes (htree : GroupTree groups) : GroupTree more := by
  intro i g hg part c hc
  obtain ⟨k, hk, hshape⟩ := group_of_shapes h.symm hg
  have hchildren : k.shape.children = g.shape.children := congrArg Group.children hshape
  have hmem : (part, c) ∈ k.children := by
    have hshown : g.children = k.children := hchildren.symm
    rw [← hshown]
    exact hc
  obtain ⟨hlt, m, hm, hparent, hns⟩ := htree i k hk part c hmem
  obtain ⟨m', hm', hparent', hns'⟩ := extended_of_shapes h c m hm
  exact ⟨hlt, m', hm', hparent'.trans hparent, hns'.trans hns⟩

end

/-- Groups and nodes were added at most, and the nodes that were there are in their namespaces. -/
structure Grows (s t : Session) : Prop where
  extended : Extended s.groups t.groups
  tree : GroupTree s.groups → GroupTree t.groups
  size : s.nodes.size ≤ t.nodes.size
  kept : ∀ i < s.nodes.size, t.made? i = s.made? i

lemma Grows.trans {m : Session} (h : Grows s m) (h' : Grows m t) : Grows s t :=
  ⟨h.extended.trans h'.extended, fun htree => h'.tree (h.tree htree), h.size.trans h'.size,
    fun i hi => (h'.kept i (hi.trans_le h.size)).trans (h.kept i hi)⟩

lemma Grows.of_fields (hgroups : t.groups = s.groups) (hnodes : t.nodes = s.nodes) : Grows s t := by
  refine ⟨hgroups ▸ .refl _, fun htree => hgroups ▸ htree, by rw [hnodes], fun i _ => ?_⟩
  rw [Session.made?, hnodes, Session.made?]

lemma Makes.grows (h : Makes home s t) : Grows s t :=
  ⟨extended_of_shapes h.shapes, groupTree_of_shapes h.shapes, h.size, h.kept⟩

end Launchpad
