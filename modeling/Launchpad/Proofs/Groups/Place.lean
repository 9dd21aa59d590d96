import Launchpad.Proofs.Groups.Making

/-!
Where a script stands. The namespaces of the groups around a call say in which namespace a node is
made, and they say it alike from the beginning of a launch on.
-/

namespace Launchpad

open Launch

/-! ## Namespaces of places -/

def home (root : String) (scope : List String) : String :=
  chainNamespace (rootName root :: (inForce scope).flatMap partsOf)

/-- A namespace is spelled properly, and is that of the root followed by those in force. -/
structure Placed (root : String) (scope : List String) (ns : String) : Prop where
  proper : IsNamespace ns
  parts : segments ns = segments root ++ (inForce scope).flatMap segments

lemma segments_rootName (root : String) : segments (rootName root) = segments root := by
  have hchars : (rootName root).toList = '/' :: (Text.trimBy (· == '/') root).toList := by
    rw [rootName, String.toList_append]
    rfl
  rw [Segments.segments_eq, hchars, Segments.pieces_cons_slash, Segments.pieces_trimBy,
    ← Segments.segments_eq]

lemma placed_home (root : String) (scope : List String) : Placed root scope (home root scope) := by
  refine ⟨isNamespace_chainNamespace (List.cons_ne_nil _ _), ?_⟩
  rw [home, segments_chainNamespace, List.flatMap_cons, segments_rootName, List.flatMap_assoc]
  simp only [partsOf, flatMap_segments_splitAt]

lemma home_ne_empty (root : String) (scope : List String) : home root scope ≠ "" := by
  intro h
  have hstarts := (placed_home root scope).proper.starts
  rw [h] at hstarts
  exact absurd hstarts (by decide)

/-- A node that was made since a session: a process, or a composer around a process that was made
since then. A composer around a node that was there already makes no node. -/
def Created (s t : Session) (i : Nat) (ns : String) : Prop :=
  s.nodes.size ≤ i ∧ (t.made? i = some (none, ns) ∨
    ∃ w n, s.nodes.size ≤ w ∧ t.made? w = some (none, n) ∧ t.made? i = some (some w, ns))

variable {i : Nat} {l : Launcher} {m : Session} {E : Post Stop}

variable {s t : Session}

lemma Created.exists_made {ns : String} (h : Created s t i ns) :
    ∃ around, t.made? i = some (around, ns) := by
  rcases h.2 with hprocess | ⟨w, -, -, -, hcomposer⟩
  · exact ⟨none, hprocess⟩
  · exact ⟨some w, hcomposer⟩

lemma Makes.created {place : String} (hplace : place ≠ "") (h : Makes place s t)
    {ns : String} (hi : Created s t i ns) : ns = place := by
  obtain ⟨hsize, hprocess | ⟨w, n, hw, hn, hcomposer⟩⟩ := hi
  · exact h.processes i ns hsize hprocess
  · obtain rfl := h.processes w n hw hn
    exact (h.composers i w ns hsize hcomposer).2 n hn hplace

/-! ## Where a script stands -/

namespace Session

def groupStack? (s : Session) : Option (List Nat) :=
  s.launcher.map Launcher.groupStack

def tip (s : Session) : Nat :=
  (s.launcher.map fun l => l.groupStack.getLastD l.rootGroup).getD 0

def composing? (s : Session) : Option Nat :=
  s.launcher.bind Launcher.composing

variable {s t : Session}

section

variable (h : t.core.launcher = s.core.launcher)
include h

lemma launcher_of_core (hl : s.launcher = some l) :
    ∃ l', t.launcher = some l' ∧ { l' with adapterRunning := false } =
      { l with adapterRunning := false } := by
  have hcore : t.launcher.map (fun l => { l with adapterRunning := false }) =
      some { l with adapterRunning := false } := by
    have hboth : t.launcher.map (fun l => { l with adapterRunning := false }) =
        s.launcher.map (fun l => { l with adapterRunning := false }) := h
    rw [hboth, hl]
    rfl
  exact Option.map_eq_some_iff.1 hcore

lemma groupStack?_of_core : t.groupStack? = s.groupStack? := by
  have hview (u : Session) : u.groupStack? = u.core.launcher.map Launcher.groupStack := by
    simp [groupStack?, core, Function.comp_def]
  rw [hview, hview, h]

lemma tip_of_core : t.tip = s.tip := by
  have hview (u : Session) :
      u.tip = (u.core.launcher.map fun l => l.groupStack.getLastD l.rootGroup).getD 0 := by
    simp [tip, core, Function.comp_def]
  rw [hview, hview, h]

lemma composing?_of_core : t.composing? = s.composing? := by
  have hview (u : Session) : u.composing? = u.core.launcher.bind Launcher.composing := by
    simp [composing?, core, Option.bind_map, Function.comp_def]
  rw [hview, hview, h]

end

lemma Within.grown {root : String} {scope : List String} (hs : s.Within root scope)
    (hgrows : Grows s t) {l' : Launcher} (hl : s.launcher = some l) (hl' : t.launcher = some l')
    (hroot : l'.rootGroup = l.rootGroup) (hstack : l'.groupStack = l.groupStack) :
    t.Within root scope := by
  obtain ⟨k, hk, houter, htip⟩ := hs.launcher
  obtain rfl : k = l := Option.mem_unique hk hl
  refine ⟨hgrows.tree hs.tree, l', hl', ?_, ?_⟩
  · rw [hroot]
    exact houter.extended hgrows.extended
  · rw [hroot, hstack]
    exact htip.extended hgrows.extended

end Session

structure Settles (s t : Session) : Prop where
  launcher : t.core.launcher = s.core.launcher
  grows : Grows s t

lemma Makes.settles {place : String} (h : Makes place s t) : Settles s t :=
  ⟨h.launcher, h.grows⟩

lemma Settles.refl (s : Session) : Settles s s :=
  ⟨rfl, .of_fields rfl rfl⟩

lemma Settles.trans (h : Settles s m) (h' : Settles m t) : Settles s t :=
  ⟨h'.launcher.trans h.launcher, h.grows.trans h'.grows⟩

lemma Session.Within.settled {root : String} {scope : List String}
    (hs : s.Within root scope) (h : Settles s t) : t.Within root scope := by
  obtain ⟨l, hl, -⟩ := hs.launcher
  obtain ⟨l', hl', heq⟩ := Session.launcher_of_core h.launcher hl
  have hroot := congrArg Launcher.rootGroup heq
  have hstack := congrArg Launcher.groupStack heq
  exact hs.grown h.grows hl hl' hroot hstack

/-! ## Nodes in groups -/

section Houses

variable {s : Session} {place : String}

def putNode (groups : Array Group) (g i : Nat) : Array Group :=
  groups.modify g fun k => if k.nodes.contains i then k else { k with nodes := k.nodes ++ [i] }

lemma map_shape_putNode (groups : Array Group) (g i : Nat) :
    (putNode groups g i).map Group.shape = groups.map Group.shape := by
  refine map_modify_of_eq groups g fun k => ?_
  split <;> rfl

/-- Nodes were made, and one may have been put into the group that the script stands in. -/
structure Houses (place : String) (put : Option Nat) (s t : Session) : Prop extends
    Makes place s t where
  groups : t.groups = put.elim s.groups (putNode s.groups s.tip)
  known : ∀ i ∈ put, i < t.nodes.size

lemma Founds.houses {t : Session} (h : Founds place s t) :
    Houses place none s t :=
  ⟨h.toMakes, h.groups, by simp⟩

lemma Houses.followed {put : Option Nat} {t : Session} (h : Houses place put s m)
    (h' : Founds place m t) : Houses place put s t :=
  ⟨h.toMakes.trans h'.toMakes, h'.groups.trans h.groups, fun i hi => (h.known i hi).trans_le h'.size⟩

lemma Houses.continued {α β : Type} {put : Option Nat} (h : Houses place put s m) {x : Launch α}
    (hx : Keeps (Founds place) x) {f : α → Launch β} {Q : Post β}
    (hf : ∀ a t, Houses place put s t → Yields (f a) t Q (fun _ t => ∃ put, Houses place put s t)) :
    Yields (x >>= f) m Q (fun _ t => ∃ put, Houses place put s t) :=
  (hx m).seq (fun a t ht => hf a t (h.followed ht)) fun _ _ ht => ⟨put, h.followed ht⟩

lemma Founds.put (h : Founds place s m) (hi : i < m.nodes.size) :
    Houses place (some i) s { m with groups := putNode m.groups s.tip i } := by
  refine ⟨⟨h.terminal, h.launcher, ?_, h.size, h.kept, h.processes, h.composers⟩, ?_, ?_⟩
  · exact (map_shape_putNode m.groups s.tip i).trans h.shapes
  · rw [h.groups, Option.elim_some]
  · simpa using hi

end Houses

namespace Launch

variable {s : Session} {root : String} {scope : List String}

lemma run_getLauncher (hl : s.launcher = some l) : getLauncher.run s = .ok l s := by
  obtain ⟨k, t, hrun, rfl, rfl⟩ := (yields_getLauncher_of (E := fun _ _ => False) hl).exists_ok
  exact hrun

lemma yields_groupTip (hs : s.Within root scope) :
    Yields groupTip s
      (fun g t => t = s ∧ g = s.tip ∧ groupNamespace s.groups g = home root scope) E := by
  obtain ⟨l, hl, -, htip⟩ := hs.launcher
  refine (yields_getLauncher_of hl).exactly ?_
  exact .pure ⟨rfl, by rw [Session.tip, hl]; rfl, htip.groupNamespace_eq⟩

lemma yields_namespaceOf (g : Nat) :
    Yields (namespaceOf g) s (fun ns t => t = s ∧ ns = groupNamespace s.groups g) E :=
  .of_bind (.get (.pure ⟨rfl, rfl⟩))

lemma yields_atPlace {α : Type} {f : Value → Nat → String → Launch α} (hs : s.Within root scope)
    {name anonymous hidden : Value} {default : Launch String} (hdefault : Keeps Stays default)
    {Q : Post α} (hE : ∀ e t, Founds (home root scope) s t → E e t)
    (hf : ∀ v m, Founds (home root scope) s m → Yields (f v s.tip (home root scope)) m Q E) :
    Yields (do
      let name ← chooseName name default anonymous hidden
      let group ← groupTip
      let ns ← namespaceOf group
      f name group ns) s Q E := by
  refine (keeps_chooseName name hdefault anonymous hidden).followed (refl_of Stays s)
    (fun v m hm => ?_) fun e t ht => hE e t ht.founds
  have hfounds : Founds (home root scope) s m := hm.founds
  have hplace : m.Within root scope := hs.settled hfounds.settles
  refine (yields_groupTip hplace).bind ?_
  rintro g m ⟨rfl, rfl, hg⟩
  refine (yields_namespaceOf _).bind ?_
  rintro ns m ⟨rfl, rfl⟩
  rw [hg, Session.tip_of_core hm.launcher]
  exact hf v m hfounds

lemma houses_node (hs : s.Within root scope) (args : Bound) :
    Yields (node args) s
      (fun i t => Houses (home root scope) (some i) s t ∧ s.nodes.size ≤ i)
      (fun _ t => ∃ put, Houses (home root scope) put s t) := by
  obtain ⟨l, hl, -⟩ := hs.launcher
  refine (yields_getLauncher_of hl).exactly ?_
  refine Yields.ite ?_ (yields_atPlace hs (keeps_display.bind fun _ => keeps_display.bind fun _ =>
    .pure) (fun _ _ ht => ⟨none, ht.houses⟩) fun name m hm => ?_)
  · exact .of_bind ((yields_throw _).2
      ⟨none, (refl_of (Founds (home root scope)) s).houses⟩)
  have hsize := hm.size
  refine (((founds_newProcessNode _ (home_ne_empty root scope)).then hm).and (known_newProcessNode _
    _ m)).seq (fun i m hm => ?_) fun _ _ ht => ⟨none, ht.1.houses⟩
  obtain ⟨hm, rfl, hknown⟩ := hm
  refine .of_bind (.modify ?_)
  refine Yields.ite ?_ (.pure ⟨hm.put hknown, hsize⟩)
  refine (hm.put hknown).continued (stays_startProcess _).founds fun _ m hm => ?_
  exact hm.continued keeps_awaitStage fun _ m hm => .pure ⟨hm, hsize⟩

lemma makes_node (hs : s.Within root scope) (args : Bound) :
    EndsIn (node args) s (Makes (home root scope) s) :=
  (houses_node hs args).imp (fun _ _ ht => ht.1.toMakes) fun _ _ ⟨_, ht⟩ => ht.toMakes

structure Composes (root : String) (scope : List String) (s : Session) (i : Nat) (t : Session) :
    Prop where
  free : s.composing? = none
  made : ∃ m, Houses (home root scope) (some i) s m ∧ t.groups = m.groups ∧ t.nodes = m.nodes ∧
    t.launcher = m.launcher.map fun l => { l with composing := some i }

lemma houses_compose (hs : s.Within root scope) (args : Bound) :
    Yields (compose args) s (fun i t => Composes root scope s i t)
      (fun _ t => ∃ put, Houses (home root scope) put s t) := by
  obtain ⟨l, hl, -⟩ := hs.launcher
  refine (yields_getLauncher_of hl).exactly ?_
  refine Yields.ite_of (fun _ => ?_) fun hnone => ?_
  · exact .of_bind ((yields_throw _).2
      ⟨none, (refl_of (Founds (home root scope)) s).houses⟩)
  have hfree : s.composing? = none := by
    simpa [Session.composing?, hl] using hnone
  refine yields_atPlace hs .pure (fun _ _ ht => ⟨none, ht.houses⟩) fun name m hm => ?_
  refine (founds_reusedNode args l _ name).followed hm (fun found m hm => ?_)
    fun _ _ ht => ⟨none, ht.houses⟩
  have entered (base : Nat) {m : Session} (hm : Founds (home root scope) s m) :
      Yields (do
        let composer ← composerAround args base
        addNode s.tip composer
        if (args.get "autostart_process").truthy then
          startComposer composer (args.get "ros_waittime")
        modifyLauncher fun l => { l with composing := some composer }
        return composer) m (fun i t => Composes root scope s i t)
          (fun _ t => ∃ put, Houses (home root scope) put s t) := by
    refine (((founds_composerAround args base).then hm).and (known_composerAround args base m)).seq
      (fun i m hm => ?_) fun _ _ ht => ⟨none, ht.1.houses⟩
    refine .of_bind (.modify ?_)
    have hput := hm.1.put hm.2
    refine Yields.ite ?_ (.of_bind (.modify (.pure ⟨hfree, _, hput, rfl, rfl, rfl⟩)))
    refine hput.continued (stays_startComposer i _).founds fun _ t ht => ?_
    exact .of_bind (.modify (.pure ⟨hfree, t, ht, rfl, rfl, rfl⟩))
  cases found with
  | some i => exact .of_bind (.pure (entered i hm))
  | none =>
    refine (founds_newContainer args (home_ne_empty root scope) name).followed hm
      (fun i m hm => entered i hm) fun _ _ ht => ⟨none, ht.houses⟩

lemma yields_compose (hs : s.Within root scope) (args : Bound) :
    Yields (compose args) s (fun i t => Composes root scope s i t)
      (fun _ t => Makes (home root scope) s t) :=
  (houses_compose hs args).imp (fun _ _ ht => ht) fun _ _ ⟨_, ht⟩ => ht.toMakes

/-! ## The beginning -/

/-- The namespace of the outermost group, which is the root if none is given. -/
def rootText : Value → String
  | .str root => root
  | _ => "/"

lemma yields_rootNamespace (root : Value) (s : Session) :
    IfOk (rootNamespace root) s (fun text t => t = s ∧ text = rootText root) := by
  unfold rootNamespace
  split
  · exact .pure ⟨rfl, rfl⟩
  · unfold textOf
    split
    · exact .pure ⟨rfl, rfl⟩
    · exact .throw trivial

lemma stays_hello : Keeps Stays hello := by
  refine stays_logDir.bind fun dir => keeps_get.bind fun s => keeps_get.bind fun s => ?_
  refine keeps_lift.bind fun name => keeps_write.bind fun _ => ?_
  exact keeps_getLauncher.bind fun _ => keeps_critical

structure Begins (root : String) (s t : Session) : Prop where
  groups : t.groups = s.groups.push { parent := none, ns := rootName root }
  launcher : ∃ l, t.launcher = some l ∧ l.rootGroup = s.groups.size ∧ l.groupStack = [s.groups.size]

lemma begins_begin (name launchArgs root : Value) :
    IfOk (begin name launchArgs root) s (fun _ t => Begins (rootText root) s t) := by
  have called : Keeps Stays (launcherName name) := by
    refine keeps_get.bind fun s => ?_
    split
    · exact .pure
    · exact .pure
    · exact keeps_silent
  have taken : Keeps Stays (takeLaunchArgs launchArgs) := by
    unfold takeLaunchArgs
    split
    · exact .pure
    · exact keeps_modify fun _ => .of_fields rfl rfl rfl rfl
  refine called.along (refl_of Stays s) fun name m hm => ?_
  refine (stays_useLogger name).along hm fun _ m hm => ?_
  refine taken.along hm fun _ m hm => ?_
  refine (yields_rootNamespace root m).bind ?_
  rintro _ m ⟨rfl, rfl⟩
  simp only [newGroup, newPromise, yields_bind, yields_get, yields_set, yields_pure, yields_modify]
  refine (stays_hello _).map fun _ t ht => ?_
  obtain ⟨l, hl, heq⟩ := Session.launcher_of_core ht.launcher rfl
  refine ⟨by rw [ht.groups, hm.groups]; rfl, l, hl, ?_, ?_⟩
  · exact (congrArg Launcher.rootGroup heq).trans (congrArg Array.size hm.groups)
  · refine (congrArg Launcher.groupStack heq).trans ?_
    rw [← hm.groups]

lemma yields_begin (htree : GroupTree s.groups) (name launchArgs root : Value) :
    IfOk (begin name launchArgs root) s (fun _ t => t.Within (rootText root) []) := by
  refine (begins_begin name launchArgs root).map fun _ t ht => ?_
  obtain ⟨l, hl, hroot, hstack⟩ := ht.launcher
  have hreached : Reached t.groups [rootName (rootText root)] s.groups.size := by
    rw [ht.groups]
    exact .root Array.getElem?_push_size rfl
  refine ⟨ht.groups ▸ groupTree_push htree rfl, l, hl, hroot ▸ hreached, ?_⟩
  rw [hroot, hstack]
  exact hreached

end Launch

end Launchpad
