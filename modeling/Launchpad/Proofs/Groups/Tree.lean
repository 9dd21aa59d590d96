import Launchpad.Proofs.Groups.Namespace
import Launchpad.Proofs.Supervision.Scene

/-!
The tree of groups. Groups are only ever added: the way from the root to a group stays what it was
when the group was made, so that its namespace never changes.
-/

namespace Launchpad

open List

/-- A group is reached from a root by the groups with the given parts of a namespace. -/
inductive Reached (groups : Array Group) : List String → Nat → Prop where
  | root {i : Nat} {g : Group} (hg : groups[i]? = some g) (hparent : g.parent = none) :
      Reached groups [g.ns] i
  | child {p i : Nat} {g : Group} {names : List String} (hp : Reached groups names p) (hlt : p < i)
      (hg : groups[i]? = some g) (hparent : g.parent = some p) :
      Reached groups (names ++ [g.ns]) i

/-- The children that a group knows of are those that are under it. -/
def GroupTree (groups : Array Group) : Prop :=
  ∀ (i : Nat) (g : Group), groups[i]? = some g → ∀ part c, (part, c) ∈ g.children →
    i < c ∧ ∃ h, groups[c]? = some h ∧ h.parent = some i ∧ h.ns = part

def Extended (groups more : Array Group) : Prop :=
  ∀ (i : Nat) (g : Group), groups[i]? = some g →
    ∃ h, more[i]? = some h ∧ h.parent = g.parent ∧ h.ns = g.ns

lemma Extended.refl (groups : Array Group) : Extended groups groups :=
  fun _ g hg => ⟨g, hg, rfl, rfl⟩

lemma Extended.trans {groups more most : Array Group} (h : Extended groups more)
    (h' : Extended more most) : Extended groups most := by
  intro i g hg
  obtain ⟨k, hk, hparent, hns⟩ := h i g hg
  obtain ⟨m, hm, hparent', hns'⟩ := h' i k hk
  exact ⟨m, hm, hparent'.trans hparent, hns'.trans hns⟩

lemma extended_push (groups : Array Group) (g : Group) : Extended groups (groups.push g) := by
  intro i h hh
  refine ⟨h, ?_, rfl, rfl⟩
  obtain ⟨hlt, -⟩ := Array.getElem?_eq_some_iff.1 hh
  rw [Array.getElem?_push_lt hlt, ← hh, Array.getElem?_eq_getElem hlt]

lemma extended_modify (groups : Array Group) (i : Nat) {f : Group → Group}
    (hf : ∀ g, (f g).parent = g.parent ∧ (f g).ns = g.ns) : Extended groups (groups.modify i f) := by
  intro j g hg
  rw [Array.getElem?_modify, hg]
  split
  · exact ⟨f g, rfl, hf g⟩
  · exact ⟨g, rfl, rfl, rfl⟩

namespace Reached

variable {groups more : Array Group} {names : List String} {i : Nat}

variable (h : Reached groups names i)
include h

lemma extended (hmore : Extended groups more) : Reached more names i := by
  induction h with
  | root hg hparent =>
    obtain ⟨g', hg', hparent', hns⟩ := hmore _ _ hg
    rw [← hns]
    exact .root hg' (hparent'.trans hparent)
  | child _ hlt hg hparent ih =>
    obtain ⟨g', hg', hparent', hns⟩ := hmore _ _ hg
    rw [← hns]
    exact .child ih hlt hg' (hparent'.trans hparent)

lemma exists_group : ∃ g, groups[i]? = some g := by
  cases h with
  | root hg => exact ⟨_, hg⟩
  | child _ _ hg => exact ⟨_, hg⟩

lemma map_groupChain {bound : Nat} (hbound : i ≤ bound) :
    (groupChain groups bound i).map (fun j => (groups[j]?.map Group.ns).getD "") = names := by
  induction h generalizing bound with
  | @root i g hg hparent =>
    obtain ⟨parent, ns, children, nodes⟩ := g
    obtain rfl : parent = none := hparent
    cases bound with
    | zero => simp [groupChain, hg]
    | succ bound => simp [groupChain, hg]
  | @child p i g names _ hlt hg hparent ih =>
    obtain ⟨parent, ns, children, nodes⟩ := g
    obtain rfl : parent = some p := hparent
    obtain ⟨bound, rfl⟩ : ∃ n, bound = n + 1 := ⟨bound - 1, by omega⟩
    have hle : p ≤ bound := by omega
    have hchain := ih hle
    simp only [groupChain, hg, map_append, hchain, map_cons, map_nil,
      Option.map_some, Option.getD_some]

lemma groupNamespace_eq : groupNamespace groups i = chainNamespace names := by
  obtain ⟨g, hg⟩ := h.exists_group
  obtain ⟨hlt, -⟩ := Array.getElem?_eq_some_iff.1 hg
  have hchain := h.map_groupChain (Nat.le_of_lt hlt)
  rw [groupNamespace, chainNamespace, ← hchain, map_map]
  rfl

end Reached

namespace Launch

variable {s : Session} {E : Post Stop}
variable {groups : Array Group} {g : Group} {i : Nat}

lemma groupTree_push (h : GroupTree groups) (hg : g.children = []) : GroupTree (groups.push g) := by
  intro i k hk part c hc
  rw [Array.getElem?_push] at hk
  split at hk
  · obtain rfl : g = k := Option.some.inj hk
    rw [hg] at hc
    cases hc
  · obtain ⟨hlt, m, hm, hparent, hns⟩ := h i k hk part c hc
    obtain ⟨m', hm', hparent', hns'⟩ := extended_push groups g c m hm
    exact ⟨hlt, m', hm', hparent'.trans hparent, hns'.trans hns⟩

lemma groupTree_addChild (h : GroupTree groups) {c : Nat} {k : Group} (hc : groups[c]? = some k)
    (hparent : k.parent = some i) (hlt : i < c) :
    GroupTree (groups.modify i fun g => { g with children := g.children ++ [(k.ns, c)] }) := by
  have hextended : Extended groups (groups.modify i fun g =>
      { g with children := g.children ++ [(k.ns, c)] }) := extended_modify groups i fun g => ⟨rfl, rfl⟩
  have known {j : Nat} {part : String} {d : Nat}
      (hd : j < d ∧ ∃ m, groups[d]? = some m ∧ m.parent = some j ∧ m.ns = part) :
      j < d ∧ ∃ m, (groups.modify i fun g =>
        { g with children := g.children ++ [(k.ns, c)] })[d]? = some m ∧
          m.parent = some j ∧ m.ns = part := by
    obtain ⟨hjd, m, hm, hmparent, hmns⟩ := hd
    obtain ⟨m', hm', hparent', hns'⟩ := hextended d m hm
    exact ⟨hjd, m', hm', hparent'.trans hmparent, hns'.trans hmns⟩
  intro j g hg part d hd
  rw [Array.getElem?_modify] at hg
  split at hg
  · next hij =>
    obtain rfl := hij
    obtain ⟨g', hg', rfl⟩ := Option.map_eq_some_iff.1 hg
    rcases mem_append.1 hd with hd | hd
    · exact known (h i g' hg' part d hd)
    · obtain ⟨rfl, rfl⟩ := Prod.mk.inj (mem_singleton.1 hd)
      exact known ⟨hlt, k, hc, hparent, rfl⟩
  · exact known (h j g hg part d hd)

def addGroup (groups : Array Group) (i : Nat) (part : String) : Array Group :=
  (groups.push { parent := some i, ns := part }).modify i fun g =>
    { g with children := g.children ++ [(part, groups.size)] }

lemma yields_childFor_of (hg : s.groups[i]? = some g) (part : String) :
    Yields (childFor i part) s (fun c t => (g.children.lookup part = some c ∧ t = s) ∨
      (g.children.lookup part = none ∧ c = s.groups.size ∧
        t = { s with groups := addGroup s.groups i part })) E := by
  refine (yields_getGroup_of hg).exactly ?_
  cases hlookup : g.children.lookup part with
  | some c => exact .pure (.inl ⟨rfl, rfl⟩)
  | none =>
    -- The new group is made first, and then made known to its parent.
    let k : Group := { parent := some i, ns := part }
    obtain ⟨hlt, -⟩ := Array.getElem?_eq_some_iff.1 hg
    have hold : (s.groups.push k)[i]? = some g := by
      rw [Array.getElem?_push_lt hlt, ← hg, Array.getElem?_eq_getElem hlt]
    have hnew : (s.groups.push k)[s.groups.size]? = some k := Array.getElem?_push_size
    have made : Yields (newGroup (some i) part) s
        (fun c t => c = s.groups.size ∧ t = { s with groups := s.groups.push k }) E :=
      .of_bind (.get (.of_bind ((yields_set _).2
        (.pure ⟨rfl, rfl⟩))))
    refine made.exactly ?_
    refine .of_bind ((yields_getGroup_of hold).exactly ?_)
    refine (yields_getGroup_of hnew).exactly ?_
    rw [if_neg (by simp [k, hlookup])]
    exact .modify (.pure (.inr ⟨rfl, rfl, rfl⟩))

lemma extended_addGroup (groups : Array Group) (i : Nat) (part : String) :
    Extended groups (addGroup groups i part) :=
  (extended_push _ _).trans (extended_modify _ i fun _ => ⟨rfl, rfl⟩)

lemma groupTree_addGroup (h : GroupTree groups) (hlt : i < groups.size) (part : String) :
    GroupTree (addGroup groups i part) :=
  groupTree_addChild (k := { parent := some i, ns := part }) (groupTree_push h rfl)
    Array.getElem?_push_size rfl hlt

lemma getElem?_addGroup_size (hlt : i < groups.size) (part : String) :
    (addGroup groups i part)[groups.size]? = some { parent := some i, ns := part } := by
  rw [addGroup, Array.getElem?_modify, if_neg (Nat.ne_of_lt hlt), Array.getElem?_push_size]

structure HasChild (s : Session) (i : Nat) (part : String) (c : Nat) (t : Session) : Prop where
  launcher : t.launcher = s.launcher
  nodes : t.nodes = s.nodes
  tree : GroupTree t.groups
  extended : Extended s.groups t.groups
  lt : i < c
  child : ∃ h, t.groups[c]? = some h ∧ h.parent = some i ∧ h.ns = part

lemma yields_childFor (htree : GroupTree s.groups) (hg : s.groups[i]? = some g) (part : String) :
    Yields (childFor i part) s (fun c t => HasChild s i part c t) E := by
  refine (yields_childFor_of hg part).map ?_
  rintro c t (⟨hlookup, rfl⟩ | ⟨-, rfl, rfl⟩)
  · obtain ⟨before, later, hchildren, -⟩ := lookup_eq_some_iff.1 hlookup
    have hmem : (part, c) ∈ g.children := by simp [hchildren]
    obtain ⟨hlt, hchild⟩ := htree i g hg part c hmem
    exact ⟨rfl, rfl, htree, .refl _, hlt, hchild⟩
  · obtain ⟨hlt, -⟩ := Array.getElem?_eq_some_iff.1 hg
    exact ⟨rfl, rfl, groupTree_addGroup htree hlt part, extended_addGroup _ i part, hlt,
      _, getElem?_addGroup_size hlt part, rfl, rfl⟩

end Launch

/-! ## Where a script stands -/

/-- The enclosing namespaces that count, from the outermost one on: what stands before one with a
leading slash does not. -/
def inForce : List String → List String
  | [] => []
  | ns :: scope => if scope.any (Text.startsWith · "/") then inForce scope else ns :: scope

/-- The groups on the way from the root that a namespace stands for. -/
def partsOf (ns : String) : List String :=
  Text.splitAt (Text.trimBy (· == '/') ns) '/'

def rootName (root : String) : String :=
  "/" ++ Text.trimBy (· == '/') root

lemma inForce_append (scope : List String) (ns : String) :
    inForce (scope ++ [ns]) =
      if Text.startsWith ns "/" then [ns] else inForce scope ++ [ns] := by
  induction scope with
  | nil => simp [inForce]
  | cons outer scope ih =>
    rw [cons_append, inForce, inForce, any_append, ih]
    by_cases habsolute : Text.startsWith ns "/"
    · simp [habsolute]
    · by_cases hscope : scope.any (Text.startsWith · "/")
      · simp [habsolute, hscope]
      · simp [habsolute, hscope]

/-- The script stands in groups with the given namespaces, one in the other. -/
structure Session.Within (s : Session) (root : String) (scope : List String) : Prop where
  tree : GroupTree s.groups
  launcher : ∃ l, s.launcher = some l ∧ Reached s.groups [rootName root] l.rootGroup ∧
    Reached s.groups (rootName root :: (inForce scope).flatMap partsOf)
      (l.groupStack.getLastD l.rootGroup)

namespace Launch

variable {s : Session} {E : Post Stop}

structure Descends (s : Session) (l : Launcher) (names : List String) (tip : Nat) (t : Session) :
    Prop where
  launcher : ∃ stack, t.launcher = some { l with groupStack := stack } ∧
    stack.getLastD l.rootGroup = tip
  nodes : t.nodes = s.nodes
  tree : GroupTree t.groups
  extended : Extended s.groups t.groups
  reached : Reached t.groups names tip

abbrev enterChild (tip : Nat) (part : String) : Launch Nat := do
  let c ← childFor tip part
  modifyLauncher fun l => { l with groupStack := l.groupStack ++ [c] }
  return c

lemma descends_foldlM {l : Launcher} {names : List String} {tip : Nat} {m : Session}
    (h : Descends s l names tip m) (parts : List String) :
    Yields (parts.foldlM enterChild tip) m (fun tip t => Descends s l (names ++ parts) tip t) E := by
  induction parts generalizing names tip m with
  | nil =>
    rw [append_nil]
    exact .pure h
  | cons part parts ih =>
    obtain ⟨g, hg⟩ := h.reached.exists_group
    refine .of_bind ((yields_childFor h.tree hg part).bind fun c t ht => ?_)
    refine .of_bind (.modify (.pure ?_))
    have hnext : Descends s l (names ++ [part]) c { t with
        launcher := t.launcher.map fun l => { l with groupStack := l.groupStack ++ [c] } } := by
      obtain ⟨stack, hm, -⟩ := h.launcher
      obtain ⟨k, hk, hparent, hns⟩ := ht.child
      refine ⟨⟨stack ++ [c], ?_, by simp⟩, ht.nodes.trans h.nodes, ht.tree,
        h.extended.trans ht.extended, ?_⟩
      · rw [ht.launcher, hm]
        rfl
      · rw [← hns]
        exact .child (h.reached.extended ht.extended) ht.lt hk hparent
    have hrest := ih hnext
    rw [append_assoc] at hrest
    exact hrest

lemma yields_enterGroup {root : String} {scope : List String} (hs : s.Within root scope)
    {l : Launcher} (hl : s.launcher = some l) (hfree : l.composing = none) (ns : String) :
    Yields (enterGroup (.str ns)) s (fun _ t => t.Within root (scope ++ [ns]) ∧
      (∃ stack, t.launcher = some { l with groupStack := stack }) ∧
      Extended s.groups t.groups ∧ t.nodes = s.nodes) E := by
  obtain ⟨l', hl', hroot, htip⟩ := hs.launcher
  obtain rfl : l' = l := Option.mem_unique hl' hl
  have enters {names : List String} {tip : Nat} {m : Session} (hm : Descends s l' names tip m)
      (hnames : names ++ partsOf ns =
        rootName root :: (inForce (scope ++ [ns])).flatMap partsOf) :
      Yields (do (partsOf ns).foldlM enterChild (← groupTip)) m (fun _ t => t.Within root (scope ++ [ns]) ∧
            (∃ stack, t.launcher = some { l' with groupStack := stack }) ∧
            Extended s.groups t.groups ∧ t.nodes = s.nodes) E := by
    obtain ⟨stack, hlauncher, hlast⟩ := hm.launcher
    refine .of_bind ((yields_getLauncher_of hlauncher).exactly ?_)
    refine .pure ?_
    rw [hlast]
    refine (descends_foldlM hm (partsOf ns)).map fun tip t ht => ?_
    obtain ⟨stack, hlauncher, hlast⟩ := ht.launcher
    refine ⟨⟨ht.tree, ⟨_, hlauncher, hroot.extended ht.extended, ?_⟩⟩, ⟨stack, hlauncher⟩,
      ht.extended, ht.nodes⟩
    rw [← hnames, hlast]
    exact ht.reached
  refine (yields_getLauncher_of hl).bind ?_
  rintro l s ⟨rfl, rfl⟩
  rw [if_neg (by simp [hfree])]
  refine .of_bind (.pure ?_)
  split
  · next habsolute =>
    -- The way begins at the root again.
    have hm : Descends s l [rootName root] l.rootGroup { s with
        launcher := s.launcher.map fun l => { l with groupStack := [l.rootGroup] } } := by
      refine ⟨⟨[l.rootGroup], ?_, rfl⟩, rfl, hs.tree, .refl _, hroot⟩
      rw [hl]
      rfl
    refine .of_bind (.modify (enters hm ?_))
    rw [inForce_append, if_pos habsolute, flatMap_singleton, singleton_append]
  · next hrelative =>
    have hm : Descends s l (rootName root :: (inForce scope).flatMap partsOf)
        (l.groupStack.getLastD l.rootGroup) s :=
      ⟨⟨l.groupStack, hl, rfl⟩, rfl, hs.tree, .refl _, htip⟩
    refine enters hm ?_
    rw [inForce_append, if_neg hrelative, flatMap_append, flatMap_singleton,
      cons_append]

end Launch

end Launchpad
