import Launchpad.Proofs.Groups.Place
import Mathlib.Data.List.Induction

/-!
The growth of the tree of groups. Once a launch has begun, groups are added under other groups and
nodes are put into groups, one at a time and in no other way. Each group knows those under it in the
order in which they were made, by different parts of a namespace, so that the parts on the way from the
outermost group tell a group from all others.
-/

namespace Launchpad

open List Option

open Launch

variable {stack : List Nat} {s t : Session}

/-! ## Trees that grow -/

/-- Groups came about from others: groups with parts that satisfy `P` were added, and nodes, of which
there are `n`, were put into groups. -/
inductive Grown (P : String → Prop) (n : Nat) (groups : Array Group) : Array Group → Prop
  | refl : Grown P n groups groups
  | group {more : Array Group} {i : Nat} {g : Group} {part : String} : Grown P n groups more →
      more[i]? = some g → g.children.lookup part = none → '/' ∉ part.toList → P part →
      Grown P n groups (addGroup more i part)
  | node {more : Array Group} {j : Nat} (i : Nat) : Grown P n groups more → j < n →
      Grown P n groups (putNode more i j)

structure Rooted (P : String → Prop) (root : String) (n : Nat) (groups : Array Group) : Prop where
  root : ∃ g, groups[0]? = some g ∧ g.parent = none ∧ g.ns = rootName root
  tree : GroupTree groups
  parent : ∀ (i : Nat) (g : Group), groups[i]? = some g → i ≠ 0 → ('/' ∉ g.ns.toList ∧ P g.ns) ∧
    ∃ p k, g.parent = some p ∧ groups[p]? = some k ∧ (g.ns, i) ∈ k.children
  parts : ∀ (i : Nat) (g : Group), groups[i]? = some g → (g.children.map Prod.fst).Nodup
  order : ∀ (i : Nat) (g : Group), groups[i]? = some g → (g.children.map Prod.snd).Pairwise (· < ·)
  nodes : ∀ (i : Nat) (g : Group), groups[i]? = some g → ∀ j ∈ g.nodes, j < n

variable {P : String → Prop} {root : String} {n : Nat} {groups more : Array Group}

lemma getElem?_addGroup {i : Nat} (hlt : i < groups.size) (part : String) (k : Nat) :
    (addGroup groups i part)[k]? = if k = groups.size then some { parent := some i, ns := part }
      else groups[k]?.map fun g =>
        if k = i then { g with children := g.children ++ [(part, groups.size)] } else g := by
  by_cases hk : k = groups.size
  · rw [hk, getElem?_addGroup_size hlt, if_pos rfl]
  · rw [addGroup, Array.getElem?_modify, Array.getElem?_push, if_neg hk]
    by_cases hi : i = k
    · simp [hi, hk]
    · simp [hi, Ne.symm hi, hk]

lemma getElem?_putNode (i j k : Nat) : (putNode groups i j)[k]? = groups[k]?.map fun g =>
    if k = i ∧ j ∉ g.nodes then { g with nodes := g.nodes ++ [j] } else g := by
  rw [putNode, Array.getElem?_modify]
  by_cases hi : i = k
  · rw [if_pos hi]
    refine congrArg (Option.map · groups[k]?) (funext fun g => ?_)
    by_cases hj : j ∈ g.nodes <;> simp [hi, hj]
  · rw [if_neg hi]
    simp [Ne.symm hi]

lemma size_addGroup (groups : Array Group) (i : Nat) (part : String) :
    (addGroup groups i part).size = groups.size + 1 := by
  simp [addGroup]

variable {g : Group} {part : String}

section

variable (h : Rooted P root n groups)
include h

lemma Rooted.addGroup {i : Nat} (hg : groups[i]? = some g)
    (hnew : g.children.lookup part = none) (hslash : '/' ∉ part.toList) (hpart : P part) :
    Rooted P root n (Launch.addGroup groups i part) := by
  obtain ⟨hlt, -⟩ := Array.getElem?_eq_some_iff.1 hg
  have hget := getElem?_addGroup hlt part
  have known {k : Nat} {m : Group} (hm : groups[k]? = some m) :
      (Launch.addGroup groups i part)[k]? = some
        (if k = i then { m with children := m.children ++ [(part, groups.size)] } else m) := by
    obtain ⟨hk, -⟩ := Array.getElem?_eq_some_iff.1 hm
    rw [hget, if_neg (Nat.ne_of_lt hk), hm, map_some]
  -- What holds of a group holds of the new one, and of the others with their children.
  have cases {Q : Nat → Group → Prop} (hlast : Q groups.size { parent := some i, ns := part })
      (hmore : Q i { g with children := g.children ++ [(part, groups.size)] })
      (hold : ∀ k m, groups[k]? = some m → Q k m) :
      ∀ (k : Nat) (m : Group), (Launch.addGroup groups i part)[k]? = some m → Q k m := by
    intro k m hm
    rw [hget] at hm
    split at hm
    · next hk =>
      obtain rfl := some.inj hm
      exact hk ▸ hlast
    · obtain ⟨m', hm', rfl⟩ := map_eq_some_iff.1 hm
      split
      · next hk =>
        subst hk
        obtain rfl := mem_unique hm' hg
        exact hmore
      · exact hold k m' hm'
  have hchildren : ∀ x ∈ g.children, x.1 ≠ part ∧ x.2 < groups.size := by
    intro x hx
    obtain ⟨-, m, hm, -⟩ := h.tree i g hg x.1 x.2 hx
    refine ⟨fun hx1 => ?_, (Array.getElem?_eq_some_iff.1 hm).1⟩
    exact absurd (lookup_eq_none_iff.1 hnew x hx) (by simp [hx1])
  refine ⟨?_, groupTree_addGroup h.tree hlt part, ?_, ?_, ?_, ?_⟩
  · obtain ⟨k, hk, hparent, hns⟩ := h.root
    refine ⟨_, known hk, ?_, ?_⟩ <;> split <;> assumption
  · have kept {k : Nat} {m : Group} (hm : groups[k]? = some m) (hk : k ≠ 0) :
        ('/' ∉ m.ns.toList ∧ P m.ns) ∧ ∃ p l, m.parent = some p ∧
          (Launch.addGroup groups i part)[p]? = some l ∧ (m.ns, k) ∈ l.children := by
      obtain ⟨hns, p, l, hp, hl, hmem⟩ := h.parent k m hm hk
      refine ⟨hns, p, _, hp, known hl, ?_⟩
      split
      · exact mem_append_left _ hmem
      · exact hmem
    refine cases (fun _ => ⟨⟨hslash, hpart⟩, i, _, rfl, known hg, ?_⟩) (fun hi => ?_)
      fun k m hm hk => kept hm hk
    · simp
    · exact kept (k := i) (m := g) hg hi
  · refine cases nodup_nil ?_ h.parts
    rw [map_append, nodup_append]
    refine ⟨h.parts i g hg, nodup_singleton _, ?_⟩
    rintro a ha b hb rfl
    obtain ⟨x, hx, rfl⟩ := mem_map.1 ha
    exact (hchildren x hx).1 (by simpa using hb)
  · refine cases List.Pairwise.nil ?_ h.order
    rw [map_append, pairwise_append]
    refine ⟨h.order i g hg, pairwise_singleton _ _, ?_⟩
    intro a ha b hb
    obtain ⟨x, hx, rfl⟩ := mem_map.1 ha
    obtain rfl : b = groups.size := by simpa using hb
    exact (hchildren x hx).2
  · exact cases (fun _ hj => absurd hj not_mem_nil) (h.nodes i g hg) h.nodes

lemma Rooted.putNode {j : Nat} (i : Nat) (hj : j < n) :
    Rooted P root n (Launchpad.putNode groups i j) := by
  have hshapes := map_shape_putNode groups i j
  have shaped {k : Nat} {m : Group} (hm : (Launchpad.putNode groups i j)[k]? = some m) :
      ∃ m', groups[k]? = some m' ∧ m.parent = m'.parent ∧ m.ns = m'.ns ∧
        m.children = m'.children ∧ ∀ x ∈ m.nodes, x ∈ m'.nodes ∨ x = j := by
    rw [getElem?_putNode] at hm
    obtain ⟨m', hm', rfl⟩ := map_eq_some_iff.1 hm
    refine ⟨m', hm', ?_⟩
    split
    · exact ⟨rfl, rfl, rfl, by simp⟩
    · exact ⟨rfl, rfl, rfl, fun x hx => .inl hx⟩
  have known {k : Nat} {m : Group} (hm : groups[k]? = some m) :
      ∃ m', (Launchpad.putNode groups i j)[k]? = some m' ∧ m'.parent = m.parent ∧ m'.ns = m.ns ∧
        m'.children = m.children := by
    refine ⟨_, by rw [getElem?_putNode, hm, map_some], ?_⟩
    split <;> exact ⟨rfl, rfl, rfl⟩
  refine ⟨?_, groupTree_of_shapes hshapes h.tree, fun k m hm hk => ?_, fun k m hm => ?_,
    fun k m hm => ?_, fun k m hm x hx => ?_⟩
  · obtain ⟨g, hg, hparent, hns⟩ := h.root
    obtain ⟨m, hm, hparent', hns', -⟩ := known hg
    exact ⟨m, hm, hparent'.trans hparent, hns'.trans hns⟩
  all_goals obtain ⟨m', hm', hparent, hns, hchildren, hnodes⟩ := shaped hm
  · obtain ⟨hfit, p, l, hp, hl, hmem⟩ := h.parent k m' hm' hk
    obtain ⟨l', hl', -, -, hchildren'⟩ := known hl
    rw [hns]
    exact ⟨hfit, p, l', hparent.trans hp, hl', hchildren' ▸ hmem⟩
  · rw [hchildren]
    exact h.parts k m' hm'
  · rw [hchildren]
    exact h.order k m' hm'
  · rcases hnodes x hx with hx | rfl
    · exact h.nodes k m' hm' x hx
    · exact hj

lemma Rooted.mono {m : Nat} (hm : n ≤ m) : Rooted P root m groups :=
  { h with nodes := fun i g hg j hj => (h.nodes i g hg j hj).trans_le hm }

lemma Rooted.weaken {Q : String → Prop} (hQ : ∀ part, P part → Q part) :
    Rooted Q root n groups :=
  { h with parent := fun i g hg hi => ((h.parent i g hg hi).imp_left (And.imp_right (hQ g.ns))) }

lemma Rooted.grown (hgrown : Grown P n groups more) : Rooted P root n more := by
  induction hgrown with
  | refl => exact h
  | group _ hg hnew hslash hpart ih => exact ih.addGroup hg hnew hslash hpart
  | node i _ hj ih => exact ih.putNode i hj

end

section

variable (h : Grown P n groups more)
include h

lemma Grown.size_le : groups.size ≤ more.size := by
  induction h with
  | refl => exact le_rfl
  | group _ _ _ _ _ ih =>
    rw [size_addGroup]
    exact ih.trans (Nat.le_succ _)
  | node i _ _ ih => simpa [putNode] using ih

lemma Grown.extended : Extended groups more := by
  induction h with
  | refl => exact .refl _
  | group _ _ _ _ _ ih => exact ih.trans (extended_addGroup _ _ _)
  | node i _ _ ih => exact ih.trans (extended_of_shapes (map_shape_putNode _ i _))

lemma Grown.trans {most : Array Group} (h' : Grown P n more most) : Grown P n groups most := by
  induction h' with
  | refl => exact h
  | group _ hg hnew hslash hpart ih => exact ih.group hg hnew hslash hpart
  | node i _ hj ih => exact ih.node i hj

lemma Grown.mono {m : Nat} (hm : n ≤ m) : Grown P m groups more := by
  induction h with
  | refl => exact .refl
  | group _ hg hnew hslash hpart ih => exact ih.group hg hnew hslash hpart
  | node i _ hj ih => exact ih.node i (hj.trans_le hm)

end

/-! ## Ways from the root -/

namespace Reached

variable {names : List String} {i : Nat}

lemma ne_nil (h : Reached groups names i) : names ≠ [] := by
  cases h <;> simp

lemma of_concat (h : Reached groups (names ++ [part]) i) (hnames : names ≠ []) :
    ∃ p g, Reached groups names p ∧ groups[i]? = some g ∧ g.parent = some p ∧ g.ns = part := by
  generalize hall : names ++ [part] = all at h
  cases h with
  | root hg hparent => exact absurd (append_eq_singleton_iff.1 hall) (by simp [hnames])
  | @child p _ g _ hp _ hg hparent =>
    obtain ⟨rfl, hpart⟩ := append_inj' hall rfl
    exact ⟨p, g, hp, hg, hparent, (singleton_inj.1 hpart).symm⟩

lemma of_append {more : List String} (h : Reached groups (names ++ more) i) (hnames : names ≠ []) :
    ∃ j, Reached groups names j := by
  induction more using List.reverseRecOn generalizing i with
  | nil => exact ⟨i, by rwa [append_nil] at h⟩
  | append_singleton more part ih =>
    rw [← append_assoc] at h
    obtain ⟨p, -, hp, -⟩ := h.of_concat (by simp [hnames])
    exact ih hp

end Reached

namespace Rooted

variable {names : List String} {i : Nat}

variable (h : Rooted P root n groups)
include h

lemma eq_zero (hg : groups[i]? = some g) (hparent : g.parent = none) : i = 0 := by
  by_contra hi
  obtain ⟨-, p, -, hp, -⟩ := h.parent i g hg hi
  rw [hparent] at hp
  cases hp

lemma mem_children {c p : Nat} {k : Group} (hg : groups[p]? = some g) (hk : groups[c]? = some k)
    (hparent : k.parent = some p) : (k.ns, c) ∈ g.children := by
  have hc : c ≠ 0 := by
    rintro rfl
    obtain ⟨r, hr, hnone, -⟩ := h.root
    obtain rfl := mem_unique hr hk
    rw [hnone] at hparent
    cases hparent
  obtain ⟨-, q, m, hq, hm, hmem⟩ := h.parent c k hk hc
  obtain rfl := mem_unique hq hparent
  obtain rfl := mem_unique hm hg
  exact hmem

lemma reached_inj (hi : Reached groups names i) {j : Nat} (hj : Reached groups names j) :
    i = j := by
  induction hi generalizing j with
  | root hg hparent =>
    generalize hall : [_] = all at hj
    cases hj with
    | root hg' hparent' => exact (h.eq_zero hg hparent).trans (h.eq_zero hg' hparent').symm
    | child hp => exact absurd (append_eq_singleton_iff.1 hall.symm) (by simp [hp.ne_nil])
  | @child p i g names hp hlt hg hparent ih =>
    obtain ⟨q, k, hq, hk, hkparent, hns⟩ := hj.of_concat hp.ne_nil
    obtain rfl := ih hq
    obtain ⟨m, hm⟩ := hp.exists_group
    have hi := h.mem_children hm hg hparent
    have hj := h.mem_children hm hk hkparent
    rw [hns] at hj
    have hinj := inj_on_of_nodup_map (h.parts p m hm) hi hj rfl
    exact (Prod.mk.inj hinj).2

lemma lookup_eq_some_iff (hi : Reached groups names i) (hg : groups[i]? = some g) {c : Nat} :
    g.children.lookup part = some c ↔ Reached groups (names ++ [part]) c := by
  have reached {c : Nat} (hmem : (part, c) ∈ g.children) : Reached groups (names ++ [part]) c := by
    obtain ⟨hlt, k, hk, hparent, rfl⟩ := h.tree i g hg part c hmem
    exact .child hi hlt hk hparent
  have mem {c : Nat} (hc : g.children.lookup part = some c) : (part, c) ∈ g.children := by
    obtain ⟨before, later, hchildren, -⟩ := List.lookup_eq_some_iff.1 hc
    simp [hchildren]
  refine ⟨fun hc => reached (mem hc), fun hc => ?_⟩
  obtain ⟨p, k, hp, hk, hparent, rfl⟩ := hc.of_concat hi.ne_nil
  obtain rfl := h.reached_inj hp hi
  cases hlookup : g.children.lookup k.ns with
  | none =>
    exact absurd (lookup_eq_none_iff.1 hlookup _ (h.mem_children hg hk hparent)) (by simp)
  | some d => rw [h.reached_inj hc (reached (mem hlookup))]

lemma exists_reached (hi : i < groups.size) :
    ∃ labels, Reached groups (rootName root :: labels) i ∧
      ∀ label ∈ labels, '/' ∉ label.toList ∧ P label := by
  induction i using Nat.strong_induction_on with
  | h i ih =>
    by_cases hzero : i = 0
    · subst hzero
      obtain ⟨g, hg, hparent, hns⟩ := h.root
      exact ⟨[], hns ▸ .root hg hparent, by simp⟩
    · have hg := Array.getElem?_eq_getElem hi
      obtain ⟨hfit, p, k, hp, hk, hmem⟩ := h.parent i _ hg hzero
      obtain ⟨hlt, -⟩ := h.tree p k hk _ _ hmem
      obtain ⟨labels, hlabels, hall⟩ := ih p hlt (hlt.trans hi)
      refine ⟨labels ++ [groups[i].ns], .child hlabels hlt hg hp, ?_⟩
      intro label hlabel
      rcases mem_append.1 hlabel with hlabel | hlabel
      · exact hall label hlabel
      · rwa [mem_singleton.1 hlabel]

end Rooted

/-! ## Sessions with a tree -/

/-- A stack of groups begins with the outermost one. -/
def Trail (groups : Array Group) (stack : List Nat) : Prop :=
  stack.head? = some 0 ∧ ∀ g ∈ stack, g < groups.size

lemma Trail.mono (h : Trail groups stack) (hle : groups.size ≤ more.size) : Trail more stack :=
  ⟨h.1, fun g hg => (h.2 g hg).trans_le hle⟩

/-- The groups are a tree, in which the script stands. -/
structure Grounded (P : String → Prop) (root : String) (s : Session) : Prop where
  rooted : Rooted P root s.nodes.size s.groups
  launcher : ∃ l, s.launcher = some l ∧ l.rootGroup = 0 ∧ Trail s.groups l.groupStack

structure Develops (P : String → Prop) (s t : Session) : Prop where
  grown : Grown P t.nodes.size s.groups t.groups
  nodes : s.nodes.size ≤ t.nodes.size

lemma Develops.trans {m : Session} (h : Develops P s m) (h' : Develops P m t) : Develops P s t :=
  ⟨(h.grown.mono h'.nodes).trans h'.grown, h.nodes.trans h'.nodes⟩

lemma Grounded.developed (hs : Grounded P root s) (h : Develops P s t) {l : Launcher}
    (hl : t.launcher = some l) (hroot : l.rootGroup = 0) (hstack : Trail t.groups l.groupStack) :
    Grounded P root t :=
  ⟨(hs.rooted.mono h.nodes).grown h.grown, l, hl, hroot, hstack⟩

lemma Grounded.settled (hs : Grounded P root s) (h : Develops P s t)
    (hlauncher : t.core.launcher = s.core.launcher) : Grounded P root t := by
  obtain ⟨l, hl, hroot, hstack⟩ := hs.launcher
  obtain ⟨l', hl', heq⟩ := Session.launcher_of_core hlauncher hl
  have hroot' := congrArg Launcher.rootGroup heq
  have hstack' := congrArg Launcher.groupStack heq
  refine hs.developed h hl' (hroot'.trans hroot) ?_
  rw [show l'.groupStack = _ from hstack']
  exact hstack.mono h.grown.size_le

lemma Grounded.restacked (hs : Grounded P root s) (stack : Launcher → List Nat)
    (h : ∀ l, s.launcher = some l → l.rootGroup = 0 → Trail s.groups l.groupStack → Trail s.groups
      (stack l)) :
    Grounded P root { s with
      launcher := s.launcher.map fun l => { l with groupStack := stack l } } := by
  obtain ⟨l, hl, hroot, hstack⟩ := hs.launcher
  refine ⟨hs.rooted, { l with groupStack := stack l }, ?_, hroot, h l hl hroot hstack⟩
  rw [hl]
  rfl

lemma Trail.zero_lt (h : Trail groups stack) : 0 < groups.size :=
  h.2 0 (mem_of_mem_head? h.1)

lemma Trail.concat (h : Trail groups stack) {c : Nat} (hc : c < groups.size) :
    Trail groups (stack ++ [c]) := by
  obtain ⟨hhead, hall⟩ := h
  refine ⟨?_, by simpa [or_imp, forall_and, hc] using hall⟩
  cases stack with
  | nil => cases hhead
  | cons a as => exact hhead

lemma Trail.exists_tip (h : Trail groups stack) (d : Nat) :
    stack.headD d = 0 ∧ stack.getLastD d < groups.size := by
  obtain ⟨hhead, hall⟩ := h
  cases stack with
  | nil => cases hhead
  | cons a as =>
    refine ⟨some.inj hhead, hall _ ?_⟩
    cases as with
    | nil => exact mem_cons_self
    | cons b bs =>
      exact mem_cons_of_mem _ (getLast_mem _)

lemma Houses.develops {place : String} {put : Option Nat} (h : Houses place put s t) :
    Develops P s t := by
  refine ⟨?_, h.size⟩
  rw [h.groups]
  cases put with
  | none => exact .refl
  | some i => exact Grown.refl.node _ (h.known i rfl)

/-- Something else has happened, and it has left groups alone. -/
structure Elsewhere (s t : Session) : Prop where
  groups : t.groups = s.groups
  nodes : s.nodes.size ≤ t.nodes.size
  launcher : ∀ l, s.launcher = some l → ∃ k, t.launcher = some k ∧ k.rootGroup = l.rootGroup ∧
    k.groupStack = l.groupStack

lemma Elsewhere.develops (h : Elsewhere s t) : Develops P s t :=
  ⟨h.groups ▸ .refl, h.nodes⟩

lemma Grounded.elsewhere (hs : Grounded P root s) (h : Elsewhere s t) : Grounded P root t := by
  obtain ⟨l, hl, hroot, hstack⟩ := hs.launcher
  obtain ⟨k, hk, hroot', hstack'⟩ := h.launcher l hl
  refine hs.developed h.develops hk (hroot'.trans hroot) ?_
  rwa [h.groups, hstack']

lemma flatMap_partsOf_inForce {labels : List String} (h : ∀ label ∈ labels, '/' ∉ label.toList) :
    (inForce labels).flatMap partsOf = labels := by
  have hstarts : ∀ label ∈ labels, Text.startsWith label "/" = false := by
    intro label hlabel
    have hmem := h label hlabel
    unfold Text.startsWith
    cases hcs : label.toList with
    | nil => rfl
    | cons c cs =>
      rw [hcs] at hmem
      simp [List.isPrefixOf, ne_of_not_mem_cons hmem]
  have hall : inForce labels = labels := by
    cases labels with
    | nil => rfl
    | cons label labels =>
      rw [inForce, if_neg]
      simpa using fun x hx => hstarts x (mem_cons_of_mem _ hx)
  have hparts : ∀ label ∈ labels, partsOf label = [label] := by
    intro label hlabel
    have hne {c : Char} (hc : c ∈ label.toList) : (c == '/') = false :=
      beq_false_of_ne fun heq => h label hlabel (heq ▸ hc)
    have htrim : Text.trimBy (· == '/') label = label := by
      rw [Text.trimBy_surrounded (a := []) (b := []) (m := label.toList) (by simp) (by simp)
        (by simp) (fun c hc => hne (mem_of_head? hc)) fun c hc => hne (mem_of_getLast? hc),
        String.ofList_toList]
    rw [partsOf, htrim, Text.splitAt_of_not_mem (h label hlabel)]
  rw [hall]
  clear hall hstarts h
  induction labels with
  | nil => rfl
  | cons label labels ih =>
    rw [flatMap_cons, hparts label mem_cons_self,
      ih fun l hl => hparts l (mem_cons_of_mem _ hl)]
    rfl

lemma Grounded.exists_within (hs : Grounded P root s) : ∃ scope, s.Within root scope := by
  obtain ⟨l, hl, hroot, hstack⟩ := hs.launcher
  obtain ⟨labels, hlabels, hall⟩ := hs.rooted.exists_reached (hstack.exists_tip l.rootGroup).2
  refine ⟨labels, hs.rooted.tree, l, hl, ?_, ?_⟩
  · obtain ⟨g, hg, hparent, hns⟩ := hs.rooted.root
    rw [hroot, ← hns]
    exact .root hg hparent
  · rwa [flatMap_partsOf_inForce fun label hlabel => (hall label hlabel).1]

namespace Launch

variable {s : Session} {E : Post Stop}
variable {t : Session} {contexts : List Context}

def Sprouts (P : String → Prop) (s t : Session) : Prop :=
  Grown P s.nodes.size s.groups t.groups ∧ t = { s with groups := t.groups }

lemma Sprouts.develops (h : Sprouts P s t) : Develops P s t := by
  rw [h.2]
  exact ⟨h.1, le_rfl⟩

lemma Sprouts.grounded (h : Sprouts P s t) (hs : Grounded P root s) : Grounded P root t := by
  refine hs.settled h.develops ?_
  rw [h.2]
  rfl

lemma sprouts_childFor (htree : GroupTree s.groups) {i : Nat} (hg : s.groups[i]? = some g)
    (hslash : '/' ∉ part.toList) (hpart : P part) :
    Yields (childFor i part) s (fun c t => Sprouts P s t ∧ c < t.groups.size) E := by
  refine (yields_childFor_of hg part).map ?_
  rintro c t (⟨hlookup, rfl⟩ | ⟨hnone, rfl, rfl⟩)
  · obtain ⟨before, later, hchildren, -⟩ := List.lookup_eq_some_iff.1 hlookup
    obtain ⟨-, k, hk, -⟩ := htree i g hg part c (by simp [hchildren])
    exact ⟨⟨.refl, rfl⟩, (Array.getElem?_eq_some_iff.1 hk).1⟩
  · refine ⟨⟨Grown.refl.group hg hnone hslash hpart, rfl⟩, ?_⟩
    rw [size_addGroup]
    exact Nat.lt_succ_self _

lemma slash_not_mem_partsOf {ns : String} (h : part ∈ partsOf ns) : '/' ∉ part.toList :=
  Text.not_mem_of_mem_splitAt h

lemma develops_foldlM {parts : List String} (hparts : ∀ part ∈ parts, '/' ∉ part.toList ∧ P part)
    {m : Session} (hm : Grounded P root m) {tip : Nat} (htip : tip < m.groups.size) :
    Yields (parts.foldlM enterChild tip) m (fun _ t => Grounded P root t ∧ Develops P m t) E := by
  induction parts generalizing m tip with
  | nil => exact .pure ⟨hm, .refl, le_rfl⟩
  | cons part parts ih =>
    obtain ⟨⟨hslash, hpart⟩, hparts⟩ := forall_mem_cons.1 hparts
    refine .of_bind ((sprouts_childFor hm.rooted.tree
      (Array.getElem?_eq_getElem htip) hslash hpart).bind fun c t ht => ?_)
    obtain ⟨ht, hc⟩ := ht
    refine .of_bind (.modify (.pure ?_))
    have hgrounded := (ht.grounded hm).restacked (fun l => l.groupStack ++ [c])
      fun l _ _ hstack => hstack.concat hc
    refine (ih hparts hgrounded hc).map fun _ u hu => ⟨hu.1, ?_⟩
    exact ht.develops.trans ⟨hu.2.grown, hu.2.nodes⟩

lemma develops_enterGroup (hs : Grounded P root s) {ns : String}
    (hparts : ∀ part ∈ partsOf ns, P part) :
    Yields (enterGroup (.str ns)) s (fun _ t => Grounded P root t ∧ Develops P s t)
      (fun _ t => t = s) := by
  obtain ⟨l, hl, hroot, hstack⟩ := hs.launcher
  have enters {m : Session} (hm : Grounded P root m) (hgroups : m.groups = s.groups)
      (hnodes : m.nodes = s.nodes) :
      Yields (do (partsOf ns).foldlM enterChild (← groupTip)) m
        (fun _ t => Grounded P root t ∧ Develops P s t) (fun _ t => t = s) := by
    obtain ⟨k, hk, -, hstack⟩ := hm.launcher
    refine .of_bind ((yields_getLauncher_of hk).exactly ?_)
    refine .pure ((develops_foldlM (fun part hpart =>
      ⟨slash_not_mem_partsOf hpart, hparts part hpart⟩) hm (hstack.exists_tip _).2).map ?_)
    rintro _ t ⟨ht, hdevelops⟩
    exact ⟨ht, hgroups ▸ hdevelops.grown, hnodes ▸ hdevelops.nodes⟩
  refine (yields_getLauncher_of hl).exactly ?_
  refine Yields.ite (.of_bind (.throw rfl)) ?_
  refine Yields.ite (.of_bind (.modify (enters ?_ rfl rfl))) (enters hs rfl rfl)
  refine hs.restacked (fun l => [l.rootGroup]) fun l _ hroot hstack => ?_
  rw [hroot]
  exact ⟨rfl, by simpa using hstack.zero_lt⟩

/-- What a search for a group comes to: the group with the given names, which was made if it was not
there and that was asked for. -/
def Found (s : Session) (names : List String) (create : Bool) (t : Session) : Option Nat → Prop
  | some j => Reached t.groups names j ∧
    (create = false ∨ (∃ i, Reached s.groups names i) → t = s)
  | none => create = false ∧ t = s ∧ ∀ i, ¬ Reached s.groups names i

lemma found_findGroupFrom {create : Bool} {parts names : List String} {i : Nat}
    (hs : Rooted P root s.nodes.size s.groups) (hi : Reached s.groups names i)
    (hslash : ∀ part ∈ parts, '/' ∉ part.toList) (hparts : create = true → ∀ part ∈ parts, P part) :
    Yields (findGroupFrom create parts i) s
      (fun r t => Sprouts P s t ∧ Found s (names ++ parts) create t r) E := by
  induction parts generalizing s names i with
  | nil =>
    rw [append_nil]
    exact .pure ⟨⟨.refl, rfl⟩, hi, fun _ => rfl⟩
  | cons part parts ih =>
    obtain ⟨g, hg⟩ := hi.exists_group
    have hnext {c : Nat} : g.children.lookup part = some c ↔ Reached s.groups (names ++ [part]) c :=
      hs.lookup_eq_some_iff hi hg
    rw [append_cons]
    refine (yields_getGroup_of hg).exactly ?_
    cases hlookup : g.children.lookup part with
    | some c =>
      exact ih hs (hnext.1 hlookup) (fun p hp => hslash p (mem_cons_of_mem _ hp))
        fun h p hp => hparts h p (mem_cons_of_mem _ hp)
    | none =>
      have hnone : ∀ j, ¬ Reached s.groups (names ++ [part] ++ parts) j := by
        intro j hj
        obtain ⟨c, hc⟩ := hj.of_append (by simp)
        rw [hnext.2 hc] at hlookup
        cases hlookup
      cases create with
      | false => exact .pure ⟨⟨.refl, rfl⟩, rfl, rfl, hnone⟩
      | true =>
        refine (yields_childFor_of hg part).bind ?_
        rintro c t (⟨hsome, -⟩ | ⟨-, rfl, rfl⟩)
        · rw [hlookup] at hsome
          cases hsome
        · obtain ⟨hlt, -⟩ := Array.getElem?_eq_some_iff.1 hg
          have hpart := hslash part mem_cons_self
          have hfits := hparts rfl part mem_cons_self
          have hreached : Reached (addGroup s.groups i part) (names ++ [part]) s.groups.size :=
            .child (hi.extended (extended_addGroup _ i part)) hlt (getElem?_addGroup_size hlt part) rfl
          refine (ih (s := { s with groups := addGroup s.groups i part })
            (hs.addGroup hg hlookup hpart hfits) hreached
            (fun p hp => hslash p (mem_cons_of_mem _ hp))
            fun h p hp => hparts h p (mem_cons_of_mem _ hp)).map ?_
          rintro r t ⟨⟨hgrown, ht⟩, hfound⟩
          refine ⟨⟨(Grown.refl.group hg hlookup hpart hfits).trans hgrown, by rw [ht]⟩, ?_⟩
          cases r with
          | none => cases hfound.1
          | some j =>
            refine ⟨hfound.1, ?_⟩
            rintro (h | ⟨j, hj⟩)
            · cases h
            · exact absurd hj (hnone j)

/-- The groups that a text leads through from the outermost one. -/
def wayTo (text : String) : List String :=
  if text = "" ∨ text = "/" then [] else Text.splitAt text '/'

lemma found_findGroup (hs : Grounded P root s) (text : String) (create : Bool)
    (hparts : create = true → ∀ part ∈ wayTo text, P part) :
    Yields (findGroup (.str text) create) s (fun v t => Sprouts P s t ∧
      ∃ r, v = r.elim .null (.ref ∘ .group) ∧
        Found s (rootName root :: wayTo text) create t r) E := by
  obtain ⟨l, hl, hroot, hstack⟩ := hs.launcher
  have hreached : Reached s.groups [rootName root] 0 := by
    obtain ⟨g, hg, hparent, hns⟩ := hs.rooted.root
    exact hns ▸ .root hg hparent
  refine .of_bind ((yields_getLauncher_of hl).exactly ?_)
  refine .pure ?_
  rw [(hstack.exists_tip _).1]
  have hroot : (!(Value.str text).truthy || Value.str text == .str "/") = true ↔
      text = "" ∨ text = "/" := by
    have hslash : (Value.str text == .str "/") = (text == "/") := by
      change Value.same _ _ = _
      rw [Value.same]
    simp [Value.truthy, hslash]
  refine Yields.ite_of (fun h => ?_) fun h => ?_
  · rw [wayTo, if_pos (hroot.1 h)]
    exact .pure ⟨⟨.refl, rfl⟩, some 0, rfl, hreached, fun _ => rfl⟩
  · rw [wayTo, if_neg (mt hroot.2 h)] at hparts ⊢
    refine .of_bind (.pure ((found_findGroupFrom hs.rooted hreached (fun _ =>
      Text.not_mem_of_mem_splitAt) hparts).bind ?_))
    rintro r t ⟨hsprouts, hfound⟩
    cases r with
    | none => exact .pure ⟨hsprouts, none, rfl, hfound⟩
    | some j => exact .pure ⟨hsprouts, some j, rfl, hfound⟩

lemma yields_findGroup_other (hs : Grounded P root s) {ns : Value} (hns : ∀ text, ns ≠ .str text)
    (create : Bool) : EndsIn (findGroup ns create) s (fun t => t = s) := by
  obtain ⟨l, hl, -⟩ := hs.launcher
  refine .of_bind ((yields_getLauncher_of hl).exactly ?_)
  refine .pure (Yields.ite (.pure rfl) (.of_bind ?_))
  unfold textOf
  split
  · exact absurd rfl (hns _)
  · exact .throw rfl

/-! ## Runs -/

/-- What a launch function does to groups: it enters them and composers, leaves what it has entered
last, makes nodes, and looks for groups. -/
inductive Act where
  | enter (ns : String)
  | compose (args : Bound)
  | leave
  | node (args : Bound)
  | find (ns : Value) (create : Bool)

/-- The parts for which groups may be made. -/
def Act.labels : Act → List String
  | .enter ns => partsOf ns
  | .find (.str text) true => wayTo text
  | _ => []

/-- An act between the contexts that are open, and those that are open afterwards. -/
def Act.launch (contexts : List Context) : Act → Launch (List Context)
  | .enter ns => do
    let stack := (← getLauncher).groupStack
    let _ ← enterGroup (.str ns)
    return .group stack :: contexts
  | .compose args => do
    let _ ← Launch.compose args
    return .compose :: contexts
  | .leave => match contexts with
    | [] => pure []
    | c :: contexts => do
      Launch.leave c
      return contexts
  | .node args => do
    let _ ← Launch.node args
    return contexts
  | .find ns create => do
    let _ ← findGroup ns create
    return contexts

/-- The sessions, with the contexts that are open, that are reached by acts with parts that satisfy
`P`. An act that fails leaves the contexts as they are. -/
inductive Runs (P : String → Prop) (s₀ : Session) : List Context → Session → Prop
  | start : Runs P s₀ [] s₀
  | act {contexts : List Context} {s : Session} (a : Act) : Runs P s₀ contexts s →
      (∀ part ∈ a.labels, P part) →
      Runs P s₀ (((a.launch contexts).result? s).getD contexts) ((a.launch contexts).after s)
  | elsewhere {contexts : List Context} {s t : Session} : Runs P s₀ contexts s → Elsewhere s t →
      Runs P s₀ contexts t

/-- What is open, and the session, after some acts. -/
def Act.runAll (acts : List Act) (s : Session) : List Context × Session :=
  acts.foldl (fun (contexts, s) a =>
    (((a.launch contexts).result? s).getD contexts, (a.launch contexts).after s)) ([], s)

lemma runs_runAll {acts : List Act} (hparts : ∀ a ∈ acts, ∀ part ∈ a.labels, P part)
    (s : Session) : Runs P s (Act.runAll acts s).1 (Act.runAll acts s).2 := by
  have runs {x : List Context × Session} (hx : Runs P s x.1 x.2) :
      let y := acts.foldl (fun (contexts, s) a =>
        (((a.launch contexts).result? s).getD contexts, (a.launch contexts).after s)) x
      Runs P s y.1 y.2 := by
    induction acts generalizing x with
    | nil => exact hx
    | cons a acts ih =>
      obtain ⟨ha, hacts⟩ := forall_mem_cons.1 hparts
      exact ih hacts (hx.act a ha)
  exact runs .start

/-- All contexts lead back to where a script can stand. -/
def Homeward (contexts : List Context) (s : Session) : Prop :=
  ∀ stack, .group stack ∈ contexts → Trail s.groups stack

lemma Homeward.developed (h : Homeward contexts s) (ht : Develops P s t) : Homeward contexts t :=
  fun stack hstack => (h stack hstack).mono ht.grown.size_le

lemma Act.develops (a : Act) (hs : Grounded P root s) (hcontexts : Homeward contexts s)
    (hparts : ∀ part ∈ a.labels, P part) :
    Yields (a.launch contexts) s
      (fun c t => Grounded P root t ∧ Develops P s t ∧ Homeward c t)
      (fun _ t => Grounded P root t ∧ Develops P s t) := by
  have hrefl : Develops P s s := ⟨.refl, le_rfl⟩
  cases a with
  | enter ns =>
    obtain ⟨l, hl, -, hstack⟩ := hs.launcher
    refine (yields_getLauncher_of hl).exactly ?_
    refine (develops_enterGroup hs hparts).seq (fun _ t ht => ?_) ?_
    · refine .pure ⟨ht.1, ht.2, fun stack hmem => ?_⟩
      rcases mem_cons.1 hmem with heq | hmem
      · cases heq
        exact hstack.mono ht.2.grown.size_le
      · exact (hcontexts.developed ht.2) stack hmem
    · rintro _ _ rfl
      exact ⟨hs, hrefl⟩
  | compose args =>
    obtain ⟨scope, hwithin⟩ := hs.exists_within
    refine (houses_compose hwithin args).seq (fun i t ht => ?_) ?_
    · obtain ⟨m, hm, hgroups, hnodes, hlauncher⟩ := ht.made
      have hmt : Elsewhere m t := ⟨hgroups, hnodes ▸ le_rfl, fun l hl => ⟨{ l with composing := some i },
        by rw [hlauncher, hl]; rfl, rfl, rfl⟩⟩
      have hdevelops : Develops P s t := hm.develops.trans hmt.develops
      refine .pure ⟨(hs.settled hm.develops hm.launcher).elsewhere hmt, hdevelops,
        fun stack hmem => ?_⟩
      rcases mem_cons.1 hmem with heq | hmem
      · cases heq
      · exact (hcontexts.developed hdevelops) stack hmem
    · rintro _ t ⟨put, ht⟩
      exact ⟨hs.settled ht.develops ht.launcher, ht.develops⟩
  | leave =>
    cases contexts with
    | nil => exact .pure ⟨hs, hrefl, hcontexts⟩
    | cons c contexts =>
      have hrest : Homeward contexts s := fun stack hmem => hcontexts stack (mem_cons_of_mem _ hmem)
      refine .of_bind ?_
      cases c with
      | group stack =>
        refine .modify (.pure ⟨hs.restacked (fun _ => stack) fun _ _ _ _ => ?_, ⟨.refl, le_rfl⟩, hrest⟩)
        exact hcontexts stack mem_cons_self
      | compose =>
        refine .modify (.pure ⟨hs.elsewhere ⟨rfl, le_rfl, fun l hl => ?_⟩, ⟨.refl, le_rfl⟩, hrest⟩)
        exact ⟨{ l with composing := none }, by rw [hl]; rfl, rfl, rfl⟩
  | node args =>
    obtain ⟨scope, hwithin⟩ := hs.exists_within
    refine (houses_node hwithin args).seq (fun i t ht => ?_) ?_
    · have hdevelops : Develops P s t := ht.1.develops
      exact .pure ⟨hs.settled hdevelops ht.1.launcher, hdevelops, hcontexts.developed hdevelops⟩
    · rintro _ t ⟨put, ht⟩
      exact ⟨hs.settled ht.develops ht.launcher, ht.develops⟩
  | find ns create =>
    refine .of_bind ?_
    by_cases htext : ∃ text, ns = .str text
    · obtain ⟨text, rfl⟩ := htext
      have hway : create = true → ∀ part ∈ wayTo text, P part := by
        rintro rfl
        exact hparts
      refine (found_findGroup hs text create hway).map fun _ t ht => ?_
      exact .pure ⟨ht.1.grounded hs, ht.1.develops, hcontexts.developed ht.1.develops⟩
    · refine (yields_findGroup_other hs (fun text h => htext ⟨text, h⟩) create).imp ?_ ?_
      · rintro _ _ rfl
        exact .pure ⟨hs, hrefl, hcontexts⟩
      · rintro _ _ rfl
        exact ⟨hs, hrefl⟩

lemma Runs.grounded {s₀ : Session} (h₀ : Grounded P root s₀) (h : Runs P s₀ contexts s) :
    Grounded P root s ∧ Homeward contexts s := by
  induction h with
  | start => exact ⟨h₀, fun _ hmem => absurd hmem not_mem_nil⟩
  | @act contexts s a _ hparts ih =>
    have hdevelops := a.develops ih.1 ih.2 hparts
    unfold result?
    cases hrun : (a.launch contexts).run s with
    | ok c t =>
      rw [after_of_ok hrun]
      obtain ⟨ht, -, hc⟩ := yields_run_ok hdevelops hrun
      exact ⟨ht, hc⟩
    | error e t =>
      rw [after_of_error hrun]
      obtain ⟨ht, hst⟩ := yields_run_error hdevelops hrun
      exact ⟨ht, ih.2.developed hst⟩
  | elsewhere _ helse ih => exact ⟨ih.1.elsewhere helse, ih.2.developed (P := P) helse.develops⟩

lemma grounded_begin {s₀ : Session} (hfresh : s₀.groups = #[]) {name launchArgs rootArg : Value}
    (hbegin : (begin name launchArgs rootArg).run s₀ = .ok () s) :
    Grounded P (rootText rootArg) s := by
  obtain ⟨hgroups, l, hl, hroot, hstack⟩ :=
    yields_run_ok (begins_begin (s := s₀) name launchArgs rootArg) hbegin
  rw [hfresh] at hgroups hroot hstack
  have only {i : Nat} {g : Group} (hg : s.groups[i]? = some g) :
      i = 0 ∧ g = { parent := none, ns := rootName (rootText rootArg) } := by
    rw [hgroups] at hg
    cases i with
    | zero => exact ⟨rfl, (some.inj hg).symm⟩
    | succ i => cases hg
  refine ⟨⟨⟨_, by rw [hgroups]; rfl, rfl, rfl⟩, ?_, ?_, ?_, ?_, ?_⟩, l, hl, hroot, ?_⟩
  · intro i g hg part c hc
    obtain ⟨-, rfl⟩ := only hg
    cases hc
  · intro i g hg hi
    exact absurd (only hg).1 hi
  · intro i g hg
    obtain ⟨-, rfl⟩ := only hg
    exact nodup_nil
  · intro i g hg
    obtain ⟨-, rfl⟩ := only hg
    exact List.Pairwise.nil
  · intro i g hg j hj
    obtain ⟨-, rfl⟩ := only hg
    cases hj
  · rw [hstack, hgroups]
    exact ⟨rfl, by simp⟩

end Launch

end Launchpad
