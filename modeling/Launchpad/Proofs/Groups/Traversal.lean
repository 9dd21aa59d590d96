import Launchpad.Proofs.Groups.Blocks
import Launchpad.Proofs.Groups.Growth
import Mathlib.Data.List.Perm.Subperm

/-!
The order of groups and nodes. The groups of a tree are collected with a stack of groups that still
have to be looked at. What was collected has no group twice, each group behind the one it is under and
behind those that were made before it under the same one; and when the stack is empty, nothing is left
out.
-/

namespace Launchpad

open List Option

open Launch

variable {P : String → Prop} {root : String} {n : Nat} {groups more : Array Group}

def childrenOf (groups : Array Group) (i : Nat) : List Nat :=
  ((groups[i]?.map Group.children).getD []).map (·.2)

def parentOf (groups : Array Group) (i : Nat) : Option Nat :=
  groups[i]?.bind Group.parent

def nodesOf (groups : Array Group) (i : Nat) : List Nat :=
  (groups[i]?.map Group.nodes).getD []

/-- A group may stand before another one: it is not under it, and was made first if both are under the
same one. -/
def Precedes (groups : Array Group) (a b : Nat) : Prop :=
  parentOf groups a ≠ some b ∧ (parentOf groups a = parentOf groups b → a < b)

/-- All groups, each once, from the outermost one on. -/
structure Traverses (groups : Array Group) (all : List Nat) : Prop where
  root : all.head? = some 0
  nodup : all.Nodup
  complete : ∀ i, i ∈ all ↔ i < groups.size
  order : all.Pairwise (Precedes groups)

namespace Rooted

lemma mem_childrenOf_iff (h : Rooted P root n groups) {i c : Nat} :
    c ∈ childrenOf groups i ↔ parentOf groups c = some i := by
  constructor
  · intro hc
    obtain ⟨⟨part, c⟩, hmem, rfl⟩ := mem_map.1 hc
    cases hg : groups[i]? with
    | none => simp [hg] at hmem
    | some g =>
      rw [hg, map_some, getD_some] at hmem
      obtain ⟨-, k, hk, hparent, -⟩ := h.tree i g hg part c hmem
      rw [parentOf, hk, bind_some, hparent]
  · intro hc
    obtain ⟨k, hk, hparent⟩ := bind_eq_some_iff.1 hc
    have hzero : c ≠ 0 := by
      rintro rfl
      obtain ⟨r, hr, hnone, -⟩ := h.root
      obtain rfl := mem_unique hr hk
      rw [hnone] at hparent
      cases hparent
    obtain ⟨-, p, g, hp, hg, hmem⟩ := h.parent c k hk hzero
    obtain rfl := mem_unique hp hparent
    rw [childrenOf, hg]
    exact mem_map.2 ⟨(k.ns, c), hmem, rfl⟩

lemma pairwise_childrenOf (h : Rooted P root n groups) (i : Nat) :
    (childrenOf groups i).Pairwise (· < ·) := by
  unfold childrenOf
  cases hg : groups[i]? with
  | none => exact List.Pairwise.nil
  | some g => exact h.order i g hg

lemma parentOf_zero (h : Rooted P root n groups) : parentOf groups 0 = none := by
  obtain ⟨g, hg, hparent, -⟩ := h.root
  rw [parentOf, hg, bind_some, hparent]

end Rooted

/-! ## The stack of groups to look at -/

/-- The groups that were collected, and those of them whose groups were not. -/
structure Visits (groups : Array Group) (seen pending : List Nat) : Prop where
  nodup : seen.Nodup
  order : seen.Pairwise (Precedes groups)
  bound : ∀ i ∈ seen, i < groups.size
  distinct : pending.Nodup
  subset : pending ⊆ seen
  parents : ∀ i ∈ seen, i = 0 ∨ ∃ p ∈ seen, p ∉ pending ∧ parentOf groups i = some p
  children : ∀ i ∈ seen, i ∉ pending → childrenOf groups i ⊆ seen

namespace Visits

variable {seen pending : List Nat}

lemma not_mem_children (hv : Visits groups seen pending) (h : Rooted P root n groups) {i c : Nat}
    (hi : i ∈ pending) (hc : c ∈ childrenOf groups i) : c ∉ seen := by
  intro hseen
  rw [h.mem_childrenOf_iff] at hc
  rcases hv.parents c hseen with rfl | ⟨p, -, hp, hparent⟩
  · rw [h.parentOf_zero] at hc
    cases hc
  · obtain rfl := mem_unique hparent hc
    exact hp hi

lemma step (h : Rooted P root n groups) {i : Nat} (hv : Visits groups seen (i :: pending)) :
    Visits groups (seen ++ childrenOf groups i) ((childrenOf groups i).reverse ++ pending) := by
  have hfresh {c : Nat} (hc : c ∈ childrenOf groups i) : c ∉ seen :=
    hv.not_mem_children h mem_cons_self hc
  have hsorted := h.pairwise_childrenOf i
  have hnodup : (childrenOf groups i).Nodup := hsorted.imp Nat.ne_of_lt
  have hi : i ∈ seen := hv.subset mem_cons_self
  obtain ⟨hnot, hdistinct⟩ := nodup_cons.1 hv.distinct
  have hpending {p : Nat} (hp : p ∈ seen) :
      p ∉ (childrenOf groups i).reverse ++ pending ↔ p ∉ pending := by
    rw [mem_append, mem_reverse, not_or]
    exact ⟨And.right, fun hpend => ⟨fun hc => hfresh hc hp, hpend⟩⟩
  refine ⟨?_, ?_, ?_, ?_, ?_, ?_, ?_⟩
  · exact nodup_append.2 ⟨hv.nodup, hnodup, fun a ha b hb heq => hfresh (heq ▸ hb) ha⟩
  · refine pairwise_append.2 ⟨hv.order, ?_, fun a ha b hb => ?_⟩
    · refine hsorted.imp_of_mem fun {a b} ha hb hlt => ⟨fun hparent => ?_, fun _ => hlt⟩
      rw [h.mem_childrenOf_iff.1 ha] at hparent
      exact hfresh hb (some.inj hparent ▸ hi)
    · rw [Precedes, h.mem_childrenOf_iff.1 hb]
      rcases hv.parents a ha with rfl | ⟨p, hp, hpend, hparent⟩
      · rw [h.parentOf_zero]
        exact ⟨by simp, by simp⟩
      · rw [hparent]
        refine ⟨fun heq => hfresh hb (some.inj heq ▸ hp), fun heq => ?_⟩
        exact absurd mem_cons_self (some.inj heq ▸ hpend)
  · intro c hc
    rcases mem_append.1 hc with hc | hc
    · exact hv.bound c hc
    · obtain ⟨k, hk, -⟩ := bind_eq_some_iff.1 (h.mem_childrenOf_iff.1 hc)
      exact (Array.getElem?_eq_some_iff.1 hk).1
  · refine nodup_append.2 ⟨nodup_reverse.2 hnodup, hdistinct, fun a ha b hb heq => ?_⟩
    exact hfresh (mem_reverse.1 ha) (heq ▸ hv.subset (mem_cons_of_mem _ hb))
  · intro c hc
    rcases mem_append.1 hc with hc | hc
    · exact mem_append_right _ (mem_reverse.1 hc)
    · exact mem_append_left _ (hv.subset (mem_cons_of_mem _ hc))
  · intro c hc
    rcases mem_append.1 hc with hc | hc
    · refine (hv.parents c hc).imp id ?_
      rintro ⟨p, hp, hpend, hparent⟩
      refine ⟨p, mem_append_left _ hp, (hpending hp).2 ?_, hparent⟩
      exact fun hmem => hpend (mem_cons_of_mem _ hmem)
    · exact .inr ⟨i, mem_append_left _ hi, (hpending hi).2 hnot, h.mem_childrenOf_iff.1 hc⟩
  · intro c hc hpend
    rcases mem_append.1 hc with hc | hc
    · by_cases hci : c = i
      · exact hci ▸ subset_append_right _ _
      · have hpend' : c ∉ i :: pending := by
          simpa [hci] using (hpending hc).1 hpend
        exact fun d hd => mem_append_left _ (hv.children c hc hpend' hd)
    · exact absurd (mem_append_left _ (mem_reverse.2 hc)) hpend

lemma length_le (hv : Visits groups seen pending) : seen.length ≤ groups.size := by
  have hsub : seen ⊆ List.range groups.size := fun i hi => mem_range.2 (hv.bound i hi)
  simpa using (subperm_of_subset hv.nodup hsub).length_le

lemma collect (h : Rooted P root n groups) {fuel : Nat} (hv : Visits groups seen pending)
    (hfuel : groups.size + 1 + pending.length ≤ fuel + seen.length) :
    Visits groups (seen ++ collectGroups groups fuel pending) [] := by
  induction fuel generalizing seen pending with
  | zero =>
    have := hv.length_le
    omega
  | succ fuel ih =>
    cases pending with
    | nil =>
      rw [collectGroups, append_nil]
      exact hv
    | cons i pending =>
      rw [collectGroups, ← append_assoc]
      refine ih (hv.step h) ?_
      simp only [length_append, length_reverse, length_cons] at hfuel ⊢
      omega

lemma traverses (h : Rooted P root n groups) {all : List Nat} (hv : Visits groups (0 :: all) []) :
    Traverses groups (0 :: all) := by
  have hall (i : Nat) (hi : i < groups.size) : i ∈ 0 :: all := by
    induction i using Nat.strong_induction_on with
    | h i ih =>
      by_cases hzero : i = 0
      · exact hzero ▸ mem_cons_self
      · obtain ⟨-, p, k, hp, hk, hmem⟩ := h.parent i _ (Array.getElem?_eq_getElem hi) hzero
        obtain ⟨hlt, -⟩ := h.tree p k hk _ _ hmem
        refine hv.children p (ih p hlt (hlt.trans hi)) not_mem_nil (h.mem_childrenOf_iff.2 ?_)
        rw [parentOf, Array.getElem?_eq_getElem hi, bind_some, hp]
  exact ⟨rfl, hv.nodup, fun i => ⟨hv.bound i, hall i⟩, hv.order⟩

end Visits

lemma Rooted.traverses (h : Rooted P root n groups) :
    Traverses groups (0 :: collectGroups groups (groups.size + 1) [0]) := by
  obtain ⟨g, hg, -⟩ := h.root
  have hstart : Visits groups [0] [0] := by
    refine ⟨by simp, by simp, ?_, by simp, by simp, by simp, by simp⟩
    simpa using (Array.getElem?_eq_some_iff.1 hg).1
  exact (hstart.collect h (by simp)).traverses h

/-! ## Nodes -/

namespace Session

/-- A node, with the components of a composer behind it. -/
def withComponents (s : Session) (i : Nat) : List Nat :=
  match s.nodes[i]?.map Node.kind with
  | some (.composer c) => i :: c.components.map (·.2)
  | _ => [i]

end Session

lemma Grown.prefix_nodesOf (h : Grown P n groups more) (g : Nat) :
    nodesOf groups g <+: nodesOf more g := by
  induction h with
  | refl => exact prefix_rfl
  | @group more _ _ _ _ hi _ _ _ ih =>
    refine ih.trans ?_
    obtain ⟨hlt, -⟩ := Array.getElem?_eq_some_iff.1 hi
    rw [nodesOf, nodesOf, getElem?_addGroup hlt]
    split
    · next hg => simp [hg]
    · cases more[g]? with
      | none => exact prefix_rfl
      | some k =>
        split <;> exact prefix_rfl
  | @node more j i _ _ ih =>
    refine ih.trans ?_
    rw [nodesOf, nodesOf, getElem?_putNode]
    cases more[g]? with
    | none => exact prefix_rfl
    | some k =>
      simp only [map_some, getD_some]
      split
      · exact prefix_append _ _
      · exact prefix_rfl

lemma nodesOf_putNode {i j : Nat} (hi : i < groups.size) : nodesOf (putNode groups i j) i =
    if j ∈ nodesOf groups i then nodesOf groups i else nodesOf groups i ++ [j] := by
  have hg := Array.getElem?_eq_getElem hi
  rw [nodesOf, nodesOf, getElem?_putNode, hg]
  by_cases hj : j ∈ groups[i].nodes <;> simp [hj]

lemma Grounded.nodesOf_lt {s : Session} (hs : Grounded P root s) {g i : Nat}
    (hi : i ∈ nodesOf s.groups g) : i < s.nodes.size := by
  unfold nodesOf at hi
  cases hg : s.groups[g]? with
  | none => simp [hg] at hi
  | some k => exact hs.rooted.nodes g k hg i (by simpa [hg] using hi)

lemma Grounded.tip_lt {s : Session} (hs : Grounded P root s) : s.tip < s.groups.size := by
  obtain ⟨l, hl, -, hstack⟩ := hs.launcher
  rw [Session.tip, hl, map_some, getD_some]
  exact (hstack.exists_tip l.rootGroup).2

namespace Launch

variable {s : Session}

lemma run_mapM_of_ok {α β : Type} {f : β → Launch α} {r : β → α} {l : List β}
    (h : ∀ b ∈ l, (f b).run s = .ok (r b) s) : (l.mapM f).run s = .ok (l.map r) s := by
  induction l with
  | nil => rfl
  | cons b l ih =>
    obtain ⟨hb, hl⟩ := forall_mem_cons.1 h
    rw [mapM_cons, run_bind_of_ok hb, run_bind_of_ok (ih hl)]
    rfl

lemma run_getGroup {g : Nat} {k : Group} (h : s.groups[g]? = some k) :
    (getGroup g).run s = .ok k s := by
  obtain ⟨_, _, hrun, rfl, rfl⟩ := (yields_getGroup_of (E := fun _ _ => False) h).exists_ok
  exact hrun

lemma run_allGroups (hs : Grounded P root s) : ∃ all, allGroups.run s = .ok all s ∧
    Traverses s.groups all := by
  obtain ⟨l, hl, -, hstack⟩ := hs.launcher
  refine ⟨_, ?_, hs.rooted.traverses⟩
  have hroot : groupRoot.run s = .ok 0 s := by
    rw [groupRoot, run_bind_of_ok (run_getLauncher hl), (hstack.exists_tip l.rootGroup).1]
    rfl
  rw [allGroups, run_bind_of_ok hroot]
  rfl

lemma run_withComponents {i : Nat} (hi : i < s.nodes.size) :
    (do
      match (← getNode i).kind with
      | .composer _ => if true then return i :: (← managedComponents i) else return [i]
      | _ => return [i]).run s = .ok (s.withComponents i) s := by
  have hn := Array.getElem?_eq_getElem hi
  rw [run_bind_of_ok (run_getNode hn), Session.withComponents, hn, map_some]
  cases hkind : s.nodes[i].kind with
  | composer c =>
    have hmanaged : (managedComponents i).run s = .ok (c.components.map (·.2)) s := by
      have hcomposer : (getComposer i).run s = .ok c s := by
        rw [getComposer, run_bind_of_ok (run_getNode hn), hkind]
        rfl
      rw [managedComponents, run_bind_of_ok hcomposer]
      rfl
    rw [if_pos rfl, run_bind_of_ok hmanaged]
    rfl
  | _ => rfl

lemma run_allNodes (hs : Grounded P root s) {all : List Nat} (hall : allGroups.run s = .ok all s)
    (htraverses : Traverses s.groups all) :
    (allNodes true true false).run s = .ok
      (all.flatMap (fun g => (nodesOf s.groups g).flatMap s.withComponents) ++
        (s.launcher.bind Launcher.service).toList) s := by
  obtain ⟨l, hl, -⟩ := hs.launcher
  have hgroup : ∀ g ∈ all, (do
      let parts ← (← getGroup g).nodes.mapM fun i => do
        match (← getNode i).kind with
        | .composer _ => if true then return i :: (← managedComponents i) else return [i]
        | _ => return [i]
      return parts.flatten : Launch (List Nat)).run s =
        .ok ((nodesOf s.groups g).flatMap s.withComponents) s := by
    intro g hg
    have hk := Array.getElem?_eq_getElem ((htraverses.complete g).1 hg)
    have hparts := run_mapM_of_ok fun i hi =>
      run_withComponents (hs.rooted.nodes g _ hk i hi)
    rw [run_bind_of_ok (run_getGroup hk), run_bind_of_ok hparts, nodesOf, hk]
    rfl
  have hown : (ownNodes true true).run s = .ok
      (all.flatMap (fun g => (nodesOf s.groups g).flatMap s.withComponents) ++ l.service.toList) s := by
    refine (run_bind_of_ok hall).trans ((run_bind_of_ok (run_mapM_of_ok hgroup)).trans ?_)
    rw [run_bind_of_ok (run_getLauncher hl)]
    rfl
  rw [allNodes, run_bind_of_ok hown, hl]
  rfl

/-- Once a launch has begun, and whatever it does to groups: the groups that are found are those of the
tree, each once, the outermost one first, and each behind the one it is under and those that were made
before it under the same one. The nodes that are found are those of these groups, each composer with its
components behind it, and then the launch service. Nodes stand in a group in the order in which they
were put into it: those that are in it stay where they are, and a node that is made is put behind
them. -/
theorem groups_and_nodes_in_order {s₀ s₁ : Session} (hfresh : s₀.groups = #[])
    {name launchArgs rootArg : Value} (hbegin : (begin name launchArgs rootArg).run s₀ = .ok () s₁)
    {contexts : List Context} (hruns : Runs P s₁ contexts s) :
    (∃ all, allGroups.run s = .ok all s ∧ Traverses s.groups all ∧
      (allNodes true true false).run s = .ok
        (all.flatMap (fun g => (nodesOf s.groups g).flatMap s.withComponents) ++
          (s.launcher.bind Launcher.service).toList) s) ∧
    (∀ a : Act, (∀ part ∈ a.labels, P part) → ∀ g,
      nodesOf s.groups g <+: nodesOf ((a.launch contexts).after s).groups g) ∧
    (∀ args i t, (node args).run s = .ok i t →
      nodesOf t.groups s.tip = nodesOf s.groups s.tip ++ [i]) ∧
    ∀ args i t, (compose args).run s = .ok i t → nodesOf t.groups s.tip =
      if i ∈ nodesOf s.groups s.tip then nodesOf s.groups s.tip
      else nodesOf s.groups s.tip ++ [i] := by
  obtain ⟨hs, hcontexts⟩ := hruns.grounded (grounded_begin hfresh hbegin)
  obtain ⟨scope, hwithin⟩ := hs.exists_within
  obtain ⟨all, hall, htraverses⟩ := run_allGroups hs
  refine ⟨⟨all, hall, htraverses, run_allNodes hs hall htraverses⟩, fun a hparts g => ?_,
    fun args i t hrun => ?_, fun args i t hrun => ?_⟩
  · have hdevelops := ((a.develops hs hcontexts hparts).imp (fun _ _ ht => ht.2.1)
      fun _ _ ht => ht.2).after
    exact hdevelops.grown.prefix_nodesOf g
  · obtain ⟨ht, hi⟩ := yields_run_ok (houses_node hwithin args) hrun
    rw [ht.groups, elim_some, nodesOf_putNode hs.tip_lt, if_neg]
    exact fun hmem => absurd (hs.nodesOf_lt hmem) (Nat.not_lt.2 hi)
  · obtain ⟨m, hm, hgroups, -⟩ := (yields_run_ok (houses_compose hwithin args) hrun).made
    rw [hgroups, hm.groups, elim_some, nodesOf_putNode hs.tip_lt]

def Act.robot : List Act :=
  [.find (.str "legs/left") true, .enter "arms", .node ⟨[("name", .str "hand")]⟩, .node ⟨[]⟩,
    .node ⟨[("name", .str "elbow")]⟩]

/-- The groups of the robot, of which the inner one comes last, and its nodes in the order in which
they were made. -/
theorem robot_in_order :
    let s₁ := (begin (.str "bl") .null (.str "robots")).after unbegun
    let s := (Act.runAll Act.robot s₁).2
    Runs (fun _ => True) s₁ (Act.runAll Act.robot s₁).1 s ∧ Traverses s.groups [0, 1, 3, 2] ∧
      (allNodes true true false).run s = .ok [0, 1] s := by
  intro s₁ s
  have hbegin : (begin (.str "bl") .null (.str "robots")).run unbegun = .ok () s₁ :=
    run_eq_of_returns (by decide +kernel)
  have hruns : Runs (fun _ => True) s₁ _ s := runs_runAll (fun _ _ _ _ => trivial) s₁
  obtain ⟨⟨all, hall, htraverses, hnodes⟩, -⟩ := groups_and_nodes_in_order rfl hbegin hruns
  have hgroups : allGroups.result? s = some [0, 1, 3, 2] := by decide +kernel
  have hresult : (allNodes true true false).result? s = some [0, 1] := by decide +kernel
  unfold result? at hgroups hresult
  rw [hall] at hgroups
  rw [hnodes] at hresult
  obtain rfl := some.inj hgroups
  rw [some.inj hresult] at hnodes
  exact ⟨hruns, htraverses, hnodes⟩

end Launch

end Launchpad
