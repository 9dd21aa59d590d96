import Launchpad.Proofs.Groups.Blocks
import Launchpad.Proofs.Groups.Growth

/-!
Looking for groups. A text is cut at its slashes and leads from the outermost group on, so that a group
is found by the way to it from there. The namespace of a group begins with a slash and with the
namespace of the outermost group, and leads somewhere else.
-/

namespace Launchpad

open Launch

variable {P : String → Prop} {root : String} {n : Nat} {groups : Array Group}

namespace Reached

lemma names_inj {names names' : List String} {i : Nat} (h : Reached groups names i)
    (h' : Reached groups names' i) : names = names' := by
  induction h generalizing names' with
  | root hg hparent =>
    cases h' with
    | root hg' => rw [Option.mem_unique hg hg']
    | child _ _ hg' hparent' =>
      obtain rfl := Option.mem_unique hg hg'
      cases hparent.symm.trans hparent'
  | child hp _ hg hparent ih =>
    cases h' with
    | root hg' hparent' =>
      obtain rfl := Option.mem_unique hg hg'
      cases hparent.symm.trans hparent'
    | child hp' _ hg' hparent' =>
      obtain rfl := Option.mem_unique hg hg'
      obtain rfl := Option.mem_unique hparent hparent'
      rw [ih hp']

end Reached

/-! ## Labels and namespaces -/

lemma segments_of_label {label : String} (hslash : '/' ∉ label.toList) (hne : label ≠ "") :
    segments label = [label] := by
  rw [segments, Text.splitAt_of_not_mem hslash]
  simp [hne]

lemma segments_chain {labels : List String}
    (h : ∀ label ∈ labels, '/' ∉ label.toList ∧ label ≠ "") :
    segments (chainNamespace (rootName root :: labels)) = segments root ++ labels := by
  have hlabels : labels.flatMap segments = labels := by
    induction labels with
    | nil => rfl
    | cons label labels ih =>
      obtain ⟨⟨hslash, hne⟩, hlabels⟩ := List.forall_mem_cons.1 h
      rw [List.flatMap_cons, segments_of_label hslash hne, ih hlabels, List.singleton_append]
  rw [segments_chainNamespace, List.flatMap_cons, segments_rootName, hlabels]

/-- A text that begins with a slash, and is not only a slash, leads through a group without a name. -/
lemma wayTo_of_namespace {ns : String} (h : IsNamespace ns) (hne : ns ≠ "/") :
    ∃ parts, wayTo ns = "" :: parts ∧ parts.flatMap segments = segments ns := by
  obtain ⟨cs, hcs⟩ : ∃ cs, ns.toList = '/' :: cs := by
    have hstarts := h.starts
    unfold Text.startsWith at hstarts
    cases hns : ns.toList with
    | nil =>
      rw [hns] at hstarts
      cases hstarts
    | cons c cs =>
      have hfirst : (('/' == c) && List.isPrefixOf [] cs) = true := by rwa [hns] at hstarts
      rw [← eq_of_beq (Bool.and_eq_true_iff.1 hfirst).1]
      exact ⟨cs, rfl⟩
  have hempty : ns ≠ "" := by
    rintro rfl
    cases hcs
  refine ⟨(Text.splitChars '/' cs).map String.ofList, ?_, ?_⟩
  · rw [wayTo, if_neg (not_or.2 ⟨hempty, hne⟩), Text.splitAt, hcs]
    rfl
  · rw [flatMap_segments_ofList, Segments.segments_eq, hcs, Segments.pieces_cons_slash]

lemma wayTo_intercalate {labels : List String}
    (h : ∀ label ∈ labels, '/' ∉ label.toList ∧ label ≠ "") :
    wayTo ("/".intercalate labels) = labels := by
  by_cases hnil : labels = []
  · rw [hnil]
    rfl
  · have hsplit : Text.splitAt ("/".intercalate labels) '/' = labels :=
      Text.splitAt_intercalate hnil fun label hlabel => (h label hlabel).1
    rw [wayTo, if_neg ?_, hsplit]
    rintro (htext | htext)
    all_goals
      rw [htext] at hsplit
      exact (h "" (hsplit ▸ List.mem_cons_self)).2 rfl

namespace Launch

variable {s : Session}

lemma run_findGroup (hs : Grounded P root s) (text : String) :
    ∃ r, (findGroup (.str text) false).run s = .ok (r.elim .null (.ref ∘ .group)) s ∧
      ∀ i, r = some i ↔ Reached s.groups (rootName root :: wayTo text) i := by
  obtain ⟨v, t, hrun, -, r, rfl, hfound⟩ :=
    (found_findGroup (E := fun _ _ => False) hs text false (by simp)).exists_ok
  cases r with
  | none =>
    obtain ⟨-, rfl, hnone⟩ := hfound
    refine ⟨none, hrun, fun i => ⟨fun h => ?_, fun h => absurd h (hnone i)⟩⟩
    cases h
  | some j =>
    obtain ⟨hj, hsame⟩ := hfound
    obtain rfl := hsame (.inl rfl)
    refine ⟨some j, hrun, fun i => ⟨fun h => Option.some.inj h ▸ hj, fun h => ?_⟩⟩
    rw [hs.rooted.reached_inj h hj]

lemma run_findGroup_of_reached (hs : Grounded P root s) {text : String} {i : Nat}
    (hi : Reached s.groups (rootName root :: wayTo text) i) (create : Bool) :
    (findGroup (.str text) create).run s = .ok (.ref (.group i)) s := by
  have hweak : Grounded (fun _ => True) root s :=
    ⟨hs.rooted.weaken fun _ _ => trivial, hs.launcher⟩
  obtain ⟨v, t, hrun, -, r, rfl, hfound⟩ :=
    (found_findGroup (E := fun _ _ => False) hweak text create
      fun _ _ _ => trivial).exists_ok
  cases r with
  | none => exact absurd hi (hfound.2.2 i)
  | some j =>
    obtain ⟨hj, hsame⟩ := hfound
    obtain rfl := hsame (.inr ⟨i, hi⟩)
    rwa [hs.rooted.reached_inj hi hj]

/-- Where no group is without a name, the namespace of a group does not lead to it, and looking for it
makes another group. -/
lemma run_findGroup_namespace (hs : Grounded (· ≠ "") root s) {ns : String} (hns : IsNamespace ns)
    (hne : ns ≠ "/") :
    (findGroup (.str ns) false).run s = .ok .null s ∧
      ∃ j t, (findGroup (.str ns) true).run s = .ok (.ref (.group j)) t ∧ s.groups.size ≤ j ∧
        segments (groupNamespace t.groups j) = segments root ++ segments ns := by
  obtain ⟨parts, hway, hparts⟩ := wayTo_of_namespace hns hne
  have unnamed {t : Session} (hextended : Extended s.groups t.groups) {i : Nat}
      (hi : i < s.groups.size) : ¬ Reached t.groups (rootName root :: wayTo ns) i := by
    intro hreached
    obtain ⟨labels, hlabels, hall⟩ := hs.rooted.exists_reached hi
    have hsame := (hlabels.extended hextended).names_inj hreached
    rw [hway, List.cons.injEq] at hsame
    exact (hall "" (hsame.2 ▸ List.mem_cons_self)).2 rfl
  constructor
  · obtain ⟨r, hrun, hr⟩ := run_findGroup hs ns
    cases r with
    | none => exact hrun
    | some i =>
      have hi := (hr i).1 rfl
      obtain ⟨g, hg⟩ := hi.exists_group
      exact absurd hi (unnamed (.refl _) (Array.getElem?_eq_some_iff.1 hg).1)
  · have hweak : Grounded (fun _ => True) root s :=
      ⟨hs.rooted.weaken fun _ _ => trivial, hs.launcher⟩
    obtain ⟨v, t, hrun, hsprouts, r, rfl, hfound⟩ :=
      (found_findGroup (E := fun _ _ => False) hweak ns true
        fun _ _ _ => trivial).exists_ok
    cases r with
    | none => cases hfound.1
    | some j =>
      refine ⟨j, t, hrun, Nat.le_of_not_lt fun hlt => unnamed hsprouts.1.extended hlt hfound.1, ?_⟩
      rw [hfound.1.groupNamespace_eq, segments_chainNamespace, List.flatMap_cons, segments_rootName,
        hway, List.flatMap_cons, hparts]
      rfl

/-- Once a launch has begun, and whatever it does to groups, a text finds the group at the end of the
way from the outermost one that the text names, if there is one; and then nothing is made. Where no
group is without a name, different groups have different namespaces, and each group is found by the
part of its namespace behind that of the outermost group. It is found by its whole namespace only if
this is a single slash. Else nothing is found, and if the group is to be made, another one is made,
whose namespace has that of the outermost group twice. -/
theorem groups_found_below_root {s₀ s₁ : Session} (hfresh : s₀.groups = #[])
    {name launchArgs rootArg : Value} (hbegin : (begin name launchArgs rootArg).run s₀ = .ok () s₁)
    {contexts : List Context} (hruns : Runs P s₁ contexts s) :
    let root := rootText rootArg
    (∀ text, ∃ r, (findGroup (.str text) false).run s = .ok (r.elim .null (.ref ∘ .group)) s ∧
      ∀ i, r = some i ↔ Reached s.groups (rootName root :: wayTo text) i) ∧
    (∀ text i, Reached s.groups (rootName root :: wayTo text) i →
      (findGroup (.str text) true).run s = .ok (.ref (.group i)) s) ∧
    ((∀ part, P part → part ≠ "") → ∀ i < s.groups.size,
      let ns := groupNamespace s.groups i
      (∀ j < s.groups.size, groupNamespace s.groups j = ns → j = i) ∧
      (∃ labels, segments ns = segments root ++ labels ∧ ∀ create,
        (findGroup (.str ("/".intercalate labels)) create).run s = .ok (.ref (.group i)) s) ∧
      (ns = "/" ∧ (∀ create, (findGroup (.str ns) create).run s = .ok (.ref (.group i)) s) ∨
        ns ≠ "/" ∧ (findGroup (.str ns) false).run s = .ok .null s ∧
          ∃ j t, (findGroup (.str ns) true).run s = .ok (.ref (.group j)) t ∧ s.groups.size ≤ j ∧
            segments (groupNamespace t.groups j) = segments root ++ segments ns)) := by
  intro root
  obtain ⟨hs, -⟩ := hruns.grounded (grounded_begin hfresh hbegin)
  refine ⟨run_findGroup hs, fun text i hi => run_findGroup_of_reached hs hi true, fun hP i hi => ?_⟩
  have hnamed : Grounded (· ≠ "") root s := ⟨hs.rooted.weaken hP, hs.launcher⟩
  obtain ⟨labels, hlabels, hall⟩ := hnamed.rooted.exists_reached hi
  have hns := hlabels.groupNamespace_eq
  intro ns
  have hsegments : segments ns = segments root ++ labels := by rw [← segments_chain hall, ← hns]
  have hfound (create : Bool) :
      (findGroup (.str ("/".intercalate labels)) create).run s = .ok (.ref (.group i)) s := by
    refine run_findGroup_of_reached hs ?_ create
    rwa [wayTo_intercalate hall]
  refine ⟨fun j hj heq => ?_, ⟨labels, hsegments, hfound⟩, ?_⟩
  · obtain ⟨others, hothers, hfit⟩ := hnamed.rooted.exists_reached hj
    rw [← heq, hothers.groupNamespace_eq, segments_chain hfit] at hsegments
    rw [List.append_cancel_left hsegments] at hothers
    exact hs.rooted.reached_inj hothers hlabels
  · by_cases hslash : ns = "/"
    · refine .inl ⟨hslash, fun create => run_findGroup_of_reached hs ?_ create⟩
      have hempty : segments root ++ labels = [] := by
        rw [← hsegments, hslash]
        decide
      rw [hslash]
      rwa [(List.append_eq_nil_iff.1 hempty).2] at hlabels
    · have hproper : IsNamespace ns := by
        rw [show ns = _ from hns]
        exact isNamespace_chainNamespace (List.cons_ne_nil _ _)
      exact .inr ⟨hslash, run_findGroup_namespace hnamed hproper hslash⟩

/-- The group of a robot's left arm, which is found by its way below the outermost one only. -/
theorem groups_found_below_root_arm :
    let acts : List Act := [.enter "arms", .find (.str "arms/left") true]
    let s₁ := (begin (.str "bl") .null (.str "robots")).after unbegun
    let s := (Act.runAll acts s₁).2
    Runs (· ≠ "") s₁ (Act.runAll acts s₁).1 s ∧
      (findGroup (.str "arms/left") false).run s = .ok (.ref (.group 2)) s ∧
      (findGroup (.str "/robots/arms/left") false).run s = .ok .null s := by
  intro acts s₁ s
  have hbegin : (begin (.str "bl") .null (.str "robots")).run unbegun = .ok () s₁ :=
    run_eq_of_returns (by decide +kernel)
  have hruns : Runs (· ≠ "") s₁ (Act.runAll acts s₁).1 s := runs_runAll (by decide +kernel) s₁
  obtain ⟨-, -, hgroups⟩ := groups_found_below_root rfl hbegin hruns
  have hns : groupNamespace s.groups 2 = "/robots/arms/left" := by decide +kernel
  obtain ⟨-, ⟨labels, hlabels, hfound⟩, hwhole⟩ := hgroups (fun _ h => h) 2 (by decide +kernel)
  rw [hns] at hlabels hwhole
  have hbelow : labels = ["arms", "left"] :=
    List.append_cancel_left (hlabels.symm.trans (by decide +kernel :
      segments "/robots/arms/left" = segments (rootText (.str "robots")) ++ ["arms", "left"]))
  rw [hbelow] at hfound
  exact ⟨hruns, hfound false, (hwhole.resolve_left fun h => absurd h.1 (by decide)).2.1⟩

/-- The namespace of a group does not lead to it, and looking for it makes another group with the same
namespace. -/
theorem namespace_made_twice :
    let s := (Act.runAll [.enter "a"] ((begin (.str "bl") .null (.str "/")).after unbegun)).2
    let t := (findGroup (.str "/a") true).after s
    groupNamespace s.groups 1 = "/a" ∧
      ((findGroup (.str "/a") false).result? s).any (· matches .null) ∧
      t.groups.size = 4 ∧ groupNamespace t.groups 1 = "/a" ∧ groupNamespace t.groups 3 = "/a" := by
  decide +kernel

end Launch

end Launchpad
